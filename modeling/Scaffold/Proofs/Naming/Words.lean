import Scaffold.Naming
import Scaffold.Proofs.Text.Upper

/-!
# Words of a name

The words of a name are what stands between its delimiters, empty pieces left out.  A delimiter
parts a name into two whose words are found on their own, and lower case changes nothing about
where the delimiters are.
-/

namespace Scaffold.Naming

open Text

/-- Text without a delimiter. -/
def IsPlain (text : List Char) : Prop := ∀ c ∈ text, isDelimiter c = false

/-- The pieces between the delimiters, empty ones left out. -/
def segments (name : List Char) : List (List Char) :=
  (name.splitOnP isDelimiter).filter fun piece => !piece.isEmpty

/-- Induction over a name from one delimiter to the next. -/
@[elab_as_elim]
theorem delimited_induction {motive : List Char → Prop}
    (plain : ∀ word, IsPlain word → motive word)
    (delimited : ∀ front d back, isDelimiter d = true → motive front → motive back →
      motive (front ++ d :: back)) (name : List Char) : motive name := by
  generalize hlength : name.length = length
  induction length using Nat.strong_induction_on generalizing name with
  | _ length ih =>
      have hword : IsPlain (name.takeWhile fun c => !isDelimiter c) := by
        intro c hc
        simpa using List.mem_takeWhile_imp hc
      -- The first word is cut off; what is left behind its delimiter is shorter than the name.
      rw [← List.takeWhile_append_dropWhile (p := fun c => !isDelimiter c) (l := name)]
      cases hrest : name.dropWhile fun c => !isDelimiter c with
      | nil =>
          rw [List.append_nil]
          exact plain _ hword
      | cons d rest =>
          have hne : name.dropWhile (fun c => !isDelimiter c) ≠ [] := by simp [hrest]
          have hd : isDelimiter d = true := by
            have hhead := List.head_dropWhile_not (fun c => !isDelimiter c) hne
            simpa [hrest] using hhead
          have hle := (List.dropWhile_sublist (l := name) fun c => !isDelimiter c).length_le
          rw [hrest, List.length_cons] at hle
          exact delimited _ d rest hd (plain _ hword) (ih rest.length (by omega) rest rfl)

/-! ## Words -/

variable {d : Char}

theorem wordsFrom_append_delimiter (hd : isDelimiter d = true) (word front back : List Char) :
    wordsFrom word (front ++ d :: back) = wordsFrom word front ++ words back := by
  induction front generalizing word with
  | nil =>
      simp only [List.nil_append, wordsFrom, hd, if_true]
      split <;> rfl
  | cons c front ih =>
      simp only [List.cons_append, wordsFrom, ih]
      split
      · split <;> rfl
      · rfl

/-- A delimiter parts the words. -/
theorem words_append_delimiter (hd : isDelimiter d = true) (front back : List Char) :
    words (front ++ d :: back) = words front ++ words back :=
  wordsFrom_append_delimiter hd [] front back

theorem wordsFrom_plain {text : List Char} (h : IsPlain text) (word : List Char) :
    wordsFrom word text = wordsFrom (text.reverse ++ word) [] := by
  induction text generalizing word with
  | nil => rfl
  | cons c rest ih =>
      obtain ⟨hc, hrest⟩ := List.forall_mem_cons.mp h
      have hreverse : (c :: rest).reverse ++ word = rest.reverse ++ c :: word := by simp
      rw [hreverse, ← ih hrest (c :: word)]
      exact if_neg (by simp [hc])

theorem words_plain {text : List Char} (h : IsPlain text) :
    words text = if text.isEmpty then [] else [text] := by
  rw [words, wordsFrom_plain h, List.append_nil, wordsFrom, List.isEmpty_reverse,
    List.reverse_reverse]

/-- A delimiter parts the Pascal form, and leaves nothing of itself there. -/
theorem pascalChars_append_delimiter (hd : isDelimiter d = true) (front back : List Char) :
    pascalChars (front ++ d :: back) = pascalChars front ++ pascalChars back := by
  rw [pascalChars, words_append_delimiter hd, List.flatMap_append]
  rfl

theorem pascalChars_plain {word : List Char} (h : IsPlain word) (hne : word ≠ []) :
    pascalChars word = capitalizeWord word := by
  rw [pascalChars, words_plain h, if_neg (by simpa using hne), List.flatMap_singleton]

theorem words_eq_segments (name : List Char) : words name = segments name := by
  induction name using delimited_induction with
  | plain word hword =>
      rw [words_plain hword, segments, List.splitOnP_eq_singleton hword]
      cases word <;> rfl
  | delimited front d back hd ihfront ihback =>
      rw [words_append_delimiter hd, ihfront, ihback, segments, segments, segments,
        List.splitOnP_append_cons _ _ hd, List.filter_append]

theorem mem_words {name word : List Char} (h : word ∈ words name) :
    word ≠ [] ∧ ∀ c ∈ word, c ∈ name ∧ isDelimiter c = false := by
  induction name using delimited_induction with
  | plain text htext =>
      rw [words_plain htext] at h
      split at h
      · cases h
      · next hne =>
          rw [List.mem_singleton.mp h]
          exact ⟨by simpa using hne, fun c hc => ⟨hc, htext c hc⟩⟩
  | delimited front d back hd ihfront ihback =>
      rw [words_append_delimiter hd, List.mem_append] at h
      rcases h with h | h
      · obtain ⟨hne, hall⟩ := ihfront h
        exact ⟨hne, fun c hc => ⟨List.mem_append_left _ (hall c hc).1, (hall c hc).2⟩⟩
      · obtain ⟨hne, hall⟩ := ihback h
        refine ⟨hne, fun c hc => ⟨?_, (hall c hc).2⟩⟩
        exact List.mem_append_right front (List.mem_cons_of_mem d (hall c hc).1)

/-! ## Delimiters and case -/

theorem isDelimiter_iff {c : Char} : isDelimiter c = true ↔ c = '_' ∨ c = '-' ∨ c = ' ' := by
  simp [isDelimiter, or_assoc]

theorem toNat_of_isDelimiter {c : Char} (h : isDelimiter c = true) :
    c.toNat = 95 ∨ c.toNat < 65 := by
  rcases isDelimiter_iff.mp h with rfl | rfl | rfl <;> decide

theorem breaksCase_of_isDelimiter {c : Char} (h : isDelimiter c = true) :
    BreaksCase c ∧ lowerChar c = [c] := by
  rcases isDelimiter_iff.mp h with rfl | rfl | rfl <;> exact ⟨⟨by decide, by decide⟩, by decide⟩

/-- Lower case keeps the delimiters where they are. -/
theorem lower_append_delimiter (hd : isDelimiter d = true) (front back : List Char) :
    lower (front ++ d :: back) = lower front ++ d :: lower back := by
  obtain ⟨hbreaks, hlower⟩ := breaksCase_of_isDelimiter hd
  rw [lower, lowerAfter_append_break hbreaks, hlower]
  rfl

theorem isPlain_lower {text : List Char} (h : IsPlain text) : IsPlain (lower text) := by
  intro c hc
  rw [← Bool.not_eq_true]
  intro hd
  rcases (mem_lowerAfter hc).1 with hc | hc
  · exact absurd hd (by simp [h c hc])
  · have := toNat_of_isDelimiter hd
    omega

/-- The words of a name in lower case are its words in lower case. -/
theorem words_lower (name : List Char) : words (lower name) = (words name).map lower := by
  induction name using delimited_induction with
  | plain word hword =>
      rw [words_plain hword, words_plain (isPlain_lower hword)]
      cases word with
      | nil => rfl
      | cons c rest => simp
  | delimited front d back hd ihfront ihback =>
      rw [lower_append_delimiter hd, words_append_delimiter hd, words_append_delimiter hd, ihfront,
        ihback, List.map_append]

end Scaffold.Naming
