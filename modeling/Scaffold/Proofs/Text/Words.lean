import Scaffold.Text.Classes
import Mathlib.Data.List.TakeWhile

/-!
# Words and lines

The words of a text are what stands between white space.  No word goes beyond the end of a line, so
the words of a text are those of its lines.
-/

namespace Scaffold.Text

variable {c : Char} {text : List Char}

theorem plain_of_head?_dropWhile (h : c ∈ (text.dropWhile isBlank).head?) : isBlank c = false := by
  have stop := List.head?_dropWhile_not isBlank text
  rw [Option.mem_def.mp h] at stop
  simpa using stop

theorem blank_of_head?_dropWhile (h : c ∈ (text.dropWhile (!isBlank ·)).head?) :
    isBlank c = true := by
  have stop := List.head?_dropWhile_not (!isBlank ·) text
  rw [Option.mem_def.mp h] at stop
  simpa using stop

/-! ## Words -/

/-- The pieces between white space, empty ones left out. -/
def blankWords (text : List Char) : List (List Char) :=
  (text.splitOnP isBlank).filter fun piece => !piece.isEmpty

@[simp] theorem blankWords_nil : blankWords [] = [] := rfl

/-- White space parts the words. -/
theorem blankWords_append_blank (h : isBlank c = true) (front back : List Char) :
    blankWords (front ++ c :: back) = blankWords front ++ blankWords back := by
  rw [blankWords, List.splitOnP_append_cons _ _ h, List.filter_append]
  rfl

theorem blankWords_cons_blank (h : isBlank c = true) (rest : List Char) :
    blankWords (c :: rest) = blankWords rest :=
  blankWords_append_blank h [] rest

theorem blankWords_dropWhile (text : List Char) :
    blankWords (text.dropWhile isBlank) = blankWords text := by
  induction text with
  | nil => rfl
  | cons c rest ih =>
      by_cases h : isBlank c = true
      · rw [List.dropWhile_cons_of_pos h, blankWords_cons_blank h, ih]
      · rw [List.dropWhile_cons_of_neg h]

/-- A word is followed by the words behind it. -/
theorem blankWords_word {word rest : List Char} (plain : ∀ c ∈ word, isBlank c = false)
    (hne : word ≠ []) (behind : ∀ c ∈ rest.head?, isBlank c = true) :
    blankWords (word ++ rest) = word :: blankWords rest := by
  have single : blankWords word = [word] := by
    rw [blankWords, List.splitOnP_eq_singleton plain]
    simp [hne]
  cases rest with
  | nil => rw [List.append_nil, single, blankWords_nil]
  | cons c rest =>
      have hc : isBlank c = true := behind c rfl
      rw [blankWords_append_blank hc, single, blankWords_cons_blank hc, List.singleton_append]

/-- The first word goes up to the first white space. -/
theorem blankWords_of_head (hne : text ≠ [])
    (head : ∀ c ∈ text.head?, isBlank c = false) :
    blankWords text =
      text.takeWhile (!isBlank ·) :: blankWords (text.dropWhile (!isBlank ·)) := by
  have plain : ∀ c ∈ text.takeWhile (!isBlank ·), isBlank c = false := by
    intro c hc
    simpa using List.mem_takeWhile_imp hc
  have first : text.takeWhile (!isBlank ·) ≠ [] := by
    cases text with
    | nil => exact absurd rfl hne
    | cons c rest => simp [head c rfl]
  have behind : ∀ c ∈ (text.dropWhile (!isBlank ·)).head?, isBlank c = true := by
    intro c hc
    exact blank_of_head?_dropWhile hc
  calc
    blankWords text =
        blankWords (text.takeWhile (!isBlank ·) ++ text.dropWhile (!isBlank ·)) := by
      rw [List.takeWhile_append_dropWhile]
    _ = _ := blankWords_word plain first behind

/-- The first word stands behind the white space at the beginning. -/
theorem head?_blankWords (text : List Char) :
    (blankWords text).head? =
      let word := (text.dropWhile isBlank).takeWhile (!isBlank ·)
      if word = [] then none else some word := by
  rw [← blankWords_dropWhile]
  cases h : text.dropWhile isBlank with
  | nil => rfl
  | cons c rest =>
      have head : c ∈ (text.dropWhile isBlank).head? := by simp [h]
      have plain := plain_of_head?_dropWhile head
      rw [blankWords_of_head (List.cons_ne_nil c rest) (by simpa using plain)]
      simp [plain]

/-- The words of a text are the words of its lines. -/
theorem flatMap_blankWords_splitOn (text : List Char) :
    (text.splitOn '\n').flatMap blankWords = blankWords text := by
  have newline : isBlank '\n' = true := by decide
  have joined (lines : List (List Char)) :
      lines.flatMap blankWords = blankWords (['\n'].intercalate lines) := by
    induction lines with
    | nil => rfl
    | cons line rest ih =>
        cases rest with
        | nil => simp
        | cons next rest =>
            rw [List.flatMap_cons, ih, List.intercalate_cons_cons, List.append_assoc,
              List.singleton_append, blankWords_append_blank newline]
  rw [joined, List.intercalate_splitOn]

end Scaffold.Text
