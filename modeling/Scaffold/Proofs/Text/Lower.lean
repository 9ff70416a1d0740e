import Scaffold.Proofs.Text.Ranges
import Scaffold.Text.Case

/-!
# Lower case

Lower case makes letters out of letters: what it brings into a text lies beyond the signs and the
capitals at the beginning of the code points, and is itself in lower case.  So text in lower case
stays as it is.  What a character becomes hangs on its neighbours for the sake of one letter only,
and no further than to the next character that is neither a letter with case nor a mark.
-/

namespace Scaffold.Text

open CaseData

theorem toNat_ofNat {n : Nat} (h : n.isValidChar) : (Char.ofNat n).toNat = n := by
  unfold Char.ofNat
  rw [dif_pos h]
  rfl

/-! ## The table -/

/-- All runs lead to valid characters beyond the capitals. -/
theorem lowerRuns_beyond_capitals : ∀ run ∈ lowerRuns, 97 ≤ (run.first : Int) + run.shift ∧
    ((run.last : Int) + run.shift < 0xd800 ∨
      0xe000 ≤ (run.first : Int) + run.shift ∧ (run.last : Int) + run.shift < 0x110000) := by
  decide +kernel

theorem lowerSources_ascending : Ascending (sources lowerRuns) := .of_isChain (by decide +kernel)

theorem lowerSources_within : within (sources lowerRuns) casedRanges = true := by decide +kernel

theorem caseIgnorableRanges_ascending : Ascending caseIgnorableRanges :=
  .of_isChain (by decide +kernel)

theorem lowerSources_apart : apart (sources lowerRuns) caseIgnorableRanges = true := by
  decide +kernel

/-- What runs lead to is a letter with case, no mark, and led no further. -/
theorem lowerTargets_checked : within (targets lowerRuns) casedRanges = true ∧
    apart (targets lowerRuns) caseIgnorableRanges = true ∧
    apart (targets lowerRuns) [(304, 304)] = true ∧
    apart (targets lowerRuns) (sources lowerRuns) = true := by
  decide +kernel

theorem toNat_shiftChar {c : Char} {shift : Int} (h : shiftIn? c.toNat lowerRuns = some shift) :
    (shiftChar c shift).toNat = (c.toNat + shift).toNat ∧ 97 ≤ (shiftChar c shift).toNat := by
  obtain ⟨run, hrun, rfl, hfirst, hlast, -⟩ := shiftIn?_some h
  obtain ⟨hcapital, hvalid⟩ := lowerRuns_beyond_capitals run hrun
  rw [shiftChar, toNat_ofNat]
  · omega
  · unfold Nat.isValidChar
    omega

/-- A character whose lower case differs from it has case, and so has what it becomes. -/
theorem cased_of_shiftIn? {c : Char} {shift : Int} (h : shiftIn? c.toNat lowerRuns = some shift) :
    isCased c = true ∧ isCased (shiftChar c shift) = true ∧
      isCaseIgnorable c = false ∧ isCaseIgnorable (shiftChar c shift) = false := by
  obtain ⟨source, hsource, hfirst, hlast⟩ := exists_source h
  obtain ⟨target, htarget, hfirst', hlast'⟩ := exists_target h
  rw [← (toNat_shiftChar h).1] at hfirst' hlast'
  exact ⟨inRanges_of_within lowerSources_ascending lowerSources_within hsource hfirst hlast,
    inRanges_of_within (targets_ascending _) lowerTargets_checked.1 htarget hfirst' hlast',
    inRanges_of_apart lowerSources_ascending caseIgnorableRanges_ascending lowerSources_apart
      hsource hfirst hlast,
    inRanges_of_apart (targets_ascending _) caseIgnorableRanges_ascending lowerTargets_checked.2.1
      htarget hfirst' hlast'⟩

/-! ## Characters -/

theorem lowerSpecials_lookup {code : Nat} {codes : List Nat}
    (h : lowerSpecials.lookup code = some codes) : code = 304 ∧ codes = [105, 775] := by
  simp only [lowerSpecials, List.lookup_cons, List.lookup_nil] at h
  split at h
  · next heq => exact ⟨beq_iff_eq.mp heq, (Option.some.inj h).symm⟩
  · cases h

/-- The lower case of a character is its special form, its offset form, or itself. -/
theorem lowerChar_cases (c : Char) :
    (c.toNat = 304 ∧ lowerChar c = [Char.ofNat 105, Char.ofNat 775]) ∨
    (c.toNat ≠ 304 ∧ ∃ shift, shiftIn? c.toNat lowerRuns = some shift ∧
      lowerChar c = [shiftChar c shift]) ∨
    (c.toNat ≠ 304 ∧ shiftIn? c.toNat lowerRuns = none ∧ lowerChar c = [c]) := by
  unfold lowerChar mapped
  cases hspecial : lowerSpecials.lookup c.toNat with
  | some codes =>
      obtain ⟨hc, rfl⟩ := lowerSpecials_lookup hspecial
      exact Or.inl ⟨hc, rfl⟩
  | none =>
      have hc : c.toNat ≠ 304 := by
        intro hc
        rw [hc] at hspecial
        cases hspecial
      cases hshift : shiftIn? c.toNat lowerRuns with
      | some shift => exact Or.inr (Or.inl ⟨hc, shift, rfl, rfl⟩)
      | none => exact Or.inr (Or.inr ⟨hc, rfl, rfl⟩)

theorem lowerChar_ne_nil (c : Char) : lowerChar c ≠ [] := by
  rcases lowerChar_cases c with ⟨-, h⟩ | ⟨-, shift, -, h⟩ | ⟨-, -, h⟩ <;> simp [h]

theorem mem_lowerChar {c d : Char} (h : d ∈ lowerChar c) : d = c ∨ 97 ≤ d.toNat := by
  rcases lowerChar_cases c with ⟨-, hc⟩ | ⟨-, shift, hshift, hc⟩ | ⟨-, -, hc⟩
  · rw [hc] at h
    refine Or.inr ?_
    rcases List.mem_cons.mp h with rfl | h
    · decide
    · rw [List.mem_singleton.mp h]
      decide
  · rw [hc, List.mem_singleton] at h
    rw [h]
    exact Or.inr (toNat_shiftChar hshift).2
  · rw [hc, List.mem_singleton] at h
    exact Or.inl h

/-- A character that lower case leaves as it is. -/
def IsLowered (c : Char) : Prop := lowerChar c = [c]

instance (c : Char) : Decidable (IsLowered c) := inferInstanceAs (Decidable (_ = _))

theorem IsLowered.ne_sigma {c : Char} (h : IsLowered c) : c ≠ 'Σ' := by
  rintro rfl
  exact absurd h (by decide)

theorem isLowered_of_shiftIn? {c : Char} (special : c.toNat ≠ 304)
    (h : shiftIn? c.toNat lowerRuns = none) : IsLowered c := by
  rcases lowerChar_cases c with ⟨hc, -⟩ | ⟨-, shift, hshift, -⟩ | ⟨-, -, hc⟩
  · exact absurd hc special
  · rw [h] at hshift
    cases hshift
  · exact hc

/-- What a character becomes in lower case is in lower case. -/
theorem isLowered_of_mem_lowerChar {c d : Char} (h : d ∈ lowerChar c) : IsLowered d := by
  rcases lowerChar_cases c with ⟨-, hc⟩ | ⟨-, shift, hshift, hc⟩ | ⟨-, -, hc⟩
  · rw [hc] at h
    rcases List.mem_cons.mp h with rfl | h
    · decide
    · rw [List.mem_singleton.mp h]
      decide
  · -- The runs lead to no character of a run, nor to the one with a special form.
    rw [hc, List.mem_singleton] at h
    obtain ⟨target, htarget, hfirst, hlast⟩ := exists_target hshift
    rw [← (toNat_shiftChar hshift).1] at hfirst hlast
    have hspecial := not_mem_of_apart (targets_ascending _)
      (List.pairwise_singleton ..) lowerTargets_checked.2.2.1 htarget hfirst hlast
      (304, 304) (List.mem_singleton_self _)
    rw [h]
    exact isLowered_of_shiftIn? (by omega)
      (shiftIn?_of_apart (targets_ascending _) lowerSources_ascending lowerTargets_checked.2.2.2
        htarget hfirst hlast)
  · rw [hc, List.mem_singleton] at h
    rw [h]
    exact hc

theorem isLowered_of_lowerChar {c d : Char} (h : lowerChar c = [d]) : IsLowered d :=
  isLowered_of_mem_lowerChar (h ▸ List.mem_singleton_self d)

/-! ## Texts -/

theorem lowerAfter_cons (before : Bool) (c : Char) (rest : List Char) :
    lowerAfter before (c :: rest) =
      lowerInPlace before c rest ++ lowerAfter (casedAfter before c) rest := rfl

theorem mem_lowerInPlace {before : Bool} {c d : Char} {rest : List Char}
    (h : d ∈ lowerInPlace before c rest) : (d = c ∨ 97 ≤ d.toNat) ∧ IsLowered d := by
  unfold lowerInPlace at h
  split at h
  · rw [List.mem_singleton.mp h]
    split
    · exact ⟨Or.inr (by decide), by decide⟩
    · exact ⟨Or.inr (by decide), by decide⟩
  · exact ⟨mem_lowerChar h, isLowered_of_mem_lowerChar h⟩

theorem mem_lowerAfter {before : Bool} {text : List Char} {d : Char}
    (h : d ∈ lowerAfter before text) : (d ∈ text ∨ 97 ≤ d.toNat) ∧ IsLowered d := by
  induction text generalizing before with
  | nil => cases h
  | cons c rest ih =>
      rcases List.mem_append.mp h with h | h
      · obtain ⟨hd, hlowered⟩ := mem_lowerInPlace h
        refine ⟨hd.imp_left ?_, hlowered⟩
        rintro rfl
        exact List.mem_cons_self
      · obtain ⟨hd, hlowered⟩ := ih h
        exact ⟨hd.imp_left (List.mem_cons_of_mem c), hlowered⟩

/-- Lower case adds no sign to a text. -/
theorem not_mem_lowerString {s : String} {sign : Char} (h : sign ∉ s.toList)
    (hsign : sign.toNat < 97) : sign ∉ (lowerString s).toList := by
  intro hm
  rw [lowerString, String.toList_ofList] at hm
  rcases (mem_lowerAfter hm).1 with hd | hd
  · exact h hd
  · omega

theorem lowerInPlace_ne_nil (before : Bool) (c : Char) (rest : List Char) :
    lowerInPlace before c rest ≠ [] := by
  unfold lowerInPlace
  split
  · exact List.cons_ne_nil _ _
  · exact lowerChar_ne_nil c

@[simp] theorem lower_eq_nil {text : List Char} : lower text = [] ↔ text = [] := by
  cases text with
  | nil => simp [lower, lowerAfter]
  | cons c rest => simp [lower, lowerAfter, lowerInPlace_ne_nil]

theorem lowerInPlace_of_lowered {c : Char} (h : IsLowered c) (before : Bool) (rest : List Char) :
    lowerInPlace before c rest = [c] := by
  rw [lowerInPlace, if_neg h.ne_sigma, h]

theorem lowerAfter_of_lowered {text : List Char} (h : ∀ c ∈ text, IsLowered c) (before : Bool) :
    lowerAfter before text = text := by
  induction text generalizing before with
  | nil => rfl
  | cons c rest ih =>
      obtain ⟨hc, hrest⟩ := List.forall_mem_cons.mp h
      rw [lowerAfter_cons, lowerInPlace_of_lowered hc, ih hrest, List.singleton_append]

/-- Text in lower case stays as it is. -/
theorem lower_lower (text : List Char) : lower (lower text) = lower text :=
  lowerAfter_of_lowered (fun _ hc => (mem_lowerAfter hc).2) false

/-! ## Context -/

/-- A character at which every word ends for the purpose of case. -/
def BreaksCase (c : Char) : Prop := isCaseIgnorable c = false ∧ isCased c = false

theorem endsWord_cons (c : Char) (rest : List Char) :
    endsWord (c :: rest) = if isCaseIgnorable c then endsWord rest else !isCased c := by
  unfold endsWord
  cases h : isCaseIgnorable c <;> simp [h]

theorem endsWord_append_break {d : Char} (h : BreaksCase d) (rest tail : List Char) :
    endsWord (rest ++ d :: tail) = endsWord rest := by
  induction rest with
  | nil =>
      rw [List.nil_append, endsWord_cons, h.1, h.2]
      rfl
  | cons c rest ih => rw [List.cons_append, endsWord_cons, endsWord_cons, ih]

/-- What stands on one side of a break has no say in the lower case of the other. -/
theorem lowerAfter_append_break {d : Char} (h : BreaksCase d) (before : Bool)
    (front back : List Char) :
    lowerAfter before (front ++ d :: back) =
      lowerAfter before front ++ (lowerChar d ++ lower back) := by
  induction front generalizing before with
  | nil =>
      -- A break is not the letter that looks in front of itself, and leaves no letter behind.
      have hsigma : d ≠ 'Σ' := by
        rintro rfl
        exact absurd h.2 (by decide)
      have hcontext : casedAfter before d = false := by simp [casedAfter, h.1, h.2]
      have hplace : lowerInPlace before d back = lowerChar d := if_neg hsigma
      rw [List.nil_append, lowerAfter_cons, hplace, hcontext]
      rfl
  | cons c front ih =>
      have hplace : lowerInPlace before c (front ++ d :: back) = lowerInPlace before c front := by
        simp only [lowerInPlace, endsWord_append_break h]
      rw [List.cons_append, lowerAfter_cons, lowerAfter_cons, ih, hplace, List.append_assoc]

/-- A character that is one character in lower case too is as good as that one. -/
theorem casedAfter_lowerChar {c d : Char} (h : lowerChar c = [d]) (before : Bool) :
    casedAfter before c = casedAfter before d := by
  rcases lowerChar_cases c with ⟨-, hc⟩ | ⟨-, shift, hshift, hc⟩ | ⟨-, -, hc⟩
  · rw [hc] at h
    cases h
  · rw [hc, List.singleton_inj] at h
    obtain ⟨source, target, sourceMark, targetMark⟩ := cased_of_shiftIn? hshift
    rw [h] at target targetMark
    simp [casedAfter, source, target, sourceMark, targetMark]
  · rw [hc, List.singleton_inj] at h
    rw [h]

/-- The first character may be put into lower case ahead of the others, if it stays one. -/
theorem lower_cons_of_lowerChar {c d : Char} (h : lowerChar c = [d]) (rest : List Char) :
    lower (d :: rest) = lower (c :: rest) := by
  have hd : IsLowered d := isLowered_of_lowerChar h
  have hfirst : lowerInPlace false c rest = [d] := by
    unfold lowerInPlace
    split
    · next hc =>
        rw [hc] at h
        exact h
    · exact h
  rw [lower, lower, lowerAfter_cons, lowerAfter_cons, lowerInPlace_of_lowered hd, hfirst,
    casedAfter_lowerChar h]

theorem lower_single {c d : Char} (h : lowerChar c = [d]) : lower [c] = [d] := by
  rw [← lower_cons_of_lowerChar h, lower, lowerAfter_cons,
    lowerInPlace_of_lowered (isLowered_of_lowerChar h)]
  rfl

end Scaffold.Text
