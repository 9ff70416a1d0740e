import Scaffold.Proofs.Naming.Words

/-!
# Case forms

The Pascal form and the camel form of a name hang on its lower case only.  Snake case is in lower case
throughout, so that it stays as it is, and it takes the first character of the camel form for that
of the Pascal form.
-/

namespace Scaffold.Naming

open Text

/-! ## Forms of strings -/

@[simp] theorem toList_pascal (name : String) :
    (pascal name).toList = pascalChars name.toList := String.toList_ofList

@[simp] theorem toList_camel (name : String) :
    (camel name).toList = camelChars name.toList := String.toList_ofList

@[simp] theorem toList_snake (name : String) :
    (snake name).toList = snakeChars name.toList := String.toList_ofList

@[simp] theorem toList_lowerString (name : String) :
    (lowerString name).toList = lower name.toList := String.toList_ofList

/-! ## The lower case of a name -/

theorem capitalizeWord_lower (word : List Char) :
    capitalizeWord (lower word) = capitalizeWord word := by
  rw [capitalizeWord, capitalizeWord, lower_lower]

theorem pascalChars_lower (name : List Char) : pascalChars (lower name) = pascalChars name := by
  rw [pascalChars, pascalChars, words_lower, List.flatMap_map]
  simp only [capitalizeWord_lower]

theorem camelChars_of_pascalChars {name other : List Char}
    (h : pascalChars name = pascalChars other) : camelChars name = camelChars other := by
  rw [camelChars, camelChars, h]

theorem pascal_lowerString (name : String) : pascal (lowerString name) = pascal name := by
  rw [pascal, pascal, toList_lowerString, pascalChars_lower]

theorem camel_lowerString (name : String) : camel (lowerString name) = camel name := by
  rw [camel, camel, toList_lowerString, camelChars_of_pascalChars (pascalChars_lower _)]

/-! ## Snake case -/

theorem toNat_of_isAsciiUpper {c : Char} (h : isAsciiUpper c = true) :
    65 ≤ c.toNat ∧ c.toNat ≤ 90 := by
  simpa [isAsciiUpper, Char.le_def, UInt32.le_iff_toNat_le] using h

theorem capitals_not_lowered : ∀ code < 91, 65 ≤ code → ¬ IsLowered (Char.ofNat code) := by
  decide +kernel

theorem isAsciiUpper_of_lowered {c : Char} (h : IsLowered c) : isAsciiUpper c = false := by
  rw [← Bool.not_eq_true]
  intro hupper
  obtain ⟨hfirst, hlast⟩ := toNat_of_isAsciiUpper hupper
  apply capitals_not_lowered c.toNat (by omega) hfirst
  rwa [Char.ofNat_toNat]

theorem markCapitals_of_no_capital {text : List Char} (h : ∀ c ∈ text, isAsciiUpper c = false) :
    markCapitals text = text := by
  induction text with
  | nil => rfl
  | cons c rest ih =>
      obtain ⟨hc, hrest⟩ := List.forall_mem_cons.mp h
      rw [markCapitals, List.flatMap_cons, ← markCapitals, ih hrest]
      simp [hc]

theorem isLowered_of_mem_snakeChars {name : List Char} {c : Char} (h : c ∈ snakeChars name) :
    IsLowered c := by
  cases name with
  | nil => cases h
  | cons first rest => exact (mem_lowerAfter h).2

theorem snakeChars_of_lowered {text : List Char} (h : ∀ c ∈ text, IsLowered c) :
    snakeChars text = text := by
  cases text with
  | nil => rfl
  | cons c rest =>
      have hrest : ∀ d ∈ rest, isAsciiUpper d = false := fun d hd =>
        isAsciiUpper_of_lowered (h d (List.mem_cons_of_mem c hd))
      rw [snakeChars, markCapitals_of_no_capital hrest]
      exact lowerAfter_of_lowered h false

theorem snake_of_lowered {s : String} (h : ∀ c ∈ s.toList, IsLowered c) : snake s = s := by
  rw [snake, snakeChars_of_lowered h, String.ofList_toList]

theorem isLowered_of_mem_snake {s : String} {c : Char} (h : c ∈ (snake s).toList) :
    IsLowered c := by
  rw [toList_snake] at h
  exact isLowered_of_mem_snakeChars h

theorem snake_snake (s : String) : snake (snake s) = snake s :=
  snake_of_lowered fun _ hc => isLowered_of_mem_snake hc

/-! ## The first character -/

/-- A word begins with the upper case of a character in lower case. -/
theorem capitalizeWord_of_ne_nil {word : List Char} (h : word ≠ []) :
    ∃ c rest, IsLowered c ∧ lower word = c :: rest ∧
      capitalizeWord word = upperChar c ++ rest := by
  cases hlower : lower word with
  | nil => exact absurd (lower_eq_nil.mp hlower) h
  | cons c rest =>
      refine ⟨c, rest, ?_, rfl, ?_⟩
      · exact (mem_lowerAfter (hlower ▸ List.mem_cons_self)).2
      · simp [capitalizeWord, hlower, upper]

theorem pascalChars_cases (name : List Char) : pascalChars name = [] ∨
    ∃ c rest d, pascalChars name = c :: rest ∧ lowerChar c = [d] := by
  cases hwords : words name with
  | nil => exact Or.inl (by rw [pascalChars, hwords, List.flatMap_nil])
  | cons word more =>
      have hword : word ∈ words name := hwords ▸ List.mem_cons_self
      obtain ⟨c, rest, hc, -, hcapital⟩ := capitalizeWord_of_ne_nil (mem_words hword).1
      cases hupper : upperChar c with
      | nil => exact absurd hupper (upperChar_ne_nil c)
      | cons first others =>
          obtain ⟨d, hd⟩ := lowerChar_of_mem_upperChar hc (hupper ▸ List.mem_cons_self)
          refine Or.inr ⟨first, others ++ rest ++ more.flatMap capitalizeWord, d, ?_, hd⟩
          rw [pascalChars, hwords, List.flatMap_cons, hcapital, hupper]
          simp

/-- Snake case does not tell the camel form from the Pascal form. -/
theorem snakeChars_camelChars (name : List Char) :
    snakeChars (camelChars name) = snakeChars (pascalChars name) := by
  rcases pascalChars_cases name with hnil | ⟨c, rest, d, hcons, hd⟩
  · rw [camelChars, hnil]
  · have hcamel : camelChars name = d :: rest := by
      rw [camelChars, hcons]
      simp only [lower_single hd, List.singleton_append]
    rw [hcamel, hcons]
    exact lower_cons_of_lowerChar hd (markCapitals rest)

theorem snake_camel (name : String) : snake (camel name) = snake (pascal name) := by
  rw [snake, snake, toList_camel, toList_pascal, snakeChars_camelChars]

end Scaffold.Naming
