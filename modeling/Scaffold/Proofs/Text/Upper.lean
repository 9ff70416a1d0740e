import Scaffold.Proofs.Text.Lower

/-!
# Upper case

Upper case brings neither a sign nor the dotted capital into a text: that capital is the only
character that two characters stand for in lower case.
-/

namespace Scaffold.Text

open CaseData

/-- All runs lead to valid letters. -/
theorem upperRuns_beyond_signs : ∀ run ∈ upperRuns, 65 ≤ (run.first : Int) + run.shift ∧
    (run.last + run.shift < 95 ∨ 95 < run.first + run.shift) ∧
    (run.last + run.shift < 304 ∨ 304 < run.first + run.shift) ∧
    (run.last + run.shift < 0xd800 ∨
      0xe000 ≤ run.first + run.shift ∧ run.last + run.shift < 0x110000) := by
  decide +kernel

theorem upperSpecials_beyond_signs : ∀ special ∈ upperSpecials, special.2 ≠ [] ∧
    ∀ code ∈ special.2, 65 ≤ (Char.ofNat code).toNat ∧ (Char.ofNat code).toNat ≠ 95 ∧
      (Char.ofNat code).toNat ≠ 304 := by
  decide +kernel

theorem mem_upperSpecials {n : Nat} {codes : List Nat} (h : upperSpecials.lookup n = some codes) :
    (n, codes) ∈ upperSpecials := by
  obtain ⟨front, back, htable, -⟩ := List.lookup_eq_some_iff.mp h
  rw [htable]
  exact List.mem_append_right front List.mem_cons_self

/-- What upper case makes of a character is that character or a letter other than the dotted
capital. -/
theorem mem_upperChar {c d : Char} (h : d ∈ upperChar c) :
    d = c ∨ 65 ≤ d.toNat ∧ d.toNat ≠ 95 ∧ d.toNat ≠ 304 := by
  unfold upperChar mapped at h
  split at h
  · next codes hcodes =>
      obtain ⟨code, hcode, rfl⟩ := List.mem_map.mp h
      exact Or.inr ((upperSpecials_beyond_signs _ (mem_upperSpecials hcodes)).2 code hcode)
  · split at h
    · next shift hshift =>
        obtain ⟨run, hrun, rfl, hfirst, hlast, -⟩ := shiftIn?_some hshift
        obtain ⟨hletter, hline, hdotted, hvalid⟩ := upperRuns_beyond_signs run hrun
        refine Or.inr ?_
        rw [List.mem_singleton.mp h, shiftChar, toNat_ofNat]
        · omega
        · unfold Nat.isValidChar
          omega
    · exact Or.inl (List.mem_singleton.mp h)

theorem upperChar_ne_nil (c : Char) : upperChar c ≠ [] := by
  unfold upperChar mapped
  split
  · next codes hcodes =>
      simpa using (upperSpecials_beyond_signs _ (mem_upperSpecials hcodes)).1
  · split <;> exact List.cons_ne_nil _ _

/-- The upper case of a character in lower case begins with a character whose lower case is one
character. -/
theorem lowerChar_of_mem_upperChar {c d : Char} (hc : IsLowered c) (h : d ∈ upperChar c) :
    ∃ e, lowerChar d = [e] := by
  rcases lowerChar_cases d with ⟨hdotted, -⟩ | ⟨-, shift, -, hd⟩ | ⟨-, -, hd⟩
  · rcases mem_upperChar h with rfl | ⟨-, -, hne⟩
    · have : d = 'İ' := Char.toNat_inj.mp hdotted
      rw [this] at hc
      exact absurd hc (by decide)
    · exact absurd hdotted hne
  · exact ⟨_, hd⟩
  · exact ⟨_, hd⟩

end Scaffold.Text
