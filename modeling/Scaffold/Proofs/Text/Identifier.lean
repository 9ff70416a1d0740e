import Scaffold.Proofs.Text.Ranges
import Scaffold.Text.Classes

/-!
# Identifiers

The classes of characters hang together: what may start an identifier may stand in one, and is
neither white space nor a digit.  The tables are compared by going through both of them once.
-/

namespace Scaffold.Text

open ClassData

theorem identifierStartRanges_ascending : Ascending identifierStartRanges :=
  .of_isChain (by decide +kernel)

theorem identifierStartRanges_within : within identifierStartRanges identifierRanges = true := by
  decide +kernel

theorem blankRanges_apart : apart identifierStartRanges blankRanges = true := by
  decide +kernel

/-- The digits of one system, from a zero on. -/
def digitRange (base : Nat) : Nat × Nat := (base, base + 9)

theorem decimalZeros_apart :
    apart identifierStartRanges (decimalZeros.map digitRange) = true := by
  decide +kernel

variable {c : Char}

theorem isNamePart_of_start (h : isIdentifierStart c = true) : isNamePart c = true := by
  obtain ⟨start, hstart, hfirst, hlast⟩ := exists_of_inRanges h
  rw [isNamePart, isIdentifierPart, Bool.or_eq_true]
  exact Or.inl (inRanges_of_within identifierStartRanges_ascending identifierStartRanges_within
    hstart hfirst hlast)

theorem isBlank_of_start (h : isIdentifierStart c = true) : isBlank c = false := by
  obtain ⟨start, hstart, hfirst, hlast⟩ := exists_of_inRanges h
  exact inRanges_of_apart identifierStartRanges_ascending (.of_isChain (by decide))
    blankRanges_apart hstart hfirst hlast

theorem digitValue?_of_start (h : isIdentifierStart c = true) : digitValue? c = none := by
  obtain ⟨start, hstart, hfirst, hlast⟩ := exists_of_inRanges h
  rw [digitValue?, Option.map_eq_none_iff, List.find?_eq_none]
  intro base hbase
  have hapart := not_mem_of_apart identifierStartRanges_ascending (.of_isChain (by decide +kernel))
    decimalZeros_apart hstart hfirst hlast (digitRange base) (List.mem_map_of_mem hbase)
  rw [Bool.and_eq_true, decide_eq_true_eq, decide_eq_true_eq]
  simp only [digitRange] at hapart
  omega

end Scaffold.Text
