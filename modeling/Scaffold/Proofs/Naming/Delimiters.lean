import Scaffold.Proofs.Naming.Forms

/-!
# Delimiters in case forms

A delimiter parts the Pascal form as it parts the words of a name, and it goes with the parting: no
form holds one.  Every word leaves something in the forms, so they are empty for want of words only.
-/

namespace Scaffold.Naming

open Text

theorem mem_delimiters_iff {c : Char} : c ∈ ['_', '-', ' '] ↔ isDelimiter c = true := by
  rw [isDelimiter_iff]
  simp

/-! ## Forms without delimiters -/

theorem isPlain_upperChar {c : Char} (h : isDelimiter c = false) : IsPlain (upperChar c) := by
  intro d hd
  rw [← Bool.not_eq_true]
  intro hdelimiter
  rcases mem_upperChar hd with rfl | ⟨hletter, hline, -⟩
  · exact absurd hdelimiter (by simp [h])
  · have := toNat_of_isDelimiter hdelimiter
    omega

theorem IsPlain.append {front back : List Char} (hfront : IsPlain front) (hback : IsPlain back) :
    IsPlain (front ++ back) := by
  intro c hc
  rcases List.mem_append.mp hc with hc | hc
  · exact hfront c hc
  · exact hback c hc

theorem isPlain_capitalizeWord {word : List Char} (h : IsPlain word) :
    IsPlain (capitalizeWord word) := by
  have hlower := isPlain_lower h
  rw [capitalizeWord]
  split
  · exact List.forall_mem_nil _
  · next c rest hcons =>
      rw [hcons] at hlower
      obtain ⟨hc, hrest⟩ := List.forall_mem_cons.mp hlower
      rw [upper, List.flatMap_singleton]
      exact (isPlain_upperChar hc).append hrest

/-- A Pascal form is one word. -/
theorem isPlain_pascalChars (name : List Char) : IsPlain (pascalChars name) := by
  intro c hc
  obtain ⟨word, hword, hc⟩ := List.mem_flatMap.mp hc
  have plain : IsPlain word := fun d hd => ((mem_words hword).2 d hd).2
  exact isPlain_capitalizeWord plain c hc

theorem isPlain_camelChars (name : List Char) : IsPlain (camelChars name) := by
  have hpascal := isPlain_pascalChars name
  rw [camelChars]
  split
  · exact List.forall_mem_nil _
  · next c rest hcons =>
      rw [hcons] at hpascal
      obtain ⟨hc, hrest⟩ := List.forall_mem_cons.mp hpascal
      have single : IsPlain [c] := List.forall_mem_singleton.mpr hc
      exact (isPlain_lower single).append hrest

/-! ## Empty forms -/

theorem words_eq_nil {name : List Char} : words name = [] ↔ ∀ c ∈ name, isDelimiter c = true := by
  induction name using delimited_induction with
  | plain word hword =>
      rw [words_plain hword]
      cases word with
      | nil => simp
      | cons c rest => simp [hword c List.mem_cons_self]
  | delimited front d back hd ihfront ihback =>
      rw [words_append_delimiter hd, List.append_eq_nil_iff, ihfront, ihback]
      simp [hd, or_imp, forall_and]

theorem capitalizeWord_ne_nil {word : List Char} (h : word ≠ []) : capitalizeWord word ≠ [] := by
  obtain ⟨c, rest, -, -, hcapital⟩ := capitalizeWord_of_ne_nil h
  rw [hcapital]
  exact List.append_ne_nil_of_left_ne_nil (upperChar_ne_nil c) rest

theorem pascalChars_eq_nil {name : List Char} :
    pascalChars name = [] ↔ ∀ c ∈ name, isDelimiter c = true := by
  rw [← words_eq_nil, pascalChars, List.flatMap_eq_nil_iff, List.eq_nil_iff_forall_not_mem]
  refine forall_congr' fun word => forall_congr' fun hword => ?_
  exact iff_of_false (capitalizeWord_ne_nil (mem_words hword).1) id

theorem camelChars_eq_nil {name : List Char} : camelChars name = [] ↔ pascalChars name = [] := by
  rw [camelChars]
  split
  · next hnil => simp [hnil]
  · next c rest hcons => simp [hcons]

/-- A delimiter parts the Pascal form, none is left in either form, and nothing but delimiters has
an empty form. -/
theorem forms_at_delimiters (s t : String) :
    (∀ d ∈ ['_', '-', ' '], pascal (s ++ String.singleton d ++ t) = pascal s ++ pascal t) ∧
    (∀ d ∈ ['_', '-', ' '], d ∉ (pascal s).toList ∧ d ∉ (camel s).toList) ∧
    (pascal s = "" ↔ ∀ c ∈ s.toList, c ∈ ['_', '-', ' ']) ∧
    (camel s = "" ↔ ∀ c ∈ s.toList, c ∈ ['_', '-', ' ']) := by
  simp only [mem_delimiters_iff, ← String.toList_eq_nil_iff, toList_pascal, toList_camel]
  refine ⟨?parted, ?free, pascalChars_eq_nil, camelChars_eq_nil.trans pascalChars_eq_nil⟩
  case parted =>
    intro d hd
    rw [← String.toList_inj]
    simp only [toList_pascal, String.toList_append, String.toList_singleton, List.append_assoc,
      List.singleton_append]
    exact pascalChars_append_delimiter hd s.toList t.toList
  case free =>
    intro d hd
    constructor
    · intro hm
      exact absurd hd (by simp [isPlain_pascalChars s.toList d hm])
    · intro hm
      exact absurd hd (by simp [isPlain_camelChars s.toList d hm])

/-- A sigma in front of a delimiter is the last letter of its word, and a letter behind one may
begin its word with two capitals. -/
theorem forms_at_delimiters_sigma :
    pascal "ΟΔΟΣ-ßx" = pascal "ΟΔΟΣ" ++ pascal "ßx" ∧ pascal "ΟΔΟΣ" = "Οδος" ∧
      pascal "ßx" = "SSx" ∧ '-' ∉ (camel "ΟΔΟΣ-ßx").toList ∧ camel " -_" = "" := by
  obtain ⟨parted, -⟩ := forms_at_delimiters "ΟΔΟΣ" "ßx"
  obtain ⟨-, free, -⟩ := forms_at_delimiters "ΟΔΟΣ-ßx" ""
  obtain ⟨-, -, -, empty⟩ := forms_at_delimiters " -_" ""
  exact ⟨parted '-' (by simp), rfl, rfl, (free '-' (by simp)).2, empty.mpr (by simp)⟩

end Scaffold.Naming
