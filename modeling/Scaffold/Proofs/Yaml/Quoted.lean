import Scaffold.Proofs.Text.Ascii
import Scaffold.Yaml.Scalar.Quoted

/-!
# Writing quoted scalars

Printable ASCII text between double quotes, with a backslash before each double quote and each
backslash, is read as it was.
-/

namespace Scaffold.Yaml.Quoted

/-- The printable characters of ASCII, the space among them. -/
def IsPrintable (c : Char) : Prop := 0x20 ≤ c.toNat ∧ c.toNat ≤ 0x7e

instance (c : Char) : Decidable (IsPrintable c) := inferInstanceAs (Decidable (_ ∧ _))

/-- A character as it stands between double quotes. -/
def escaped (c : Char) : List Char := if c = '"' ∨ c = '\\' then ['\\', c] else [c]

/-- Text as it stands between double quotes. -/
def inside (text : List Char) : List Char := text.flatMap escaped

theorem printable_forall {P : Char → Prop}
    (h : ∀ code < 128, IsPrintable (Char.ofNat code) → P (Char.ofNat code)) {c : Char}
    (hc : IsPrintable c) : P c :=
  Text.ascii_forall (P := fun c => IsPrintable c → P c) h (Nat.lt_of_le_of_lt hc.2 (by decide)) hc

theorem isBreak_of_printable {c : Char} (h : IsPrintable c) : isBreak c = false :=
  printable_forall (P := fun c => isBreak c = false) (by decide +kernel) h

variable {text : List Char}

theorem inside_cons (c : Char) (text : List Char) :
    inside (c :: text) = escaped c ++ inside text :=
  List.flatMap_cons

/-- Between the quotes stands printable text only. -/
theorem printable_of_mem_inside (printable : ∀ c ∈ text, IsPrintable c) :
    ∀ c ∈ inside text, IsPrintable c := by
  intro c hc
  obtain ⟨d, hd, hc⟩ := List.mem_flatMap.mp hc
  unfold escaped at hc
  split at hc
  · rw [List.mem_cons, List.mem_singleton] at hc
    rcases hc with rfl | rfl
    · decide
    · exact printable _ hd
  · rw [List.mem_singleton] at hc
    exact hc ▸ printable d hd

/-- Before the closing quote no line ends. -/
theorem breakBehindBlanks?_of_printable {front : List Char} (printable : ∀ c ∈ front, IsPrintable c)
    (rest : List Char) : breakBehindBlanks? (front ++ '"' :: rest) = none := by
  induction front with
  | nil => rfl
  | cons c front ih =>
      obtain ⟨hc, hfront⟩ := List.forall_mem_cons.mp printable
      unfold breakBehindBlanks?
      by_cases blank : isSpaceOrTab c = true
      · rw [List.cons_append, List.dropWhile_cons_of_pos blank]
        exact ih hfront
      · rw [List.cons_append, List.dropWhile_cons_of_neg blank]
        simp [isBreak_of_printable hc]

theorem escape_special {c : Char} (special : c = '"' ∨ c = '\\') (rest : List Char) :
    escape (c :: rest) = .ok ([c], rest) := by
  have known : escapes.lookup c = some c := by
    rcases special with rfl | rfl <;> decide
  rw [escape, known]

theorem body_escape {c : Char} (special : c = '"' ∨ c = '\\') {n : Nat} {rest : List Char} :
    body .double (n + 1) ('\\' :: c :: rest) =
      (body .double n rest).map fun (more, rest) => (c :: more, rest) := by
  rw [body, if_neg (by decide), if_pos (by decide), escape_special special]
  simp only [bind, Except.bind]
  cases body .double n rest <;> rfl

theorem body_plain {c : Char} (special : ¬(c = '"' ∨ c = '\\')) {n : Nat} {rest : List Char}
    (goesOn : breakBehindBlanks? (c :: rest) = none) :
    body .double (n + 1) (c :: rest) =
      (body .double n rest).map fun (more, rest) => (c :: more, rest) := by
  rw [not_or] at special
  have mark : c ≠ Style.double.mark := special.1
  rw [body, if_neg mark, if_neg (by simp [special.2]), goesOn]
  cases body .double n rest <;> rfl

/-- One step for each character of the text, and one for the closing quote. -/
theorem body_inside (printable : ∀ c ∈ text, IsPrintable c) (rest : List Char) {n : Nat}
    (enough : text.length < n) :
    body .double n (inside text ++ '"' :: rest) = .ok (text, rest) := by
  induction text generalizing n with
  | nil =>
      obtain ⟨n, rfl⟩ := Nat.exists_eq_add_of_lt enough
      rfl
  | cons c text ih =>
      cases n with
      | zero => cases enough
      | succ n =>
          have later := ih (List.forall_mem_cons.mp printable).2 (Nat.lt_of_succ_lt_succ enough)
          have front := printable_of_mem_inside printable
          rw [inside_cons] at front ⊢
          by_cases special : c = '"' ∨ c = '\\'
          · rw [escaped, if_pos special]
            change body .double (n + 1) ('\\' :: c :: (inside text ++ '"' :: rest)) = _
            rw [body_escape special, later]
            rfl
          · rw [escaped, if_neg special] at front ⊢
            have goesOn : breakBehindBlanks? (c :: (inside text ++ '"' :: rest)) = none :=
              breakBehindBlanks?_of_printable front rest
            change body .double (n + 1) (c :: (inside text ++ '"' :: rest)) = _
            rw [body_plain special goesOn, later]
            rfl

theorem length_le_inside (text : List Char) : text.length ≤ (inside text).length := by
  induction text with
  | nil => exact Nat.le_refl 0
  | cons c text ih =>
      have one : 1 ≤ (escaped c).length := by
        unfold escaped
        split <;> simp
      rw [inside_cons, List.length_append, List.length_cons]
      omega

/-- What stands between the quotes is read as the text. -/
theorem read_inside (printable : ∀ c ∈ text, IsPrintable c) (rest : List Char) :
    read .double (inside text ++ '"' :: rest) = .ok (text, rest) := by
  refine body_inside printable rest ?_
  have longer := length_le_inside text
  rw [List.length_append]
  omega

end Scaffold.Yaml.Quoted
