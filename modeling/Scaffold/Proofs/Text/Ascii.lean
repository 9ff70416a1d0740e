import Scaffold.Proofs.Text.Lower

/-!
# Case within ASCII

Within the first 128 code points both case mappings go character by character.
-/

namespace Scaffold.Text

def IsAscii (text : List Char) : Prop := ∀ c ∈ text, c.toNat < 128

instance (text : List Char) : Decidable (IsAscii text) :=
  List.decidableBAll (fun c : Char => c.toNat < 128) text

theorem ascii_forall {P : Char → Prop} (h : ∀ code < 128, P (Char.ofNat code)) {c : Char}
    (hc : c.toNat < 128) : P c := by
  have hcode := h c.toNat hc
  rwa [Char.ofNat_toNat] at hcode

theorem IsAscii.append {front back : List Char} (hfront : IsAscii front) (hback : IsAscii back) :
    IsAscii (front ++ back) := by
  intro c hc
  rcases List.mem_append.mp hc with hc | hc
  · exact hfront c hc
  · exact hback c hc

theorem toNat_toLower_ascii {c : Char} (h : c.toNat < 128) : c.toLower.toNat < 128 :=
  ascii_forall (P := fun c => c.toLower.toNat < 128) (by decide +kernel) h

theorem toNat_toUpper_ascii {c : Char} (h : c.toNat < 128) : c.toUpper.toNat < 128 :=
  ascii_forall (P := fun c => c.toUpper.toNat < 128) (by decide +kernel) h

theorem lowerChar_ascii {c : Char} (h : c.toNat < 128) : lowerChar c = [c.toLower] :=
  ascii_forall (P := fun c => lowerChar c = [c.toLower]) (by decide +kernel) h

theorem upperChar_ascii {c : Char} (h : c.toNat < 128) : upperChar c = [c.toUpper] :=
  ascii_forall (P := fun c => upperChar c = [c.toUpper]) (by decide +kernel) h

theorem lowerAfter_ascii {text : List Char} (h : IsAscii text) (before : Bool) :
    lowerAfter before text = text.map Char.toLower := by
  induction text generalizing before with
  | nil => rfl
  | cons c rest ih =>
      obtain ⟨hc, hrest⟩ := List.forall_mem_cons.mp h
      have hsigma : c ≠ 'Σ' := by
        rintro rfl
        exact absurd hc (by decide)
      have hplace : lowerInPlace before c rest = [c.toLower] := by
        rw [lowerInPlace, if_neg hsigma, lowerChar_ascii hc]
      rw [lowerAfter_cons, hplace, ih hrest, List.singleton_append, List.map_cons]

theorem lower_ascii {text : List Char} (h : IsAscii text) : lower text = text.map Char.toLower :=
  lowerAfter_ascii h false

theorem lower_append_ascii {front back : List Char} (hfront : IsAscii front)
    (hback : IsAscii back) : lower (front ++ back) = lower front ++ lower back := by
  rw [lower_ascii (hfront.append hback), lower_ascii hfront, lower_ascii hback, List.map_append]

end Scaffold.Text
