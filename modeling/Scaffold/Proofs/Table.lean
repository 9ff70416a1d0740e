import Mathlib.Data.List.Nodup

/-!
# Tables

A list of values by keys, in which no key stands twice, says what belongs to a key by membership, so
the order of its entries does not matter.
-/

namespace Scaffold.Table

variable {α β : Type} [DecidableEq α] {entries others : List (α × β)} {key : α}

theorem lookup_of_mem {value : β} (distinct : (entries.map Prod.fst).Nodup)
    (h : (key, value) ∈ entries) : entries.lookup key = some value := by
  obtain ⟨before, after, rfl⟩ := List.append_of_mem h
  rw [List.map_append, List.map_cons] at distinct
  refine List.lookup_eq_some_iff.mpr ⟨before, after, rfl, fun entry he => ?_⟩
  have apart : key ∉ before.map Prod.fst := fun hkey =>
    (List.nodup_append.mp distinct).2.2 key hkey key List.mem_cons_self rfl
  rw [bne_iff_ne]
  rintro rfl
  exact apart (List.mem_map_of_mem he)

theorem lookup_eq_some_iff_mem (distinct : (entries.map Prod.fst).Nodup) {value : β} :
    entries.lookup key = some value ↔ (key, value) ∈ entries := by
  constructor
  · intro h
    obtain ⟨before, after, split, -⟩ := List.lookup_eq_some_iff.mp h
    simp [split]
  · exact lookup_of_mem distinct

/-- The same entries in another order. -/
theorem lookup_perm (distinct : (entries.map Prod.fst).Nodup) (order : others.Perm entries)
    (key : α) : others.lookup key = entries.lookup key := by
  have distinct' : (others.map Prod.fst).Nodup := (order.map Prod.fst).nodup_iff.mpr distinct
  refine Option.ext fun value => ?_
  rw [lookup_eq_some_iff_mem distinct, lookup_eq_some_iff_mem distinct', order.mem_iff]

/-- Other values under the same keys. -/
theorem lookup_map {γ : Type} (f : β → γ) (entries : List (α × β)) (key : α) :
    (entries.map fun (k, v) => (k, f v)).lookup key = (entries.lookup key).map f := by
  induction entries with
  | nil => rfl
  | cons entry rest ih =>
      obtain ⟨k, v⟩ := entry
      rw [List.map_cons, List.lookup_cons, List.lookup_cons, ih]
      cases key == k <;> rfl

end Scaffold.Table
