import Scaffold.FileTree
import Mathlib.Data.Set.Insert

/-!
# Operations on a file tree

What an operation gives on a tree, and how the entries look after one of them was put in place.
-/

namespace Scaffold

/-- The result of an operation on a tree, with the tree after it. -/
def Disk.on {ε α : Type} (op : Disk ε α) (tree : FileTree) : Except ε α × FileTree :=
  StateT.run (ExceptT.run op) tree

namespace Disk

variable {ε ε' α β : Type} (tree : FileTree)

@[simp] theorem on_throw (e : ε) : on (throw e : Disk ε α) tree = (.error e, tree) := rfl

@[simp] theorem on_get : on (get : Disk ε FileTree) tree = (.ok tree, tree) := rfl

theorem on_bind (op : Disk ε α) (next : α → Disk ε β) :
    on (op >>= next) tree =
      match on op tree with
      | (.ok a, tree') => on (next a) tree'
      | (.error e, tree') => (.error e, tree') := by
  simp only [on, ExceptT.run, bind, ExceptT.bind, ExceptT.mk, StateT.bind, StateT.run]
  rcases op tree with ⟨result, tree'⟩
  cases result <;> rfl

theorem on_bind_ok {op : Disk ε α} {tree tree' : FileTree} {a : α}
    (h : on op tree = (.ok a, tree')) (next : α → Disk ε β) :
    on (op >>= next) tree = on (next a) tree' := by
  rw [on_bind, h]

theorem on_bind_error {op : Disk ε α} {tree tree' : FileTree} {e : ε}
    (h : on op tree = (.error e, tree')) (next : α → Disk ε β) :
    on (op >>= next) tree = (.error e, tree') := by
  rw [on_bind, h]

theorem on_tryCatch (op : Disk ε α) (handle : ε → Disk ε α) :
    on (tryCatch op handle) tree =
      match on op tree with
      | (.ok a, tree') => (.ok a, tree')
      | (.error e, tree') => on (handle e) tree' := by
  simp only [on, ExceptT.run, tryCatch, tryCatchThe, MonadExceptOf.tryCatch, ExceptT.tryCatch,
    ExceptT.mk, bind, StateT.bind, StateT.run]
  rcases op tree with ⟨result, tree'⟩
  cases result <;> rfl

theorem on_adapt (f : ε → ε') (op : Disk ε α) :
    on (ExceptT.adapt f op) tree = ((on op tree).1.mapError f, (on op tree).2) := by
  change StateT.run (Except.mapError f <$> ExceptT.run op) tree = _
  simp only [StateT.run_map, on]
  rfl

end Disk

namespace FileTree

@[simp] theorem get?_nil (tree : FileTree) : tree.get? [] = some .directory := rfl

theorem get?_eq_lookup (tree : FileTree) {loc : Location} (h : loc ≠ []) :
    tree.get? loc = tree.entries.lookup loc := by
  simp [get?, h]

private theorem lookup_cons_ne {loc other : Location} (h : other ≠ loc) (entry : Entry)
    (rest : List (Location × Entry)) : ((loc, entry) :: rest).lookup other = rest.lookup other := by
  have hb : (other == loc) = false := beq_eq_false_iff_ne.mpr h
  rw [List.lookup_cons, hb]

private theorem lookup_map_put (entries : List (Location × Entry)) (loc other : Location)
    (entry : Entry) :
    (entries.map fun e => if e.1 = loc then (loc, entry) else e).lookup other =
      if other = loc then (entries.lookup other).map fun _ => entry else entries.lookup other := by
  induction entries with
  | nil => simp
  | cons e rest ih =>
      obtain ⟨place, old⟩ := e
      rw [List.map_cons]
      by_cases hp : place = loc <;> by_cases ho : other = place
      · simp [← hp, ho]
      · have hl : other ≠ loc := hp ▸ ho
        simp only [hp, if_true]
        rw [lookup_cons_ne hl, lookup_cons_ne hl, ih, if_neg hl]
      · have hl : other ≠ loc := ho ▸ hp
        simp [ho, hp]
      · simp only [hp, if_false]
        rw [lookup_cons_ne ho, lookup_cons_ne ho, ih]

/-- A put entry stands at its place, and all other places are as before. -/
theorem get?_put (tree : FileTree) {loc : Location} (h : loc ≠ []) (entry : Entry)
    (other : Location) :
    (tree.put loc entry).get? other = if other = loc then some entry else tree.get? other := by
  by_cases hn : other = []
  · subst hn
    simp [Ne.symm h]
  rw [get?_eq_lookup _ hn, get?_eq_lookup _ hn]
  unfold put
  split
  · rename_i hany
    obtain ⟨e, he, hl⟩ := List.any_eq_true.mp hany
    have hsome : (tree.entries.lookup loc).isSome := by
      rw [List.lookup_isSome_iff]
      exact ⟨e, he, beq_iff_eq.mpr (of_decide_eq_true hl).symm⟩
    obtain ⟨old, hold⟩ := Option.isSome_iff_exists.mp hsome
    rw [lookup_map_put]
    by_cases ho : other = loc
    · rw [if_pos ho, if_pos ho, ho, hold, Option.map_some]
    · rw [if_neg ho, if_neg ho]
  · rename_i hany
    rw [List.lookup_append]
    by_cases ho : other = loc
    · have hnone : tree.entries.lookup loc = none := by
        rw [List.lookup_eq_none_iff]
        intro e he
        simp only [List.any_eq_true, decide_eq_true_eq, not_exists, not_and] at hany
        exact bne_iff_ne.mpr (Ne.symm (hany e he))
      rw [if_pos ho, ho, hnone, Option.none_or, List.lookup_cons_self]
    · rw [if_neg ho, lookup_cons_ne ho, List.lookup_nil, Option.or_none]

/-- Of two entries put at one place the second one stays. -/
theorem put_put (tree : FileTree) (loc : Location) (first second : Entry) :
    (tree.put loc first).put loc second = tree.put loc second := by
  unfold put
  split
  · next hany =>
      rw [if_pos]
      · simp only [List.map_map]
        congr 1
        refine List.map_congr_left (fun e _ => ?_)
        simp only [Function.comp_apply]
        split
        · simp
        · rfl
      · rw [List.any_eq_true] at hany ⊢
        obtain ⟨e, he, hl⟩ := hany
        refine ⟨(loc, first), ?_, by simp⟩
        exact List.mem_map.mpr ⟨e, he, if_pos (of_decide_eq_true hl)⟩
  · next hany =>
      have hmap : (tree.entries.map fun e => if e.1 = loc then (loc, second) else e) =
          tree.entries := by
        refine (List.map_congr_left (fun e he => if_neg fun hl => hany ?_)).trans (List.map_id _)
        exact List.any_eq_true.mpr ⟨e, he, decide_eq_true hl⟩
      rw [if_pos (by simp), List.map_append, hmap]
      simp

@[simp] theorem base_put (tree : FileTree) (loc : Location) (entry : Entry) :
    (tree.put loc entry).base = tree.base := by
  unfold put
  split <;> rfl

end FileTree

end Scaffold
