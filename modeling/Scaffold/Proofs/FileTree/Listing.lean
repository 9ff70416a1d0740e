import Scaffold.Proofs.FileTree.Free
import Scaffold.Proofs.Table

/-!
# Listing a directory

A directory has the names under which something stands in it, and a path to it leads on to each of
them as far as paths may be long.
-/

namespace Scaffold.FileTree

variable {tree : FileTree} {dir : Path} {loc : Location}

/-- The name under which a place stands in a directory. -/
def nameIn? (loc place : Location) : Option String :=
  if place.dropLast = loc then place.getLast? else none

theorem nameIn?_eq_some_iff {place : Location} {name : String} :
    nameIn? loc place = some name ↔ place = loc ++ [name] := by
  unfold nameIn?
  constructor
  · intro h
    split at h
    · next hloc =>
        obtain ⟨init, hinit⟩ := List.getLast?_eq_some_iff.mp h
        rw [hinit, List.dropLast_concat] at hloc
        rw [hinit, hloc]
    · cases h
  · rintro rfl
    rw [List.dropLast_concat, if_pos rfl, List.getLast?_concat]

theorem directory_eq_placeOf (h : tree.target dir = .ok (.directory loc)) :
    loc = tree.placeOf dir := by
  unfold target at h
  split at h
  · cases h
  cases hlast : dir.parts.getLast? with
  | none =>
      rw [hlast] at h
      cases h
      rw [placeOf, List.getLast?_eq_none_iff.mp hlast]
      rfl
  | some last =>
      obtain ⟨init, hinit⟩ := List.getLast?_eq_some_iff.mp hlast
      rw [hlast, hinit, List.dropLast_concat] at h
      cases walked : tree.walk (tree.start dir) init with
      | error cause =>
          rw [walked] at h
          cases h
      | ok above =>
          rw [walked] at h
          by_cases up : last = ".."
          · obtain rfl : above.dropLast = loc := by simpa [up, bind, Except.bind] using h
            rw [placeOf, hinit, up, Path.resolveFrom_append, ← walk_eq_resolveFrom walked]
            rfl
          · by_cases long : nameLimit < last.utf8ByteSize <;>
              simp [up, long, bind, Except.bind] at h

theorem names_eq (there : tree.isDirectory dir = .ok true) :
    tree.names dir = (tree.entries.map Prod.fst).filterMap (nameIn? (tree.placeOf dir)) := by
  obtain ⟨-, target, htarget, -⟩ := (isDirectory_eq_true_iff tree dir).mp there
  rw [List.filterMap_map, names, htarget]
  cases target with
  | directory loc => rw [← directory_eq_placeOf htarget]; rfl
  | place loc => rw [← (place_eq_placeOf htarget).1]; rfl

theorem mem_names_iff (there : tree.isDirectory dir = .ok true) (name : String) :
    name ∈ tree.names dir ↔ tree.get? (tree.placeOf dir ++ [name]) ≠ none := by
  rw [names_eq there, get?_eq_lookup tree (by simp), List.mem_filterMap,
    ← Option.isSome_iff_ne_none, List.lookup_isSome_iff]
  constructor
  · rintro ⟨place, hplace, hname⟩
    obtain ⟨e, he, rfl⟩ := List.mem_map.mp hplace
    exact ⟨e, he, beq_iff_eq.mpr (nameIn?_eq_some_iff.mp hname).symm⟩
  · rintro ⟨e, he, hplace⟩
    exact ⟨e.1, List.mem_map_of_mem he, nameIn?_eq_some_iff.mpr (beq_iff_eq.mp hplace).symm⟩

theorem nodup_names (there : tree.isDirectory dir = .ok true)
    (distinct : (tree.entries.map Prod.fst).Nodup) : (tree.names dir).Nodup := by
  rw [names_eq there]
  refine distinct.filterMap fun place other name h h' => ?_
  rw [nameIn?_eq_some_iff.mp h, nameIn?_eq_some_iff.mp h']

/-- A path that goes on from a directory to a name. -/
theorem target_div (there : tree.isDirectory dir = .ok true) {name : String}
    (named : EntryName name) :
    tree.target (dir / name) =
      if pathLimit < (dir / name).toString.utf8ByteSize then .error .nameTooLong
      else .ok (.place (tree.placeOf dir ++ [name])) := by
  split
  · next long => exact if_pos long
  · next short =>
      rw [target_eq_place_iff]
      refine ⟨Nat.not_lt.mp short, tree.placeOf dir, name, ?_, ?_, named.down, named.fits, rfl⟩
      · rw [named.div]
        exact List.getLast?_concat
      · rw [named.div]
        change tree.walk (tree.start dir) (dir.parts ++ [name]).dropLast = _
        rw [List.dropLast_concat]
        exact walk_of_isDirectory there

theorem readBytes_div (there : tree.isDirectory dir = .ok true) {name : String}
    (named : EntryName name) {entry : Entry}
    (standing : tree.get? (tree.placeOf dir ++ [name]) = some entry) :
    tree.readBytes (dir / name) =
      if pathLimit < (dir / name).toString.utf8ByteSize then .error (.os .nameTooLong)
      else
        match entry.bytes? with
        | some content => .ok content
        | none => .error (.os .isDirectory) := by
  obtain ⟨nul, -⟩ := (isDirectory_eq_true_iff tree dir).mp there
  have nul : hasNul (dir / name) = false := by
    rw [named.div]
    exact hasNul_below nul (List.forall_mem_singleton.mpr named)
  rw [readBytes, if_neg (by simp [nul]), find, target_div there named]
  by_cases long : pathLimit < (dir / name).toString.utf8ByteSize
  · rw [if_pos long, if_pos long]
    rfl
  · rw [if_neg long, if_neg long]
    simp only [bind, Except.bind, standing]
    cases entry <;> rfl

end Scaffold.FileTree
