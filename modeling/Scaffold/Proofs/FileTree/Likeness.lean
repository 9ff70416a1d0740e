import Scaffold.Proofs.FileTree.Growth

/-!
# Trees that differ only in contents

Where paths lead, and whether a file can be opened there, does not depend on what files hold.
-/

namespace Scaffold.FileTree

/-- The same kinds of entries stand at the same places. -/
structure Alike (tree tree' : FileTree) : Prop where
  base : tree'.base = tree.base
  blanks : ∀ loc, (tree'.get? loc).map Entry.blank = (tree.get? loc).map Entry.blank

namespace Alike

variable {tree tree' tree'' : FileTree} {loc : Location}

theorem symm (alike : Alike tree tree') : Alike tree' tree :=
  ⟨alike.base.symm, fun loc => (alike.blanks loc).symm⟩

theorem trans (first : Alike tree tree') (second : Alike tree' tree'') : Alike tree tree'' :=
  ⟨second.base.trans first.base, fun loc => (second.blanks loc).trans (first.blanks loc)⟩

theorem none (alike : Alike tree tree') (h : tree.get? loc = none) : tree'.get? loc = none := by
  have hb := alike.blanks loc
  rw [h, Option.map_none] at hb
  exact Option.map_eq_none_iff.mp hb

theorem some (alike : Alike tree tree') {e : Entry} (h : tree.get? loc = some e) :
    ∃ e', tree'.get? loc = some e' ∧ e'.blank = e.blank := by
  have hb := alike.blanks loc
  rw [h, Option.map_some] at hb
  exact Option.map_eq_some_iff.mp hb

theorem directory (alike : Alike tree tree') (h : tree.get? loc = .some .directory) :
    tree'.get? loc = .some .directory := by
  obtain ⟨e', he', hb⟩ := alike.some h
  rw [Entry.blank_directory, Entry.blank_eq_directory_iff] at hb
  rw [he', hb]

theorem device (alike : Alike tree tree') (h : tree.get? loc = .some .fullDevice) :
    tree'.get? loc = .some .fullDevice := by
  obtain ⟨e', he', hb⟩ := alike.some h
  rw [Entry.blank_fullDevice, Entry.blank_eq_fullDevice_iff] at hb
  rw [he', hb]

theorem file (alike : Alike tree tree') {content : ByteArray}
    (h : tree.get? loc = .some (.file content)) :
    ∃ content', tree'.get? loc = .some (.file content') := by
  obtain ⟨e', he', hb⟩ := alike.some h
  obtain ⟨content', rfl⟩ := Entry.blank_eq_file_iff.mp hb
  exact ⟨content', he'⟩

theorem start (alike : Alike tree tree') (path : Path) : tree'.start path = tree.start path := by
  simp only [FileTree.start, alike.base]

/-- New contents for a file leave a tree alike. -/
theorem putFile {content : ByteArray} (hn : loc ≠ []) (new : ByteArray)
    (h : tree.get? loc = .some (.file content)) : Alike tree (tree.put loc (.file new)) where
  base := base_put tree loc _
  blanks other := by
    rw [get?_put tree hn]
    split
    · next ho => simp [ho, h]
    · rfl

end Alike

variable {tree tree' : FileTree}

theorem enter_of_alike (alike : Alike tree tree') (here : Location) (part : String) :
    tree'.enter here part = tree.enter here part := by
  unfold enter
  cases h : tree.get? (here ++ [part]) with
  | none => rw [alike.none h]
  | some e =>
      cases e with
      | directory => rw [alike.directory h]
      | fullDevice => rw [alike.device h]
      | file content =>
          obtain ⟨content', hc⟩ := alike.file h
          rw [hc]

theorem walk_of_alike (alike : Alike tree tree') (here : Location) (parts : List String) :
    tree'.walk here parts = tree.walk here parts := by
  induction parts generalizing here with
  | nil => rfl
  | cons part rest ih =>
      rw [walk_cons, walk_cons, enter_of_alike alike]
      cases tree.enter here part with
      | ok dir => exact ih dir
      | error e => rfl

theorem target_of_alike (alike : Alike tree tree') (path : Path) :
    tree'.target path = tree.target path := by
  simp only [target, alike.start, walk_of_alike alike]

end Scaffold.FileTree
