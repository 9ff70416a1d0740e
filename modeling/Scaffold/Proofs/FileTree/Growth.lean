import Scaffold.Proofs.FileTree.Operations

/-!
# Growth of a file tree

A run takes nothing away: entries stay what they are, the contents of written files apart, and
what is new is a directory on the way to a file or a written file.  Walks through directories that
succeeded once therefore succeed again.
-/

namespace Scaffold

/-- What an entry is, without what it holds. -/
def Entry.blank : Entry → Entry
  | .directory => .directory
  | .file _ => .file .empty
  | .fullDevice => .fullDevice

namespace Entry

@[simp] theorem blank_directory : Entry.directory.blank = .directory := rfl

@[simp] theorem blank_file (content : ByteArray) : (Entry.file content).blank = .file .empty := rfl

@[simp] theorem blank_fullDevice : Entry.fullDevice.blank = .fullDevice := rfl

@[simp] theorem blank_eq_directory_iff {e : Entry} : e.blank = .directory ↔ e = .directory := by
  cases e <;> simp [blank]

@[simp] theorem blank_eq_fullDevice_iff {e : Entry} : e.blank = .fullDevice ↔ e = .fullDevice := by
  cases e <;> simp [blank]

theorem blank_eq_file_iff {e : Entry} {content : ByteArray} :
    e.blank = (Entry.file content).blank ↔ ∃ content', e = .file content' := by
  cases e <;> simp [blank]

end Entry

namespace FileTree

/-- The second tree grew out of the first one: new directories stand only at the `made` places, and
files were begun or written anew only at the `written` ones. -/
structure Grows (made written : Set Location) (tree tree' : FileTree) : Prop where
  base : tree'.base = tree.base
  kept : ∀ loc e, tree.get? loc = some e →
    ∃ e', tree'.get? loc = some e' ∧ e'.blank = e.blank
  same : ∀ loc e, loc ∉ written → tree.get? loc = some e → tree'.get? loc = some e
  fresh : ∀ loc e, tree.get? loc = none → tree'.get? loc = some e →
    (e = .directory ∧ loc ∈ made) ∨ ((∃ content, e = .file content) ∧ loc ∈ written)

namespace Grows

variable {made made' written written' : Set Location} {tree tree' tree'' : FileTree}

theorem refl (made written : Set Location) (tree : FileTree) : Grows made written tree tree where
  base := rfl
  kept _ e h := ⟨e, h, rfl⟩
  same _ _ _ h := h
  fresh _ _ hn hs := by rw [hn] at hs; cases hs

theorem directory (grows : Grows made written tree tree') {loc : Location}
    (h : tree.get? loc = some .directory) : tree'.get? loc = some .directory := by
  obtain ⟨e', he', hb⟩ := grows.kept loc _ h
  rw [Entry.blank_directory, Entry.blank_eq_directory_iff] at hb
  rw [he', hb]

theorem device (grows : Grows made written tree tree') {loc : Location}
    (h : tree.get? loc = some .fullDevice) : tree'.get? loc = some .fullDevice := by
  obtain ⟨e', he', hb⟩ := grows.kept loc _ h
  rw [Entry.blank_fullDevice, Entry.blank_eq_fullDevice_iff] at hb
  rw [he', hb]

theorem file (grows : Grows made written tree tree') {loc : Location} {content : ByteArray}
    (h : tree.get? loc = some (.file content)) :
    ∃ content', tree'.get? loc = some (.file content') := by
  obtain ⟨e', he', hb⟩ := grows.kept loc _ h
  obtain ⟨content', rfl⟩ := Entry.blank_eq_file_iff.mp hb
  exact ⟨content', he'⟩

theorem trans (first : Grows made written tree tree') (second : Grows made written tree' tree'') :
    Grows made written tree tree'' where
  base := second.base.trans first.base
  kept loc e h := by
    obtain ⟨e', he', hb'⟩ := first.kept loc e h
    obtain ⟨e'', he'', hb''⟩ := second.kept loc e' he'
    exact ⟨e'', he'', hb''.trans hb'⟩
  same loc e hw h := second.same loc e hw (first.same loc e hw h)
  fresh loc e hn hs := by
    cases h' : tree'.get? loc with
    | none => exact second.fresh loc e h' hs
    | some e' =>
        rcases first.fresh loc e' hn h' with ⟨rfl, hm⟩ | ⟨⟨content, rfl⟩, hw⟩
        · rw [second.directory h'] at hs
          exact Or.inl ⟨(Option.some.inj hs).symm, hm⟩
        · obtain ⟨content', hc⟩ := second.file h'
          rw [hc] at hs
          exact Or.inr ⟨⟨content', (Option.some.inj hs).symm⟩, hw⟩

/-- Directories are new at free places only. -/
theorem mono_of_free (grows : Grows made written tree tree')
    (hm : ∀ loc ∈ made, tree.get? loc = none → loc ∈ made') (hw : written ⊆ written') :
    Grows made' written' tree tree' where
  base := grows.base
  kept := grows.kept
  same loc e hn h := grows.same loc e (fun hl => hn (hw hl)) h
  fresh loc e hn hs := by
    rcases grows.fresh loc e hn hs with ⟨he, hl⟩ | ⟨he, hl⟩
    · exact Or.inl ⟨he, hm loc hl hn⟩
    · exact Or.inr ⟨he, hw hl⟩

theorem mono (grows : Grows made written tree tree') (hm : made ⊆ made')
    (hw : written ⊆ written') : Grows made' written' tree tree' :=
  grows.mono_of_free (fun _ hl _ => hm hl) hw

theorem union (first : Grows made written tree tree') (second : Grows made' written' tree' tree'') :
    Grows (made ∪ made') (written ∪ written') tree tree'' :=
  (first.mono Set.subset_union_left Set.subset_union_left).trans
    (second.mono Set.subset_union_right Set.subset_union_right)

/-- Places that are neither made nor written stay as they are. -/
theorem unchanged (grows : Grows made written tree tree') {loc : Location} (hm : loc ∉ made)
    (hw : loc ∉ written) : tree'.get? loc = tree.get? loc := by
  cases h : tree.get? loc with
  | some e => exact grows.same loc e hw h
  | none =>
      cases h' : tree'.get? loc with
      | none => rfl
      | some e =>
          rcases grows.fresh loc e h h' with ⟨-, hl⟩ | ⟨-, hl⟩
          · exact absurd hl hm
          · exact absurd hl hw

/-- A directory at a free place. -/
theorem putDirectory {loc : Location} (hn : loc ≠ []) (free : tree.get? loc = none) :
    Grows {loc} ∅ tree (tree.put loc .directory) where
  base := base_put tree loc _
  kept other e h := by
    refine ⟨e, ?_, rfl⟩
    rw [get?_put tree hn, if_neg (by rintro rfl; rw [free] at h; cases h), h]
  same other e _ h := by
    rw [get?_put tree hn, if_neg (by rintro rfl; rw [free] at h; cases h), h]
  fresh other e hf hs := by
    rw [get?_put tree hn] at hs
    split at hs
    · next ho => exact Or.inl ⟨(Option.some.inj hs).symm, ho⟩
    · rw [hf] at hs; cases hs

/-- New contents for a file, or a file at a free place. -/
theorem putFile {loc : Location} (hn : loc ≠ []) (content : ByteArray)
    (h : ∀ e, tree.get? loc = some e → ∃ old, e = .file old) :
    Grows ∅ {loc} tree (tree.put loc (.file content)) where
  base := base_put tree loc _
  kept other e he := by
    rw [get?_put tree hn]
    split
    · next ho =>
        obtain ⟨old, rfl⟩ := h e (ho ▸ he)
        exact ⟨_, rfl, rfl⟩
    · exact ⟨e, he, rfl⟩
  same other e ho he := by
    rw [get?_put tree hn, if_neg (fun hl => ho (Set.mem_singleton_iff.mpr hl)), he]
  fresh other e hf hs := by
    rw [get?_put tree hn] at hs
    split at hs
    · next ho => exact Or.inr ⟨⟨content, (Option.some.inj hs).symm⟩, ho⟩
    · rw [hf] at hs; cases hs

theorem start (grows : Grows made written tree tree') (path : Path) :
    tree'.start path = tree.start path := by
  simp only [FileTree.start, grows.base]

end Grows

/-! ## Walks -/

theorem enter_eq_ok_iff (tree : FileTree) (here dir : Location) (part : String) :
    tree.enter here part = .ok dir ↔
      (part = ".." ∧ dir = here.dropLast) ∨
        (part ≠ ".." ∧ part.utf8ByteSize ≤ nameLimit ∧ dir = here ++ [part] ∧
          tree.get? dir = some .directory) := by
  unfold enter
  split
  · next h => simp [h, eq_comm]
  · next h =>
      split
      · next hl => simp [h, Nat.not_le.mpr hl]
      · next hl =>
          have hle := Nat.not_lt.mp hl
          split
          · next hd =>
              simp only [Except.ok.injEq, h, hle, false_and, false_or, not_false_eq_true,
                true_and, ne_eq]
              exact ⟨fun he => ⟨he.symm, he ▸ hd⟩, fun he => he.1.symm⟩
          · next e hne he =>
              simp only [reduceCtorEq, h, false_and, false_or, false_iff, not_and]
              rintro - - rfl hd
              rw [he] at hd
              exact hne (Option.some.inj hd)
          · next he =>
              simp only [reduceCtorEq, h, false_and, false_or, false_iff, not_and]
              rintro - - rfl hd
              rw [he] at hd
              cases hd

theorem enter_of_grows {made written : Set Location} {tree tree' : FileTree}
    (grows : Grows made written tree tree') {here dir : Location} {part : String}
    (h : tree.enter here part = .ok dir) : tree'.enter here part = .ok dir := by
  rw [enter_eq_ok_iff] at h ⊢
  rcases h with h | ⟨hp, hl, hd, he⟩
  · exact Or.inl h
  · exact Or.inr ⟨hp, hl, hd, grows.directory he⟩

theorem walk_cons (tree : FileTree) (here : Location) (part : String) (rest : List String) :
    tree.walk here (part :: rest) =
      match tree.enter here part with
      | .ok dir => tree.walk dir rest
      | .error e => .error e := by
  rw [walk]
  cases tree.enter here part <;> rfl

theorem walk_append (tree : FileTree) (here : Location) (parts rest : List String) :
    tree.walk here (parts ++ rest) =
      match tree.walk here parts with
      | .ok dir => tree.walk dir rest
      | .error e => .error e := by
  induction parts generalizing here with
  | nil => rfl
  | cons part parts ih =>
      rw [List.cons_append, walk_cons, walk_cons]
      cases tree.enter here part with
      | ok dir => exact ih dir
      | error e => rfl

theorem walk_cons_eq_ok_iff (tree : FileTree) (here dir : Location) (part : String)
    (rest : List String) :
    tree.walk here (part :: rest) = .ok dir ↔
      ∃ next, tree.enter here part = .ok next ∧ tree.walk next rest = .ok dir := by
  rw [walk_cons]
  cases tree.enter here part with
  | ok next => simp
  | error e => simp

/-- A grown tree can be walked as before. -/
theorem walk_of_grows {made written : Set Location} {tree tree' : FileTree}
    (grows : Grows made written tree tree') {here dir : Location} {parts : List String}
    (h : tree.walk here parts = .ok dir) : tree'.walk here parts = .ok dir := by
  induction parts generalizing here with
  | nil => exact h
  | cons part rest ih =>
      obtain ⟨next, he, hrest⟩ := (walk_cons_eq_ok_iff ..).mp h
      exact (walk_cons_eq_ok_iff ..).mpr ⟨next, enter_of_grows grows he, ih hrest⟩

/-- A walk ends where its components lead when each `..` takes one back. -/
theorem walk_eq_resolveFrom {tree : FileTree} {here dir : Location} {parts : List String}
    (h : tree.walk here parts = .ok dir) : dir = Path.resolveFrom here parts := by
  induction parts generalizing here with
  | nil => exact (Except.ok.inj h).symm
  | cons part rest ih =>
      obtain ⟨next, he, hrest⟩ := (walk_cons_eq_ok_iff ..).mp h
      rw [ih hrest, Path.resolveFrom, Path.resolveFrom, List.foldl_cons]
      rcases (enter_eq_ok_iff tree here next part).mp he with ⟨hp, hd⟩ | ⟨hp, -, hd, -⟩
      · rw [if_pos hp, hd]
      · rw [if_neg hp, hd]

end FileTree

end Scaffold
