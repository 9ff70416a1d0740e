import Scaffold.Proofs.FileTree.Directory

/-!
# Opening and filling a file

Where a file is opened, what opening and filling change, and what is read back afterwards, also
when the tree has grown since.
-/

namespace Scaffold

/-- What an entry gives when it is read as a file. -/
def Entry.bytes? : Entry → Option ByteArray
  | .directory => none
  | .file content => some content
  | .fullDevice => some .empty

namespace FileTree

variable (tree : FileTree)

/-- The place that a path stands for when each `..` takes back the component before it. -/
def placeOf (tree : FileTree) (path : Path) : Location :=
  Path.resolveFrom (tree.start path) path.parts

/-- The place of the file that is opened for writing at a path, or why none is. -/
def placeToOpen (path : Path) : Except DiskFault Location :=
  if hasNul path then .error .embeddedNul
  else
    match tree.target path with
    | .error e => .error (.os e)
    | .ok (.directory _) => .error (.os .isDirectory)
    | .ok (.place loc) =>
        match tree.get? loc with
        | some .directory => .error (.os .isDirectory)
        | _ => .ok loc

/-- The tree with new contents for a file; a device keeps none. -/
def withContent (loc : Location) (content : ByteArray) : FileTree :=
  match tree.get? loc with
  | some .fullDevice => tree
  | _ => tree.put loc (.file content)

theorem openFile_on (path : Path) :
    Disk.on (openFile path) tree =
      match tree.placeToOpen path with
      | .error fault => (.error fault, tree)
      | .ok loc => (.ok loc, tree.withContent loc .empty) := by
  unfold openFile placeToOpen
  cases hasNul path with
  | true => simp only [if_true, Disk.on_bind, Disk.on_throw]
  | false =>
      simp only [Bool.false_eq_true, if_false, Disk.on_bind, Disk.on_get]
      cases tree.target path with
      | error e => rfl
      | ok target =>
          cases target with
          | directory loc => rfl
          | place loc =>
              simp only [Disk.on_bind, Disk.on_get, withContent]
              cases hs : tree.get? loc with
              | none => simp only [hs]; rfl
              | some e => cases e <;> simp only [hs] <;> rfl

/-- Filling fails on a full device only, and changes nothing there. -/
theorem fill_on (loc : Location) (content : ByteArray) :
    Disk.on (fill loc content) tree =
      match tree.get? loc with
      | some .fullDevice =>
          if content.isEmpty then (.ok (), tree) else (.error (.os .noSpace), tree)
      | _ => (.ok (), tree.put loc (.file content)) := by
  simp only [fill, Disk.on_bind, Disk.on_get]
  cases tree.get? loc with
  | none => rfl
  | some e =>
      cases e with
      | directory => rfl
      | file old => rfl
      | fullDevice => cases content.isEmpty <;> rfl

theorem placeToOpen_eq_ok_iff (path : Path) (loc : Location) :
    tree.placeToOpen path = .ok loc ↔
      hasNul path = false ∧ tree.target path = .ok (.place loc) ∧
        tree.get? loc ≠ some .directory := by
  unfold placeToOpen
  cases hasNul path with
  | true => simp
  | false =>
      simp only [Bool.false_eq_true, if_false, true_and]
      cases tree.target path with
      | error e => simp
      | ok target =>
          cases target with
          | directory other => simp
          | place other =>
              simp only [Except.ok.injEq, Target.place.injEq]
              by_cases hd : tree.get? other = some .directory
              · simp only [hd, reduceCtorEq, false_iff, not_and]
                rintro rfl hn
                exact hn hd
              · constructor
                · intro h
                  split at h
                  · cases h
                  · cases h
                    exact ⟨rfl, hd⟩
                · rintro ⟨rfl, -⟩
                  split
                  · next he => exact absurd he hd
                  · rfl

/-- Opening a file nests no calls. -/
theorem placeToOpen_ne_tooDeep (path : Path) : tree.placeToOpen path ≠ .error .tooDeep := by
  unfold placeToOpen
  cases hasNul path with
  | true => simp
  | false =>
      cases tree.target path with
      | error e => simp
      | ok target =>
          cases target with
          | directory other => simp
          | place other =>
              simp only [Bool.false_eq_true, if_false]
              split <;> simp

/-- A path leads to a place when all above its last component can be walked. -/
theorem target_eq_place_iff (path : Path) (loc : Location) :
    tree.target path = .ok (.place loc) ↔
      path.toString.utf8ByteSize ≤ pathLimit ∧
        ∃ dir last, path.parts.getLast? = some last ∧
          tree.walk (tree.start path) path.parts.dropLast = .ok dir ∧
          last ≠ ".." ∧ last.utf8ByteSize ≤ nameLimit ∧ loc = dir ++ [last] := by
  unfold target
  by_cases hlen : pathLimit < path.toString.utf8ByteSize
  · simp [hlen, Nat.not_le.mpr hlen]
  rw [if_neg hlen]
  cases hlast : path.parts.getLast? with
  | none => simp
  | some last =>
      change (tree.walk (tree.start path) path.parts.dropLast >>= _) = _ ↔ _
      cases hwalk : tree.walk (tree.start path) path.parts.dropLast with
      | error e => simp [bind, Except.bind]
      | ok dir =>
          simp only [bind, Except.bind]
          by_cases hp : last = ".."
          · simp [hp]
          by_cases hl : nameLimit < last.utf8ByteSize
          · simp [hp, hl, Nat.not_le.mpr hl]
          · simp [hp, hl, Nat.not_lt.mp hlen, Nat.not_lt.mp hl, eq_comm]

variable {tree} {path : Path} {loc : Location}

/-- The place of a file is its path with each `..` taken back; it lies in a directory and bears the
last component of the path. -/
theorem place_eq_placeOf (h : tree.target path = .ok (.place loc)) :
    loc = tree.placeOf path ∧ loc.getLast? = path.parts.getLast? := by
  obtain ⟨-, dir, last, hlast, hwalk, hp, -, rfl⟩ := (target_eq_place_iff tree path loc).mp h
  refine ⟨?_, by rw [hlast, List.getLast?_concat]⟩
  obtain ⟨init, hinit⟩ := List.getLast?_eq_some_iff.mp hlast
  rw [hinit, List.dropLast_concat] at hwalk
  rw [placeOf, hinit, Path.resolveFrom_append, ← walk_eq_resolveFrom hwalk, Path.resolveFrom,
    List.foldl_cons, if_neg hp]
  rfl

theorem place_ne_nil (h : tree.target path = .ok (.place loc)) : loc ≠ [] := by
  obtain ⟨-, dir, last, -, -, -, -, rfl⟩ := (target_eq_place_iff tree path loc).mp h
  simp

theorem target_of_grows {made written : Set Location} {tree' : FileTree}
    (grows : Grows made written tree tree') (h : tree.target path = .ok (.place loc)) :
    tree'.target path = .ok (.place loc) := by
  rw [target_eq_place_iff] at h ⊢
  obtain ⟨hlen, dir, last, hlast, hwalk, hp, hl, he⟩ := h
  exact ⟨hlen, dir, last, hlast, walk_of_grows grows (grows.start path ▸ hwalk), hp, hl, he⟩

theorem placeOf_of_grows {made written : Set Location} {tree' : FileTree}
    (grows : Grows made written tree tree') (path : Path) :
    tree'.placeOf path = tree.placeOf path := by
  rw [placeOf, placeOf, grows.start]

theorem placeToOpen_of_alike {tree' : FileTree} (alike : Alike tree tree') (path : Path) :
    tree'.placeToOpen path = tree.placeToOpen path := by
  unfold placeToOpen
  rw [target_of_alike alike]
  split
  · rfl
  · split
    · rfl
    · rfl
    · next loc _ =>
        cases h : tree.get? loc with
        | none => rw [alike.none h]
        | some e =>
            cases e with
            | directory => rw [alike.directory h]
            | fullDevice => rw [alike.device h]
            | file content =>
                obtain ⟨content', hc⟩ := alike.file h
                rw [hc]

/-! ## Contents -/

theorem withContent_device (h : tree.get? loc = some .fullDevice) (content : ByteArray) :
    tree.withContent loc content = tree := by
  rw [withContent, h]

theorem withContent_eq_put (h : tree.get? loc ≠ some .fullDevice) (content : ByteArray) :
    tree.withContent loc content = tree.put loc (.file content) := by
  unfold withContent
  split
  · next hd => exact absurd hd h
  · rfl

theorem get?_withContent_self (hn : loc ≠ []) (content : ByteArray)
    (hd : tree.get? loc ≠ some .fullDevice) :
    (tree.withContent loc content).get? loc = some (.file content) := by
  rw [withContent_eq_put hd, get?_put tree hn, if_pos rfl]

theorem get?_withContent_device (tree : FileTree) {loc : Location} (hn : loc ≠ [])
    (content : ByteArray) :
    (tree.withContent loc content).get? loc = some .fullDevice ↔
      tree.get? loc = some .fullDevice := by
  constructor
  · intro h
    by_contra hd
    rw [get?_withContent_self hn content hd] at h
    cases h
  · intro h
    rw [withContent_device h, h]

/-- A file that was filled twice holds what it was filled with last. -/
theorem withContent_twice (hn : loc ≠ []) (first second : ByteArray) :
    (tree.withContent loc first).withContent loc second = tree.withContent loc second := by
  by_cases hd : tree.get? loc = some .fullDevice
  · rw [withContent_device hd]
  · rw [withContent_eq_put hd, withContent_eq_put hd, withContent_eq_put, put_put]
    rw [get?_put tree hn, if_pos rfl]
    simp

theorem withContent_grows (hn : loc ≠ []) (hd : tree.get? loc ≠ some .directory)
    (content : ByteArray) : Grows ∅ {loc} tree (tree.withContent loc content) := by
  unfold withContent
  split
  · exact .refl ..
  · next h =>
      refine .putFile hn content (fun e he => ?_)
      cases e with
      | directory => exact absurd he hd
      | file old => exact ⟨old, rfl⟩
      | fullDevice => exact absurd he h

/-- After a file was filled, its place is that of a device or of a file with what it was filled
with. -/
theorem get?_withContent (hn : loc ≠ []) (content : ByteArray) :
    (tree.get? loc = some .fullDevice ∧
        (tree.withContent loc content).get? loc = some .fullDevice) ∨
      (tree.get? loc ≠ some .fullDevice ∧
        (tree.withContent loc content).get? loc = some (.file content)) := by
  by_cases hd : tree.get? loc = some .fullDevice
  · exact Or.inl ⟨hd, (get?_withContent_device tree hn content).mpr hd⟩
  · exact Or.inr ⟨hd, get?_withContent_self hn content hd⟩

/-- A file that was filled is opened at the same place on every grown tree, and on those like
it. -/
theorem placeToOpen_kept {made written : Set Location} {final other : FileTree}
    {content : ByteArray} (opened : tree.placeToOpen path = .ok loc)
    (grows : Grows made written (tree.withContent loc content) final)
    (alike : Alike final other) :
    other.placeToOpen path = .ok loc ∧
      ((tree.get? loc = some .fullDevice ∧ other.get? loc = some .fullDevice) ∨
        (tree.get? loc ≠ some .fullDevice ∧ ∃ old, other.get? loc = some (.file old))) := by
  obtain ⟨hnul, target, hd⟩ := (placeToOpen_eq_ok_iff tree path loc).mp opened
  have hn := place_ne_nil target
  have target' := target_of_grows grows (target_of_grows (withContent_grows hn hd content) target)
  have standing : (tree.get? loc = some .fullDevice ∧ other.get? loc = some .fullDevice) ∨
      (tree.get? loc ≠ some .fullDevice ∧ ∃ old, other.get? loc = some (.file old)) := by
    rcases get?_withContent hn content with ⟨hdev, h⟩ | ⟨hdev, h⟩
    · exact Or.inl ⟨hdev, alike.device (grows.device h)⟩
    · obtain ⟨old, hold⟩ := grows.file h
      exact Or.inr ⟨hdev, alike.file hold⟩
  refine ⟨(placeToOpen_eq_ok_iff other path loc).mpr ⟨hnul, ?_, ?_⟩, standing⟩
  · rw [target_of_alike alike, target']
  · rcases standing with ⟨-, h⟩ | ⟨-, old, h⟩ <;> simp [h]

/-- A file is read at the place to which its path leads. -/
theorem readBytes_eq_ok_iff (tree : FileTree) (path : Path) (content : ByteArray) :
    tree.readBytes path = .ok content ↔
      hasNul path = false ∧ ∃ loc e, tree.target path = .ok (.place loc) ∧
        tree.get? loc = some e ∧ e.bytes? = some content := by
  unfold readBytes
  cases hasNul path with
  | true => simp
  | false =>
      simp only [Bool.false_eq_true, if_false, true_and, find]
      cases tree.target path with
      | error e => simp [bind, Except.bind]
      | ok target =>
          cases target with
          | directory loc => simp [bind, Except.bind]
          | place loc =>
              simp only [bind, Except.bind]
              cases hs : tree.get? loc with
              | none => simp [hs]
              | some e => cases e <;> simp [hs, Entry.bytes?]

/-- A file that was opened is read as what it was filled with, where a device takes that. -/
theorem readBytes_withContent (opened : tree.placeToOpen path = .ok loc) {content : ByteArray}
    (fits : tree.get? loc = some .fullDevice → content.isEmpty = true) :
    (tree.withContent loc content).readBytes path = .ok content := by
  obtain ⟨hnul, target, hd⟩ := (placeToOpen_eq_ok_iff _ path loc).mp opened
  have hn := place_ne_nil target
  have filled := withContent_grows hn hd content
  refine (readBytes_eq_ok_iff _ _ _).mpr ⟨hnul, loc, ?_⟩
  by_cases device : tree.get? loc = some .fullDevice
  · refine ⟨.fullDevice, target_of_grows filled target, filled.device device, ?_⟩
    have hempty : content = .empty := by
      apply ByteArray.ext
      exact Array.eq_empty_of_size_eq_zero (by simpa [ByteArray.isEmpty] using fits device)
    rw [hempty]
    rfl
  · exact ⟨_, target_of_grows filled target, get?_withContent_self hn _ device, rfl⟩

/-- Contents that are read stand in a file, if there are any. -/
theorem exists_file {content : ByteArray} (read : (tree.readBytes path).toOption = some content)
    (filled : content ≠ .empty) :
    ∃ loc, tree.target path = .ok (.place loc) ∧ tree.get? loc = some (.file content) := by
  cases result : tree.readBytes path with
  | error fault =>
      rw [result] at read
      cases read
  | ok found =>
      rw [result] at read
      cases read
      obtain ⟨-, loc, e, target, there, holds⟩ := (readBytes_eq_ok_iff _ _ _).mp result
      refine ⟨loc, target, ?_⟩
      cases e with
      | directory => cases holds
      | file old =>
          cases holds
          exact there
      | fullDevice => exact absurd (Option.some.inj holds).symm filled

/-- What was read once is read again, unless the file was written since. -/
theorem readBytes_of_grows {made written : Set Location} {tree' : FileTree} {content : ByteArray}
    (grows : Grows made written tree tree') (h : tree.readBytes path = .ok content)
    (hw : tree.placeOf path ∉ written) : tree'.readBytes path = .ok content := by
  rw [readBytes_eq_ok_iff] at h ⊢
  obtain ⟨hnul, loc, e, target, hs, hc⟩ := h
  refine ⟨hnul, loc, e, target_of_grows grows target, grows.same loc e ?_ hs, hc⟩
  rw [(place_eq_placeOf target).1]
  exact hw

end FileTree

end Scaffold
