import Scaffold.Proofs.FileTree.Opening

/-!
# Free ground

Below a directory that stands, plain components lead to places of their own.  Where nothing but
directories is in the way, the directories of such a path can be made and its file can be opened.
-/

namespace Scaffold

namespace FileTree

/-- What stands anywhere stands in a directory. -/
def Closed (tree : FileTree) : Prop :=
  ∀ loc, tree.get? loc ≠ none → tree.get? loc.dropLast = some .directory

/-- A component that leads down and is not too long. -/
structure Plain (part : String) : Prop where
  down : part ≠ ".."
  fits : part.utf8ByteSize ≤ nameLimit

/-- A text that names an entry of a directory. -/
structure EntryName (text : String) : Prop extends Plain text where
  filled : text ≠ ""
  away : text ≠ "."
  slash : '/' ∉ text.toList
  nul : '\x00' ∉ text.toList

instance (text : String) : Decidable (EntryName text) :=
  decidable_of_iff
    ((text ≠ ".." ∧ text.utf8ByteSize ≤ nameLimit) ∧ text ≠ "" ∧ text ≠ "." ∧
      '/' ∉ text.toList ∧ '\x00' ∉ text.toList)
    ⟨fun ⟨⟨down, fits⟩, filled, away, slash, nul⟩ => ⟨⟨down, fits⟩, filled, away, slash, nul⟩,
      fun h => ⟨⟨h.down, h.fits⟩, h.filled, h.away, h.slash, h.nul⟩⟩

/-- A name that goes on behind a text with neither a slash nor a NUL. -/
theorem EntryName.of_append {front back : String} (slash : '/' ∉ front.toList)
    (nul : '\x00' ∉ front.toList) (name : EntryName back) (long : 3 ≤ back.length)
    (fits : front.utf8ByteSize + back.utf8ByteSize ≤ nameLimit) : EntryName (front ++ back) := by
  have size : back.length ≤ (front ++ back).length := by
    rw [String.length_append]
    exact Nat.le_add_left _ _
  have ne {text : String} (short : text.length < 3) : front ++ back ≠ text := by
    rintro rfl
    omega
  refine ⟨⟨ne (by decide), ?_⟩, ne (by decide), ne (by decide), ?_, ?_⟩
  · rwa [String.utf8ByteSize_append]
  · rw [String.toList_append, List.mem_append, not_or]
    exact ⟨slash, name.slash⟩
  · rw [String.toList_append, List.mem_append, not_or]
    exact ⟨nul, name.nul⟩

theorem EntryName.div (p : Path) {text : String} (name : EntryName text) :
    p / text = p.below [text] := by
  change p.join (Path.parse text) = _
  rw [Path.parse_of_no_slash name.slash name.filled name.away]
  rfl

theorem hasNul_below {root : Path} {loc : Location} (h : hasNul root = false)
    (names : ∀ part ∈ loc, EntryName part) : hasNul (root.below loc) = false := by
  simp only [hasNul, Path.below, List.any_append, Bool.or_eq_false_iff] at h ⊢
  refine ⟨h, ?_⟩
  rw [List.any_eq_false]
  intro part hm
  simpa using (names part hm).nul

variable {tree : FileTree} {here dir : Location} {root : Path} {parts : List String}

/-- Below a free place all is free. -/
theorem Closed.free_below (closed : tree.Closed) {loc : Location} (free : tree.get? loc = none)
    (rest : Location) : tree.get? (loc ++ rest) = none := by
  induction rest using List.reverseRecOn with
  | nil => rwa [List.append_nil]
  | append_singleton rest part ih =>
      by_contra standing
      have above := closed _ standing
      rw [← List.append_assoc, List.dropLast_concat, ih] at above
      cases above

/-! ## A directory that stands -/

theorem isDirectory_eq_true_iff (tree : FileTree) (path : Path) :
    tree.isDirectory path = .ok true ↔
      hasNul path = false ∧ ∃ target, tree.target path = .ok target ∧
        match target with
        | .directory _ => True
        | .place loc => tree.get? loc = some .directory := by
  cases hnul : hasNul path with
  | true => simp [isDirectory, isKind, hnul]
  | false =>
      rw [isDirectory_eq tree hnul]
      cases tree.target path with
      | error e => cases e <;> simp
      | ok target =>
          cases target with
          | directory loc => simp
          | place loc =>
              cases h : tree.get? loc with
              | none => simp [h]
              | some e => cases e <;> simp [h]

/-- A path to a directory can be walked to its end. -/
theorem walk_of_isDirectory (h : tree.isDirectory root = .ok true) :
    tree.walk (tree.start root) root.parts = .ok (tree.placeOf root) := by
  obtain ⟨-, target, htarget, standing⟩ := (isDirectory_eq_true_iff tree root).mp h
  suffices walked : ∃ dir, tree.walk (tree.start root) root.parts = .ok dir by
    obtain ⟨dir, hdir⟩ := walked
    rw [hdir, walk_eq_resolveFrom hdir, placeOf]
  unfold FileTree.target at htarget
  split at htarget
  · cases htarget
  cases hlast : root.parts.getLast? with
  | none => exact ⟨_, by rw [List.getLast?_eq_none_iff.mp hlast]; rfl⟩
  | some last =>
      obtain ⟨init, hinit⟩ := List.getLast?_eq_some_iff.mp hlast
      rw [hlast, hinit, List.dropLast_concat] at htarget
      rw [hinit, walk_append]
      cases hwalk : tree.walk (tree.start root) init with
      | error e =>
          rw [hwalk] at htarget
          cases htarget
      | ok dir =>
          rw [hwalk] at htarget
          have entered : ∃ dir', tree.enter dir last = .ok dir' := by
            simp only [bind, Except.bind] at htarget
            by_cases hp : last = ".."
            · exact ⟨_, (enter_eq_ok_iff tree dir _ last).mpr (Or.inl ⟨hp, rfl⟩)⟩
            rw [if_neg hp] at htarget
            split at htarget
            · cases htarget
            · next hl =>
                cases htarget
                exact ⟨_, (enter_eq_ok_iff tree dir _ last).mpr
                  (Or.inr ⟨hp, Nat.not_lt.mp hl, rfl, standing⟩)⟩
          obtain ⟨dir', hdir⟩ := entered
          exact ⟨dir', (walk_cons_eq_ok_iff ..).mpr ⟨dir', hdir, rfl⟩⟩

/-! ## Ways -/

theorem visited_append (here : Location) (parts rest : List String) :
    visited here (parts ++ rest) =
      visited here parts ++ visited (Path.resolveFrom here parts) rest := by
  induction parts generalizing here with
  | nil => rfl
  | cons part parts ih =>
      rw [List.cons_append, visited, visited, ih, ih, Path.resolveFrom, Path.resolveFrom,
        Path.resolveFrom, List.foldl_cons]
      by_cases hp : part = ".."
      · simp only [hp, if_true]
      · simp only [hp, if_false, List.cons_append]

/-- All that a walk comes to are directories. -/
theorem directory_of_walk (h : tree.walk here parts = .ok dir) {loc : Location}
    (hm : loc ∈ visited here parts) : tree.get? loc = some .directory := by
  induction parts generalizing here with
  | nil => cases hm
  | cons part rest ih =>
      obtain ⟨next, he, hrest⟩ := (walk_cons_eq_ok_iff ..).mp h
      rw [visited] at hm
      rcases (enter_eq_ok_iff tree here next part).mp he with ⟨hp, rfl⟩ | ⟨hp, -, rfl, hd⟩
      · rw [if_pos hp] at hm
        exact ih hrest hm
      · rw [if_neg hp, List.mem_cons] at hm
        rcases hm with rfl | hm
        · exact hd
        · exact ih hrest hm

/-- Above a place to which a path leads there are directories. -/
theorem directory_of_target {path : Path} {loc above : Location}
    (h : tree.target path = .ok (.place loc))
    (hm : above ∈ visited (tree.start path) path.parent.parts) :
    tree.get? above = some .directory := by
  obtain ⟨-, dir, -, -, walked, -⟩ := (target_eq_place_iff tree path loc).mp h
  exact directory_of_walk walked hm

/-- Over free ground and directories the whole way is paved. -/
theorem pave_plain (plain : ∀ part ∈ parts, Plain part)
    (free : ∀ loc ∈ visited here parts, tree.get? loc = none ∨ tree.get? loc = some .directory) :
    (tree.pave here parts).2 = some (here ++ parts) := by
  induction parts generalizing tree here with
  | nil => rw [pave, List.append_nil]
  | cons part rest ih =>
      obtain ⟨⟨down, fits⟩, plain⟩ := List.forall_mem_cons.mp plain
      rw [visited, if_neg down] at free
      obtain ⟨first, free⟩ := List.forall_mem_cons.mp free
      have hassoc : here ++ part :: rest = here ++ [part] ++ rest := by simp
      rw [pave, if_neg down, if_neg (Nat.not_lt.mpr fits), hassoc]
      rcases first with first | first
      · rw [first]
        refine ih plain (fun loc hm => ?_)
        rw [get?_put tree (by simp)]
        split
        · exact Or.inr rfl
        · exact free loc hm
      · rw [first]
        exact ih plain free

theorem length_le_of_visited {loc : Location} (h : loc ∈ visited here parts) :
    loc.length ≤ here.length + parts.length := by
  induction parts generalizing here with
  | nil => cases h
  | cons part rest ih =>
      rw [visited] at h
      rw [List.length_cons]
      split at h
      · have hle := ih h
        rw [List.length_dropLast] at hle
        omega
      · rcases List.mem_cons.mp h with rfl | h
        · simp only [List.length_append, List.length_cons, List.length_nil]
          omega
        · have hle := ih h
          simp only [List.length_append, List.length_cons, List.length_nil] at hle
          omega

/-! ## Below a directory -/

variable {loc : Location} {last : String}

theorem placeOf_below (tree : FileTree) (root : Path) (plain : ∀ part ∈ loc, Plain part) :
    tree.placeOf (root.below loc) = tree.placeOf root ++ loc := by
  rw [placeOf, Path.below, Path.resolveFrom_append,
    Path.resolveFrom_of_plain _ (fun part hm => (plain part hm).down)]
  rfl

theorem withDirectory_below (walked : tree.walk (tree.start root) root.parts = .ok here)
    (nul : hasNul (root.below loc) = false)
    (short : (root.below loc).toString.utf8ByteSize ≤ pathLimit) (few : loc.length ≤ callLimit)
    (plain : ∀ part ∈ loc, Plain part)
    (free : ∀ l ∈ visited here loc, tree.get? l = none ∨ tree.get? l = some .directory) :
    tree.withDirectory (root.below loc) = ((tree.pave here loc).1, some (here ++ loc)) := by
  have paved := pave_append tree (tree.start root) root.parts loc
  rw [pave_of_walk walked] at paved
  have missing :
      tree.behindMissing (tree.start (root.below loc)) (root.below loc).parts ≤ callLimit :=
    (behindMissing_append_of_walk walked loc).trans_le ((behindMissing_le tree here loc).trans few)
  rw [withDirectory, if_neg (by simp [nul, Nat.not_lt.mpr short, Nat.not_lt.mpr missing])]
  change tree.pave (tree.start root) (root.parts ++ loc) = _
  rw [paved, ← pave_plain plain free]

/-- A file below a directory can be opened once the directories above it were made, where nothing
else is in the way. -/
theorem opens_below (walked : tree.walk (tree.start root) root.parts = .ok here)
    (nul : hasNul (root.below (loc ++ [last])) = false)
    (short : (root.below (loc ++ [last])).toString.utf8ByteSize ≤ pathLimit)
    (few : loc.length ≤ callLimit) (plain : ∀ part ∈ loc ++ [last], Plain part)
    (free : ∀ l ∈ visited here loc, tree.get? l = none ∨ tree.get? l = some .directory)
    (place : tree.get? (here ++ (loc ++ [last])) ≠ some .directory) :
    ∃ made, tree.withDirectory (root.below loc) = (made, some (here ++ loc)) ∧
      made.placeToOpen (root.below (loc ++ [last])) = .ok (here ++ (loc ++ [last])) ∧
      made.get? (here ++ (loc ++ [last])) = tree.get? (here ++ (loc ++ [last])) := by
  have hassoc : root.below (loc ++ [last]) = ⟨root.anchor, (root.parts ++ loc) ++ [last]⟩ := by
    rw [Path.below, List.append_assoc]
  rw [hassoc] at nul short
  have made := withDirectory_below walked (hasNul_init nul)
    ((Path.size_dropLast_le root.anchor (root.parts ++ loc) last).trans short) few
    (fun part hm => plain part (List.mem_append_left _ hm)) free
  have grows := pave_grows tree here loc
  have same : (tree.pave here loc).1.get? (here ++ (loc ++ [last])) =
      tree.get? (here ++ (loc ++ [last])) := by
    refine grows.unchanged (fun hm => ?_) (Set.notMem_empty _)
    have hle := length_le_of_visited (show _ ∈ visited here loc from hm)
    simp only [List.length_append, List.length_cons, List.length_nil] at hle
    omega
  have paved : tree.pave here loc = ((tree.pave here loc).1, some (here ++ loc)) := by
    rw [← pave_plain (fun part hm => plain part (List.mem_append_left _ hm)) free]
  have found : (tree.pave here loc).1.walk (tree.start root) (root.parts ++ loc) =
      .ok (here ++ loc) := by
    rw [walk_append, walk_of_grows grows walked]
    exact walk_pave paved
  obtain ⟨down, fits⟩ := plain last (by simp)
  refine ⟨_, made, (placeToOpen_eq_ok_iff _ _ _).mpr ⟨?_, ?_, same ▸ place⟩, same⟩
  · rw [hassoc, nul]
  · rw [hassoc, target_eq_place_iff]
    refine ⟨short, here ++ loc, last, by simp, ?_, down, fits, by simp⟩
    rw [List.dropLast_concat]
    exact grows.start root ▸ found

end FileTree

end Scaffold
