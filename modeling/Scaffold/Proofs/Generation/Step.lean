import Scaffold.Proofs.FileTree.Opening
import Scaffold.Render

/-!
# What rendering one file can do

The five stages fail one after the other, and the stage that fails fixes the tree that is left:
the tree as it was, the tree with the directories above the file, or that tree with the output
that came before the failure.
-/

namespace Scaffold

variable {bundle : Bundle} {resource : String} {path : Path}
  {data : List (String × Template.Value)} {draws : Template.Draws} {tree : FileTree}

/-- The program of a resource is that of its text. -/
theorem Bundle.program_eq (bundle : Bundle) (resource : String) :
    bundle.program resource =
      match bundle.get? resource with
      | none => .error (.generation ⟨.readTemplate, resource, .noTemplate bundle.origin⟩)
      | some text =>
          match Template.compile text with
          | .ok program => .ok program
          | .error cause => .error (refusal resource cause) := by
  unfold program read
  cases bundle.get? resource with
  | none => rfl
  | some text =>
      change (Template.compile text).mapError (refusal resource) = _
      cases compiled : Template.compile text <;> simp only [compiled] <;> rfl

/-- All that rendering can come to, one rule for each stage that fails and one for the output. -/
inductive Rendering (bundle : Bundle) (resource : String) (path : Path)
    (data : List (String × Template.Value)) (draws : Template.Draws) (tree : FileTree) :
    Except Failure Unit × FileTree → Prop
  | unreadable {failure : Failure} (read : bundle.program resource = .error failure) :
      Rendering bundle resource path data draws tree (.error failure, tree)
  | unmade {program : Template.Program} {fault : DiskFault}
      (read : bundle.program resource = .ok program)
      (blocked : (tree.withDirectory path.parent).2 = none)
      (blocks : tree.Blocks path.parent FileTree.callLimit fault) :
      Rendering bundle resource path data draws tree
        (.error (Render.diskFailure .createDirectory path.parent fault),
          (tree.withDirectory path.parent).1)
  | unopened {program : Template.Program} {dir : Location} {fault : DiskFault}
      (read : bundle.program resource = .ok program)
      (made : (tree.withDirectory path.parent).2 = some dir)
      (refused : (tree.withDirectory path.parent).1.placeToOpen path = .error fault) :
      Rendering bundle resource path data draws tree
        (.error (Render.diskFailure .createFile path fault), (tree.withDirectory path.parent).1)
  | full {program : Template.Program} {dir loc : Location}
      (read : bundle.program resource = .ok program)
      (made : (tree.withDirectory path.parent).2 = some dir)
      (opened : (tree.withDirectory path.parent).1.placeToOpen path = .ok loc)
      (device : (tree.withDirectory path.parent).1.get? loc = some .fullDevice)
      (output : (program.run data draws).text.toUTF8.isEmpty = false) :
      Rendering bundle resource path data draws tree
        (.error (Render.diskFailure .createFile path (.os .noSpace)),
          (tree.withDirectory path.parent).1)
  | broken {program : Template.Program} {dir loc : Location} {trouble : Template.Trouble}
      (read : bundle.program resource = .ok program)
      (made : (tree.withDirectory path.parent).2 = some dir)
      (opened : (tree.withDirectory path.parent).1.placeToOpen path = .ok loc)
      (fits : (tree.withDirectory path.parent).1.get? loc = some .fullDevice →
        (program.run data draws).text.toUTF8.isEmpty = true)
      (stopped : (program.run data draws).trouble? = some trouble) :
      Rendering bundle resource path data draws tree
        (.error (.generation ⟨.executeTemplate, resource, .trouble trouble⟩),
          (tree.withDirectory path.parent).1.withContent loc (program.run data draws).text.toUTF8)
  | written {program : Template.Program} {dir loc : Location}
      (read : bundle.program resource = .ok program)
      (made : (tree.withDirectory path.parent).2 = some dir)
      (opened : (tree.withDirectory path.parent).1.placeToOpen path = .ok loc)
      (fits : (tree.withDirectory path.parent).1.get? loc = some .fullDevice →
        (program.run data draws).text.toUTF8.isEmpty = true)
      (ended : (program.run data draws).trouble? = none) :
      Rendering bundle resource path data draws tree
        (.ok (),
          (tree.withDirectory path.parent).1.withContent loc (program.run data draws).text.toUTF8)

namespace Render

theorem makeParents_on (path : Path) (tree : FileTree) :
    match (tree.withDirectory path.parent).2 with
    | some _ => Disk.on (makeParents path) tree = (.ok (), (tree.withDirectory path.parent).1)
    | none => ∃ fault, Disk.on (makeParents path) tree =
        (.error (diskFailure .createDirectory path.parent fault),
          (tree.withDirectory path.parent).1) ∧
        tree.Blocks path.parent FileTree.callLimit fault := by
  have ensured := FileTree.ensureDirectory_on tree path.parent
  rw [makeParents, Disk.on_adapt]
  split
  · next dir hdir =>
      rw [hdir] at ensured
      rw [ensured]
      rfl
  · next hdir =>
      rw [hdir] at ensured
      obtain ⟨fault, hfault, blocks⟩ := ensured
      exact ⟨fault, by rw [hfault]; rfl, blocks⟩

theorem createFile_on (path : Path) (tree : FileTree) :
    Disk.on (createFile path) tree =
      match tree.placeToOpen path with
      | .error fault => (.error (diskFailure .createFile path fault), tree)
      | .ok loc => (.ok loc, tree.withContent loc .empty) := by
  rw [createFile, Disk.on_adapt, FileTree.openFile_on]
  cases tree.placeToOpen path <;> rfl

theorem execute_on_full (resource : String) (path : Path) {loc : Location}
    (outcome : Template.Outcome) {tree : FileTree} (device : tree.get? loc = some .fullDevice)
    (output : outcome.text.toUTF8.isEmpty = false) :
    Disk.on (execute resource path loc outcome) tree =
      (.error (diskFailure .createFile path (.os .noSpace)), tree) := by
  rw [execute, Disk.on_bind, Disk.on_adapt, FileTree.fill_on, device]
  simp only [output, Bool.false_eq_true, if_false]
  rfl

/-- The output is written before the failure that ended it is reported. -/
theorem execute_on (resource : String) (path : Path) {loc : Location}
    (outcome : Template.Outcome) {tree : FileTree}
    (fits : tree.get? loc = some .fullDevice → outcome.text.toUTF8.isEmpty = true) :
    Disk.on (execute resource path loc outcome) tree =
      match outcome.trouble? with
      | some trouble => (.error (.generation ⟨.executeTemplate, resource, .trouble trouble⟩),
          tree.withContent loc outcome.text.toUTF8)
      | none => (.ok (), tree.withContent loc outcome.text.toUTF8) := by
  have filled : Disk.on (FileTree.fill loc outcome.text.toUTF8) tree =
      (.ok (), tree.withContent loc outcome.text.toUTF8) := by
    rw [FileTree.fill_on]
    unfold FileTree.withContent
    cases hs : tree.get? loc with
    | none => rfl
    | some e =>
        cases e with
        | directory => rfl
        | file content => rfl
        | fullDevice => simp only [fits hs, if_true]
  rw [execute, Disk.on_bind, Disk.on_adapt, filled]
  cases outcome.trouble? <;> rfl

end Render

/-! ## Stage by stage -/

section

variable {bundle : Bundle} {resource : String} {path : Path} {tree : FileTree}
  {program : Template.Program} (data : List (String × Template.Value)) (draws : Template.Draws)

theorem render_unreadable {failure : Failure}
    (read : bundle.program resource = .error failure) :
    Disk.on (render bundle resource path data draws) tree = (.error failure, tree) := by
  rw [render, read]
  rfl

theorem render_unmade (read : bundle.program resource = .ok program)
    (blocked : (tree.withDirectory path.parent).2 = none) :
    ∃ fault, Disk.on (render bundle resource path data draws) tree =
        (.error (Render.diskFailure .createDirectory path.parent fault),
          (tree.withDirectory path.parent).1) ∧
      tree.Blocks path.parent FileTree.callLimit fault := by
  have parents := Render.makeParents_on path tree
  rw [blocked] at parents
  obtain ⟨fault, hfault, blocks⟩ := parents
  refine ⟨fault, ?_, blocks⟩
  rw [render, read]
  exact Disk.on_bind_error hfault _

/-- With the directories above the file in place the rest goes on from there. -/
theorem render_made {dir : Location} (read : bundle.program resource = .ok program)
    (made : (tree.withDirectory path.parent).2 = some dir) :
    Disk.on (render bundle resource path data draws) tree =
      Disk.on (Render.createFile path >>= fun loc =>
          Render.execute resource path loc (program.run data draws))
        (tree.withDirectory path.parent).1 := by
  have parents := Render.makeParents_on path tree
  rw [made] at parents
  rw [render, read]
  exact Disk.on_bind_ok parents _

theorem render_unopened {dir : Location} {fault : DiskFault}
    (read : bundle.program resource = .ok program)
    (made : (tree.withDirectory path.parent).2 = some dir)
    (refused : (tree.withDirectory path.parent).1.placeToOpen path = .error fault) :
    Disk.on (render bundle resource path data draws) tree =
      (.error (Render.diskFailure .createFile path fault), (tree.withDirectory path.parent).1) := by
  have created := Render.createFile_on path (tree.withDirectory path.parent).1
  rw [refused] at created
  rw [render_made data draws read made, Disk.on_bind_error created]

theorem render_opened {dir loc : Location} (read : bundle.program resource = .ok program)
    (made : (tree.withDirectory path.parent).2 = some dir)
    (opened : (tree.withDirectory path.parent).1.placeToOpen path = .ok loc) :
    Disk.on (render bundle resource path data draws) tree =
      Disk.on (Render.execute resource path loc (program.run data draws))
        ((tree.withDirectory path.parent).1.withContent loc .empty) := by
  have created := Render.createFile_on path (tree.withDirectory path.parent).1
  rw [opened] at created
  rw [render_made data draws read made, Disk.on_bind_ok created]

theorem render_full {dir loc : Location} (read : bundle.program resource = .ok program)
    (made : (tree.withDirectory path.parent).2 = some dir)
    (opened : (tree.withDirectory path.parent).1.placeToOpen path = .ok loc)
    (device : (tree.withDirectory path.parent).1.get? loc = some .fullDevice)
    (output : (program.run data draws).text.toUTF8.isEmpty = false) :
    Disk.on (render bundle resource path data draws) tree =
      (.error (Render.diskFailure .createFile path (.os .noSpace)),
        (tree.withDirectory path.parent).1) := by
  rw [render_opened data draws read made opened, FileTree.withContent_device device,
    Render.execute_on_full resource path _ device output]

theorem render_filled {dir loc : Location} (read : bundle.program resource = .ok program)
    (made : (tree.withDirectory path.parent).2 = some dir)
    (opened : (tree.withDirectory path.parent).1.placeToOpen path = .ok loc)
    (fits : (tree.withDirectory path.parent).1.get? loc = some .fullDevice →
      (program.run data draws).text.toUTF8.isEmpty = true) :
    Disk.on (render bundle resource path data draws) tree =
      (match (program.run data draws).trouble? with
        | some trouble => .error (.generation ⟨.executeTemplate, resource, .trouble trouble⟩)
        | none => .ok (),
      (tree.withDirectory path.parent).1.withContent loc (program.run data draws).text.toUTF8) := by
  have hn := FileTree.place_ne_nil ((FileTree.placeToOpen_eq_ok_iff _ path loc).mp opened).2.1
  rw [render_opened data draws read made opened, Render.execute_on resource path,
    FileTree.withContent_twice hn]
  · cases (program.run data draws).trouble? <;> rfl
  · intro device
    exact fits ((FileTree.get?_withContent_device _ hn .empty).mp device)

end

/-- Rendering a file comes to one of the rules. -/
theorem render_on (bundle : Bundle) (resource : String) (path : Path)
    (data : List (String × Template.Value)) (draws : Template.Draws) (tree : FileTree) :
    Rendering bundle resource path data draws tree
      (Disk.on (render bundle resource path data draws) tree) := by
  cases read : bundle.program resource with
  | error failure =>
      rw [render_unreadable data draws read]
      exact .unreadable read
  | ok program =>
      cases made : (tree.withDirectory path.parent).2 with
      | none =>
          obtain ⟨fault, hfault, blocks⟩ := render_unmade data draws read made
          rw [hfault]
          exact .unmade read made blocks
      | some dir =>
          cases opened : (tree.withDirectory path.parent).1.placeToOpen path with
          | error fault =>
              rw [render_unopened data draws read made opened]
              exact .unopened read made opened
          | ok loc =>
              by_cases fits : (tree.withDirectory path.parent).1.get? loc = some .fullDevice →
                  (program.run data draws).text.toUTF8.isEmpty = true
              · rw [render_filled data draws read made opened fits]
                cases ended : (program.run data draws).trouble? with
                | none => exact .written read made opened fits ended
                | some trouble => exact .broken read made opened fits ended
              · obtain ⟨device, output⟩ := Classical.not_imp.mp fits
                rw [Bool.not_eq_true] at output
                rw [render_full data draws read made opened device output]
                exact .full read made opened device output

/-! ## What changes -/

variable {bundle : Bundle} {resource : String} {path : Path}
  {data : List (String × Template.Value)} {draws : Template.Draws} {tree : FileTree}
  {outcome : Except Failure Unit × FileTree}

/-- A file is opened at the place that its path stands for. -/
theorem place_of_opened {loc : Location}
    (opened : (tree.withDirectory path.parent).1.placeToOpen path = .ok loc) :
    loc = tree.placeOf path ∧ loc ≠ [] ∧
      (tree.withDirectory path.parent).1.get? loc ≠ some .directory := by
  obtain ⟨-, target, hd⟩ := (FileTree.placeToOpen_eq_ok_iff _ path loc).mp opened
  refine ⟨?_, FileTree.place_ne_nil target, hd⟩
  rw [(FileTree.place_eq_placeOf target).1,
    FileTree.placeOf_of_grows (FileTree.withDirectory_grows tree path.parent)]

/-- New are at most the directories above the file and the file itself. -/
theorem Rendering.grows (h : Rendering bundle resource path data draws tree outcome) :
    FileTree.Grows {loc | loc ∈ FileTree.visited (tree.start path) path.parent.parts}
      {tree.placeOf path} tree outcome.2 := by
  have parents := FileTree.withDirectory_grows tree path.parent
  have opening {loc : Location} (text : ByteArray)
      (opened : (tree.withDirectory path.parent).1.placeToOpen path = .ok loc) :
      FileTree.Grows {loc | loc ∈ FileTree.visited (tree.start path) path.parent.parts}
        {tree.placeOf path} tree ((tree.withDirectory path.parent).1.withContent loc text) := by
    obtain ⟨rfl, hn, hd⟩ := place_of_opened opened
    have filled := FileTree.withContent_grows hn hd text
    exact (parents.mono (fun _ hm => hm) (Set.empty_subset _)).trans
      (filled.mono (Set.empty_subset _) (fun _ hm => hm))
  have blocked : FileTree.Grows {loc | loc ∈ FileTree.visited (tree.start path) path.parent.parts}
      {tree.placeOf path} tree (tree.withDirectory path.parent).1 :=
    parents.mono (fun _ hm => hm) (Set.empty_subset _)
  cases h with
  | unreadable => exact .refl ..
  | unmade => exact blocked
  | unopened => exact blocked
  | full => exact blocked
  | broken read made opened => exact opening _ opened
  | written read made opened => exact opening _ opened

/-- A resource without a program is missing or malformed, or its compilation escapes. -/
theorem Bundle.failure_of_program {bundle : Bundle} {resource : String} {failure : Failure}
    (read : bundle.program resource = .error failure) :
    (∃ reason, failure = .generation ⟨.readTemplate, resource, reason⟩) ∨
      (∃ reason, failure = .generation ⟨.parseTemplate, resource, reason⟩) ∨
        ∃ cause, failure = .fault (.uncompiled cause) := by
  rw [program_eq] at read
  split at read
  · cases read
    exact .inl ⟨_, rfl⟩
  · split at read
    · cases read
    · next cause _ =>
        cases read
        cases cause with
        | fault fault => exact .inr (.inl ⟨_, rfl⟩)
        | escape cause => exact .inr (.inr ⟨cause, rfl⟩)

/-- A file that cannot be written is no matter of the input. -/
theorem Rendering.not_input {final : FileTree} {failure : Failure}
    (h : Rendering bundle resource path data draws tree (.error failure, final))
    (cause : InputFailure) :
    failure ≠ .input cause := by
  have onDisk (stage : Stage) (path : Path) (fault : DiskFault) :
      Render.diskFailure stage path fault ≠ .input cause := by
    cases fault <;> simp [Render.diskFailure, Failure.ofDisk]
  cases h with
  | unreadable read =>
      obtain ⟨_, rfl⟩ | ⟨_, rfl⟩ | ⟨_, rfl⟩ := Bundle.failure_of_program read <;> simp
  | unmade => exact onDisk _ _ _
  | unopened => exact onDisk _ _ _
  | full => exact onDisk _ _ _
  | broken => simp

end Scaffold
