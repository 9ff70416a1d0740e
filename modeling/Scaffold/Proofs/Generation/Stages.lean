import Scaffold.FailureKind
import Scaffold.Proofs.Generation.Step

/-!
# Stages of rendering a file

Rendering a file breaks off at the first of its five stages that fails.  The stage tells what is
left: the tree as it was, the directories that could be made, all directories above the file, or
the file with the output that came before the failure.
-/

namespace Scaffold

/-- The outcome is a failure of the kind that belongs to a stage. -/
def Stage.Fails {α : Type} (stage : Stage) (outcome : Except Failure α) : Prop :=
  ∃ failure, outcome = .error failure ∧ failure.kind? = some (.stage stage)

/-- The second tree is the first one with some output in the file at a path.  A device stays as it
is, and reads as the empty output. -/
structure FileTree.Filled (path : Path) (output : ByteArray) (tree tree' : FileTree) : Prop where
  base : tree'.base = tree.base
  read : tree'.readBytes path = .ok output
  file : tree.get? (tree.placeOf path) ≠ some .fullDevice →
    tree'.get? (tree.placeOf path) = some (.file output)
  device : tree.get? (tree.placeOf path) = some .fullDevice → tree' = tree
  others : ∀ loc, loc ≠ tree.placeOf path → tree'.get? loc = tree.get? loc

theorem FileTree.Filled.of_opened {tree : FileTree} {path : Path} {loc : Location}
    {output : ByteArray} (opened : tree.placeToOpen path = .ok loc)
    (fits : tree.get? loc = some .fullDevice → output.isEmpty = true) :
    Filled path output tree (tree.withContent loc output) := by
  obtain ⟨-, target, hd⟩ := (placeToOpen_eq_ok_iff tree path loc).mp opened
  have hn := place_ne_nil target
  have read := readBytes_withContent opened fits
  have grows := withContent_grows hn hd output
  obtain ⟨rfl, -⟩ := place_eq_placeOf target
  exact {
    base := grows.base
    read := read
    file := get?_withContent_self hn output
    device := fun device => withContent_device device output
    others := fun loc hl => grows.unchanged (Set.notMem_empty loc) hl }

namespace Render

/-- The courses that rendering a file can take, each with its outcome and the tree that it leaves:
one for every stage that can fail, in the order of the stages, and one that ends with the whole
output.  A path that holds a NUL character, a path with too many missing components and a template
whose compilation escapes are none of the stages' failures. -/
inductive Course (bundle : Bundle) (resource : String) (path : Path)
    (data : List (String × Template.Value)) (draws : Template.Draws) (tree : FileTree) :
    Except Failure Path → FileTree → Prop
  | unread (missing : bundle.get? resource = none) :
      Course bundle resource path data draws tree
        (.error (.generation ⟨.readTemplate, resource, .noTemplate bundle.origin⟩)) tree
  | unparsed {text : String} {fault : Template.TemplateFault}
      (source : bundle.get? resource = some text)
      (malformed : Template.compile text = .error (.fault fault)) :
      Course bundle resource path data draws tree
        (.error (.generation ⟨.parseTemplate, resource, .syntaxFault fault⟩)) tree
  | uncompiled {text : String} {cause : Template.Escape}
      (source : bundle.get? resource = some text)
      (escapes : Template.compile text = .error (.escape cause)) :
      Course bundle resource path data draws tree (.error (.fault (.uncompiled cause))) tree
  | unmade {program : Template.Program} {cause : OsError} {made : FileTree}
      (read : bundle.program resource = .ok program)
      (blocked : Disk.on (FileTree.ensureDirectory path.parent) tree = (.error (.os cause), made)) :
      Course bundle resource path data draws tree
        (.error (.generation ⟨.createDirectory, path.parent.toString, .os cause⟩)) made
  | illegalParent {program : Template.Program}
      (read : bundle.program resource = .ok program)
      (blocked : Disk.on (FileTree.ensureDirectory path.parent) tree =
        (.error .embeddedNul, tree)) :
      Course bundle resource path data draws tree (.error (.fault .embeddedNul)) tree
  | deepParent {program : Template.Program}
      (read : bundle.program resource = .ok program)
      (blocked : Disk.on (FileTree.ensureDirectory path.parent) tree = (.error .tooDeep, tree)) :
      Course bundle resource path data draws tree (.error (.fault .tooDeep)) tree
  | unopened {program : Template.Program} {cause : OsError} {made : FileTree}
      (read : bundle.program resource = .ok program)
      (ensured : Disk.on (FileTree.ensureDirectory path.parent) tree = (.ok (), made))
      (refused : Disk.on (FileTree.openFile path) made = (.error (.os cause), made)) :
      Course bundle resource path data draws tree
        (.error (.generation ⟨.createFile, path.toString, .os cause⟩)) made
  | illegalName {program : Template.Program} {made : FileTree}
      (read : bundle.program resource = .ok program)
      (ensured : Disk.on (FileTree.ensureDirectory path.parent) tree = (.ok (), made))
      (refused : Disk.on (FileTree.openFile path) made = (.error .embeddedNul, made)) :
      Course bundle resource path data draws tree (.error (.fault .embeddedNul)) made
  | full {program : Template.Program} {loc : Location} {made : FileTree}
      (read : bundle.program resource = .ok program)
      (ensured : Disk.on (FileTree.ensureDirectory path.parent) tree = (.ok (), made))
      (opened : Disk.on (FileTree.openFile path) made = (.ok loc, made))
      (device : made.get? loc = some .fullDevice) :
      Course bundle resource path data draws tree
        (.error (.generation ⟨.createFile, path.toString, .os .noSpace⟩)) made
  | broken {program : Template.Program} {loc : Location} {trouble : Template.Trouble}
      {made emptied final : FileTree} (read : bundle.program resource = .ok program)
      (ensured : Disk.on (FileTree.ensureDirectory path.parent) tree = (.ok (), made))
      (opened : Disk.on (FileTree.openFile path) made = (.ok loc, emptied))
      (stopped : (program.run data draws).trouble? = some trouble)
      (filled : FileTree.Filled path (program.run data draws).text.toUTF8 made final) :
      Course bundle resource path data draws tree
        (.error (.generation ⟨.executeTemplate, resource, .trouble trouble⟩)) final
  | written {program : Template.Program} {loc : Location} {made emptied final : FileTree}
      (read : bundle.program resource = .ok program)
      (ensured : Disk.on (FileTree.ensureDirectory path.parent) tree = (.ok (), made))
      (opened : Disk.on (FileTree.openFile path) made = (.ok loc, emptied))
      (ended : (program.run data draws).trouble? = none)
      (filled : FileTree.Filled path (program.run data draws).text.toUTF8 made final) :
      Course bundle resource path data draws tree (.ok path) final

variable {bundle : Bundle} {resource : String} {path : Path}
  {data : List (String × Template.Value)} {draws : Template.Draws} {tree : FileTree}

theorem renderFile_on (bundle : Bundle) (resource : String) (path : Path)
    (data : List (String × Template.Value)) (draws : Template.Draws) (tree : FileTree) :
    Disk.on (renderFile bundle resource path data draws) tree =
      ((Disk.on (render bundle resource path data draws) tree).1.map fun _ => path,
        (Disk.on (render bundle resource path data draws) tree).2) := by
  rw [renderFile, Disk.on_bind]
  rcases Disk.on (render bundle resource path data draws) tree with ⟨outcome, final⟩
  cases outcome <;> rfl

/-- A resource without a program is missing or malformed, or its compilation escapes. -/
theorem course_of_unreadable {failure : Failure}
    (read : bundle.program resource = .error failure) :
    Course bundle resource path data draws tree (.error failure) tree := by
  rw [Bundle.program_eq] at read
  split at read
  · next missing =>
      cases read
      exact .unread missing
  · next text source =>
      split at read
      · cases read
      · next cause refused =>
          cases read
          cases cause with
          | fault fault => exact .unparsed source refused
          | escape cause => exact .uncompiled source refused

theorem render_blocked {program : Template.Program} {fault : DiskFault} {made : FileTree}
    (read : bundle.program resource = .ok program)
    (blocked : Disk.on (FileTree.ensureDirectory path.parent) tree = (.error fault, made)) :
    Disk.on (render bundle resource path data draws) tree =
      (.error (diskFailure .createDirectory path.parent fault), made) := by
  have parents : Disk.on (makeParents path) tree =
      (.error (diskFailure .createDirectory path.parent fault), made) := by
    rw [makeParents, Disk.on_adapt, blocked]
    rfl
  rw [render, read]
  exact Disk.on_bind_error parents _

/-- Directories that cannot be made leave nothing but those that could be made. -/
theorem course_of_blocked {program : Template.Program} {fault : DiskFault} {made : FileTree}
    (read : bundle.program resource = .ok program)
    (blocked : Disk.on (FileTree.ensureDirectory path.parent) tree = (.error fault, made)) :
    Course bundle resource path data draws tree
      (.error (diskFailure .createDirectory path.parent fault)) made := by
  cases fault with
  | os cause => exact .unmade read blocked
  | embeddedNul =>
      obtain ⟨left, blocks⟩ := FileTree.withDirectory_of_blocked blocked
      have untouched : (tree.withDirectory path.parent).1 = tree := by
        rw [FileTree.withDirectory, if_pos (Or.inl (blocks.nul.mp rfl))]
      rw [← left, untouched] at blocked ⊢
      exact .illegalParent read blocked
  | tooDeep =>
      obtain ⟨left, blocks⟩ := FileTree.withDirectory_of_blocked blocked
      have untouched : (tree.withDirectory path.parent).1 = tree := by
        rw [FileTree.withDirectory, if_pos (Or.inr (Or.inr (blocks.deep.mp rfl).deep))]
      rw [← left, untouched] at blocked ⊢
      exact .deepParent read blocked

/-- With the directories above the file in place, opening, running and writing are left. -/
theorem course_of_ensured {program : Template.Program} {made : FileTree}
    (read : bundle.program resource = .ok program)
    (ensured : Disk.on (FileTree.ensureDirectory path.parent) tree = (.ok (), made)) :
    Course bundle resource path data draws tree
      ((Disk.on (render bundle resource path data draws) tree).1.map fun _ => path)
      (Disk.on (render bundle resource path data draws) tree).2 := by
  obtain ⟨left, dir, found⟩ := FileTree.withDirectory_of_ensured ensured
  have opening := FileTree.openFile_on made path
  cases opened : made.placeToOpen path with
  | error fault =>
      rw [opened] at opening
      rw [← left] at opened
      rw [render_unopened data draws read found opened, left]
      cases fault with
      | os cause => exact .unopened read ensured opening
      | embeddedNul => exact .illegalName read ensured opening
      | tooDeep => exact absurd opened (FileTree.placeToOpen_ne_tooDeep _ path)
  | ok loc =>
      rw [opened] at opening
      by_cases fits : made.get? loc = some .fullDevice →
          (program.run data draws).text.toUTF8.isEmpty = true
      · have filled := FileTree.Filled.of_opened opened fits
        rw [← left] at opened fits
        rw [render_filled data draws read found opened fits, left]
        cases ended : (program.run data draws).trouble? with
        | some trouble => exact .broken read ensured opening ended filled
        | none => exact .written read ensured opening ended filled
      · obtain ⟨device, output⟩ := Classical.not_imp.mp fits
        rw [Bool.not_eq_true] at output
        simp only [FileTree.withContent_device device] at opening
        have device' := device
        rw [← left] at opened device'
        rw [render_full data draws read found opened device' output, left]
        exact .full read ensured opening device

theorem renderFile_course (bundle : Bundle) (resource : String) (path : Path)
    (data : List (String × Template.Value)) (draws : Template.Draws) (tree : FileTree) :
    Course bundle resource path data draws tree
      (Disk.on (renderFile bundle resource path data draws) tree).1
      (Disk.on (renderFile bundle resource path data draws) tree).2 := by
  rw [renderFile_on]
  cases read : bundle.program resource with
  | error failure =>
      rw [render_unreadable data draws read]
      exact course_of_unreadable read
  | ok program =>
      cases ensured : Disk.on (FileTree.ensureDirectory path.parent) tree with
      | mk result made =>
          cases result with
          | error fault =>
              rw [render_blocked read ensured]
              exact course_of_blocked read ensured
          | ok => exact course_of_ensured read ensured

namespace Course

variable {outcome : Except Failure Path} {final : FileTree}

/-- Without a program nothing is done. -/
theorem refused {failure : Failure}
    (course : Course bundle resource path data draws tree outcome final)
    (read : bundle.program resource = .error failure) :
    outcome = .error failure ∧ final = tree := by
  cases course with
  | unread missing =>
      rw [Bundle.program_eq, missing] at read
      cases read
      exact ⟨rfl, rfl⟩
  | unparsed source malformed =>
      simp only [Bundle.program_eq, source, malformed] at read
      cases read
      exact ⟨rfl, rfl⟩
  | uncompiled source escapes =>
      simp only [Bundle.program_eq, source, escapes] at read
      cases read
      exact ⟨rfl, rfl⟩
  | unmade read' | illegalParent read' | deepParent read' | unopened read' | illegalName read'
  | full read'
  | broken read' | written read' =>
      rw [read] at read'
      cases read'

/-- A template is missed exactly where the bundle has none. -/
theorem fails_readTemplate_iff
    (course : Course bundle resource path data draws tree outcome final) :
    Stage.readTemplate.Fails outcome ↔ bundle.get? resource = none := by
  constructor
  · rintro ⟨failure, rfl, kind⟩
    cases course with
    | unread missing => exact missing
    | _ => cases kind
  · intro missing
    have read : bundle.program resource =
        .error (.generation ⟨.readTemplate, resource, .noTemplate bundle.origin⟩) := by
      rw [Bundle.program_eq, missing]
    obtain ⟨rfl, -⟩ := course.refused read
    exact ⟨_, rfl, rfl⟩

/-- A template is refused exactly where it is malformed. -/
theorem fails_parseTemplate_iff
    (course : Course bundle resource path data draws tree outcome final) :
    Stage.parseTemplate.Fails outcome ↔
      ∃ text fault, bundle.get? resource = some text ∧
        Template.compile text = .error (.fault fault) := by
  constructor
  · rintro ⟨failure, rfl, kind⟩
    cases course with
    | unparsed source malformed => exact ⟨_, _, source, malformed⟩
    | _ => cases kind
  · rintro ⟨text, fault, source, malformed⟩
    have read : bundle.program resource =
        .error (.generation ⟨.parseTemplate, resource, .syntaxFault fault⟩) := by
      simp only [Bundle.program_eq, source, malformed]
      rfl
    obtain ⟨rfl, -⟩ := course.refused read
    exact ⟨_, rfl, rfl⟩

/-- The directories fail exactly where the file system refuses to make them for a template that has
a program. -/
theorem fails_createDirectory_iff
    (course : Course bundle resource path data draws tree outcome final) :
    Stage.createDirectory.Fails outcome ↔
      (∃ program, bundle.program resource = .ok program) ∧
        ∃ cause made, Disk.on (FileTree.ensureDirectory path.parent) tree =
          (.error (.os cause), made) := by
  constructor
  · rintro ⟨failure, rfl, kind⟩
    cases course with
    | unmade read blocked => exact ⟨⟨_, read⟩, _, _, blocked⟩
    | _ => cases kind
  · rintro ⟨⟨program, read⟩, cause, made, blocked⟩
    cases course with
    | unmade => exact ⟨_, rfl, rfl⟩
    | unread missing =>
        rw [Bundle.program_eq, missing] at read
        cases read
    | unparsed source malformed =>
        simp only [Bundle.program_eq, source, malformed] at read
        cases read
    | uncompiled source escapes =>
        simp only [Bundle.program_eq, source, escapes] at read
        cases read
    | illegalParent _ blocked' | deepParent _ blocked' =>
        rw [blocked] at blocked'
        cases blocked'
    | unopened _ ensured | illegalName _ ensured | full _ ensured | broken _ ensured
    | written _ ensured =>
        rw [blocked] at ensured
        cases ensured

end Course

/-- Rendering a file fails at the first stage that fails, and the stage fixes the tree that is left.
The kind of the failure tells whether the template is missing, whether it is malformed and whether
the directories above the file can be made; making them changes nothing that stands, and a template
that is missing or malformed changes nothing at all. -/
theorem renderFile_stops_at_first_stage (bundle : Bundle) (resource : String) (path : Path)
    (data : List (String × Template.Value)) (draws : Template.Draws) (tree : FileTree) :
    ∃ outcome final,
      Disk.on (renderFile bundle resource path data draws) tree = (outcome, final) ∧
      Course bundle resource path data draws tree outcome final ∧
      (Stage.readTemplate.Fails outcome ↔ bundle.get? resource = none) ∧
      (Stage.parseTemplate.Fails outcome ↔
        ∃ text fault, bundle.get? resource = some text ∧
          Template.compile text = .error (.fault fault)) ∧
      (Stage.createDirectory.Fails outcome ↔
        (∃ program, bundle.program resource = .ok program) ∧
          ∃ cause made, Disk.on (FileTree.ensureDirectory path.parent) tree =
            (.error (.os cause), made)) ∧
      FileTree.Grows {loc | loc ∈ FileTree.visited (tree.start path) path.parent.parts} ∅ tree
        (Disk.on (FileTree.ensureDirectory path.parent) tree).2 ∧
      ∀ failure, bundle.program resource = .error failure → final = tree := by
  have course := renderFile_course bundle resource path data draws tree
  exact ⟨_, _, rfl, course, course.fails_readTemplate_iff, course.fails_parseTemplate_iff,
    course.fails_createDirectory_iff, FileTree.ensureDirectory_grows tree path.parent,
    fun _ read => (course.refused read).2⟩

/-- A bundle without templates makes not even the directory of the file. -/
theorem renderFile_without_templates :
    ∃ outcome, Disk.on (renderFile ⟨[], Bundle.memoryOrigin⟩ "dto.go.j2" "/a/b.go" [] fun _ => 0)
        ⟨[], []⟩ = (outcome, ⟨[], []⟩) ∧ Stage.readTemplate.Fails outcome := by
  obtain ⟨outcome, final, run, -, missing, -, -, -, unchanged⟩ :=
    renderFile_stops_at_first_stage ⟨[], Bundle.memoryOrigin⟩ "dto.go.j2" "/a/b.go" [] (fun _ => 0)
      ⟨[], []⟩
  rw [unchanged _ rfl] at run
  exact ⟨outcome, run, missing.mpr rfl⟩

end Render

end Scaffold
