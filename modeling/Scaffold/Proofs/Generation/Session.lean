import Scaffold.Proofs.FileTree.Free
import Scaffold.Proofs.Generation.Repetition
import Scaffold.Proofs.Text.Lower

/-!
# Sessions

Calls that are served one after the other share directories and may share files.  Of all calls that
write a file, under whatever spelling of its path, the last one decides what it holds.
-/

namespace Scaffold

open Generator

/-- A tree of directories and regular files. -/
def FileTree.Regular (tree : FileTree) : Prop := ∀ loc, tree.get? loc ≠ some .fullDevice

/-- A request with the generator that serves it. -/
structure Call where
  generator : Generator
  request : Request

namespace Call

def data (call : Call) : FillData := call.generator.fillData call.request

def steps (call : Call) : List Step := call.generator.plan call.request

/-- What the call makes of the template of a step. -/
def Renders (call : Call) (step : Step) (output : ByteArray) : Prop :=
  ∃ program, call.generator.bundle.program step.resource = .ok program ∧
    (program.run call.data.context (call.generator.draws step.path)).trouble? = none ∧
      output = (program.run call.data.context (call.generator.draws step.path)).text.toUTF8

end Call

/-- The tree after calls that are served one after the other, if all of them succeed. -/
def serveAll (tree : FileTree) : List Call → Option FileTree
  | [] => some tree
  | call :: rest =>
      match (generate call.generator call.request).run tree with
      | ((_, .ok _, _), next) => serveAll next rest
      | ((_, .error _, _), _) => none

/-- The places on the ways to the files of calls. -/
def waysOf (calls : List Call) (tree : FileTree) : Set Location :=
  {loc | ∃ call ∈ calls, loc ∈ waysTo call.steps tree}

/-- The places of the files of calls. -/
def filesOf (calls : List Call) (tree : FileTree) : Set Location :=
  {loc | ∃ call ∈ calls, loc ∈ placesOf call.steps tree}

/-- What calls that succeed make of a tree: the directories on the ways to their files are there,
each file holds what the last call with a step for its place makes of that step's template, and all
else is as before. -/
structure LastWritten (calls : List Call) (tree final : FileTree) : Prop where
  base : final.base = tree.base
  directories : ∀ loc ∈ waysOf calls tree,
    (tree.get? loc = none ∨ tree.get? loc = some .directory) ∧ final.get? loc = some .directory
  files : ∀ before call after, calls = before ++ call :: after → ∀ step ∈ call.steps,
    tree.placeOf step.path ∉ filesOf after tree →
      tree.get? (tree.placeOf step.path) ≠ some .directory ∧
        ∃ output, call.Renders step output ∧
          final.get? (tree.placeOf step.path) = some (.file output)
  others : ∀ loc, loc ∉ waysOf calls tree → loc ∉ filesOf calls tree →
    final.get? loc = tree.get? loc

namespace FileTree.Grows

variable {made written : Set Location} {tree tree' : FileTree}

theorem regular (grows : Grows made written tree tree') (h : tree.Regular) : tree'.Regular := by
  intro loc device
  cases before : tree.get? loc with
  | none =>
      rcases grows.fresh loc _ before device with ⟨he, -⟩ | ⟨⟨content, he⟩, -⟩ <;> cases he
  | some e =>
      obtain ⟨e', he', hb⟩ := grows.kept loc e before
      rw [device] at he'
      cases he'
      rw [Entry.blank_fullDevice, eq_comm, Entry.blank_eq_fullDevice_iff] at hb
      exact h loc (hb ▸ before)

/-- A directory was one before, or nothing was there. -/
theorem before_directory (grows : Grows made written tree tree') {loc : Location}
    (h : tree'.get? loc = some .directory) :
    tree.get? loc = none ∨ tree.get? loc = some .directory := by
  cases before : tree.get? loc with
  | none => exact Or.inl rfl
  | some e =>
      obtain ⟨e', he', hb⟩ := grows.kept loc e before
      rw [h] at he'
      cases he'
      rw [Entry.blank_directory, eq_comm, Entry.blank_eq_directory_iff] at hb
      exact Or.inr (congrArg some hb)

end FileTree.Grows

theorem waysTo_of_grows {made written : Set Location} {tree tree' : FileTree} (steps : List Step)
    (grows : FileTree.Grows made written tree tree') : waysTo steps tree' = waysTo steps tree := by
  simp only [waysTo, grows.start]

/-! ## One call -/

/-- What a call that succeeds does to a tree. -/
structure Call.Leaves (call : Call) (tree next : FileTree) : Prop where
  grows : FileTree.Grows (waysTo call.steps tree) (placesOf call.steps tree) tree next
  holds : ∀ step ∈ call.steps, call.generator.Holds call.data step next

section

variable {call : Call} {calls rest : List Call} {tree next final : FileTree}

theorem Call.leaves {completed : List Step} {report : Report} {log : Log}
    (run : (generate call.generator call.request).run tree = ((completed, .ok report, log), next)) :
    call.Leaves tree next := by
  by_cases hd : call.request.domain = ""
  · rw [generate_refused _ hd] at run
    cases run
  have ends := renderAll_ends call.generator call.data call.steps tree
  have grows := renderAll_grows call.generator call.data call.steps tree
  have holds := renderAll_holds call.generator call.data call.steps tree
    (plan_apart call.generator call.request tree)
  have attempted : (call.generator.attempt call.request).run tree =
      (call.generator.renderAll call.data call.steps).run tree := rfl
  rw [generate_run _ hd, attempted] at run
  obtain ⟨out, left⟩ := Prod.mk.inj run
  obtain ⟨-, out⟩ := Prod.mk.inj out
  rw [left] at ends grows holds
  rw [ends.completed_of_ok (Prod.mk.inj out).1] at holds
  exact ⟨grows, holds⟩

namespace Call.Leaves

theorem start (leaves : call.Leaves tree next) (path : Path) :
    next.start path = tree.start path :=
  leaves.grows.start path

/-- The file of a step stands at its place, in a directory. -/
theorem target (leaves : call.Leaves tree next) {step : Step} (hstep : step ∈ call.steps) :
    ∃ output e, call.Renders step output ∧
      next.target step.path = .ok (.place (tree.placeOf step.path)) ∧
        next.get? (tree.placeOf step.path) = some e ∧ e.bytes? = some output := by
  obtain ⟨program, read, ended, content⟩ := leaves.holds step hstep
  obtain ⟨-, loc, e, target, found, bytes⟩ := (FileTree.readBytes_eq_ok_iff ..).mp content
  have place := (FileTree.place_eq_placeOf target).1
  rw [FileTree.placeOf_of_grows leaves.grows] at place
  subst place
  exact ⟨_, e, ⟨program, read, ended, rfl⟩, target, found, bytes⟩

theorem file (leaves : call.Leaves tree next) (regular : tree.Regular) {step : Step}
    (hstep : step ∈ call.steps) :
    ∃ output, call.Renders step output ∧
      next.get? (tree.placeOf step.path) = some (.file output) := by
  obtain ⟨output, e, renders, -, found, bytes⟩ := leaves.target hstep
  refine ⟨output, renders, ?_⟩
  cases e with
  | directory => cases bytes
  | file content =>
      cases bytes
      exact found
  | fullDevice => exact absurd found (leaves.grows.regular regular _)

theorem directory (leaves : call.Leaves tree next) {loc : Location}
    (h : loc ∈ waysTo call.steps tree) : next.get? loc = some .directory := by
  obtain ⟨step, hstep, above⟩ := h
  obtain ⟨-, -, -, target, -⟩ := leaves.target hstep
  rw [← leaves.start] at above
  exact FileTree.directory_of_target target above

end Call.Leaves

/-! ## All calls -/

theorem serveAll_cons (h : serveAll tree (call :: rest) = some final) :
    ∃ next, call.Leaves tree next ∧ serveAll next rest = some final := by
  unfold serveAll at h
  split at h
  · next run => exact ⟨_, Call.leaves run, h⟩
  · cases h

theorem serveAll_append (tree : FileTree) (before after : List Call) :
    serveAll tree (before ++ after) =
      (serveAll tree before).bind fun next => serveAll next after := by
  induction before generalizing tree with
  | nil => rfl
  | cons call before ih =>
      rw [List.cons_append, serveAll, serveAll]
      split
      · exact ih _
      · rfl

theorem waysOf_cons (call : Call) (rest : List Call) (tree : FileTree) :
    waysOf (call :: rest) tree = waysTo call.steps tree ∪ waysOf rest tree := by
  ext loc
  simp [waysOf]

theorem filesOf_cons (call : Call) (rest : List Call) (tree : FileTree) :
    filesOf (call :: rest) tree = placesOf call.steps tree ∪ filesOf rest tree := by
  ext loc
  simp [filesOf]

theorem Call.Leaves.waysOf (leaves : call.Leaves tree next) (calls : List Call) :
    Scaffold.waysOf calls next = Scaffold.waysOf calls tree := by
  simp only [Scaffold.waysOf, waysTo_of_grows _ leaves.grows]

theorem Call.Leaves.filesOf (leaves : call.Leaves tree next) (calls : List Call) :
    Scaffold.filesOf calls next = Scaffold.filesOf calls tree := by
  simp only [Scaffold.filesOf, placesOf_of_grows _ leaves.grows]

/-- New are at most the directories above the files of the calls and these files. -/
theorem serveAll_grows (h : serveAll tree calls = some final) :
    FileTree.Grows (waysOf calls tree) (filesOf calls tree) tree final := by
  induction calls generalizing tree with
  | nil =>
      cases h
      exact .refl ..
  | cons call rest ih =>
      obtain ⟨next, leaves, served⟩ := serveAll_cons h
      have grows := ih served
      rw [leaves.waysOf, leaves.filesOf] at grows
      rw [waysOf_cons, filesOf_cons]
      exact leaves.grows.union grows

theorem serveAll_directory (h : serveAll tree calls = some final) {loc : Location}
    (hm : loc ∈ waysOf calls tree) : final.get? loc = some .directory := by
  induction calls generalizing tree with
  | nil =>
      obtain ⟨call, hcall, -⟩ := hm
      exact absurd hcall List.not_mem_nil
  | cons call rest ih =>
      obtain ⟨next, leaves, served⟩ := serveAll_cons h
      rw [waysOf_cons] at hm
      rcases hm with own | later
      · exact (serveAll_grows served).directory (leaves.directory own)
      · exact ih served (leaves.waysOf rest ▸ later)

/-- The last call with a step for a place decides what stands there. -/
theorem serveAll_file (regular : tree.Regular) {before after : List Call}
    (h : serveAll tree (before ++ call :: after) = some final) {step : Step}
    (hstep : step ∈ call.steps) (last : tree.placeOf step.path ∉ filesOf after tree) :
    ∃ output, call.Renders step output ∧
      final.get? (tree.placeOf step.path) = some (.file output) := by
  induction before generalizing tree with
  | nil =>
      obtain ⟨next, leaves, served⟩ := serveAll_cons h
      obtain ⟨output, renders, file⟩ := leaves.file regular hstep
      refine ⟨output, renders, (serveAll_grows served).same _ _ ?_ file⟩
      rwa [leaves.filesOf]
  | cons first before ih =>
      obtain ⟨next, leaves, served⟩ := serveAll_cons h
      have place := FileTree.placeOf_of_grows leaves.grows step.path
      rw [← place] at last ⊢
      exact ih (leaves.grows.regular regular) served (leaves.filesOf after ▸ last)

theorem lastWritten_of_served (regular : tree.Regular) (h : serveAll tree calls = some final) :
    LastWritten calls tree final where
  base := (serveAll_grows h).base
  directories loc hm :=
    ⟨(serveAll_grows h).before_directory (serveAll_directory h hm), serveAll_directory h hm⟩
  files before call after split step hstep last := by
    obtain ⟨output, renders, file⟩ := serveAll_file regular (split ▸ h) hstep last
    refine ⟨fun directory => ?_, output, renders, file⟩
    rw [(serveAll_grows h).directory directory] at file
    cases file
  others _ hw hf := (serveAll_grows h).unchanged hw hf

end

/-! ## Stacks and single components -/

/-- The types with one file each. -/
def singleTypes : List ComponentType := [.dto, .validator, .repository, .service, .controller]

theorem exists_singleType {kind : ComponentKind} (named : kind.isWiring = false) :
    ∃ type ∈ singleTypes, kind ∈ type.kinds := by
  cases kind with
  | providers | registry => cases named
  | _ => decide

theorem kinds_disjoint : ∀ type ∈ singleTypes, ∀ other ∈ singleTypes, other ≠ type →
    ∀ kind ∈ type.kinds, ∀ kind' ∈ other.kinds, kind ≠ kind' := by
  decide

namespace Call

/-- The step of a call for a kind of file. -/
def step (call : Call) (kind : ComponentKind) : Step :=
  ⟨kind, kind.resource, componentPath call.generator.outputRoot kind call.data⟩

/-- The same call for another type. -/
def ofType (call : Call) (type : ComponentType) : Call :=
  ⟨call.generator, { call.request with type := type }⟩

/-- The same call for another type, with draws of its own. -/
def redrawn (call : Call) (again : ComponentType → Path → Template.Draws) (type : ComponentType) :
    Call :=
  ⟨call.generator.withDraws (again type), { call.request with type := type }⟩

theorem mem_steps_iff (call : Call) (step : Step) :
    step ∈ call.steps ↔ ∃ kind ∈ call.request.type.kinds, call.step kind = step :=
  List.mem_map

/-- A call for a full stack has a step for each kind. -/
theorem step_mem_steps {call : Call} (full : call.request.type = .full) (kind : ComponentKind) :
    call.step kind ∈ call.steps := by
  refine (call.mem_steps_iff _).mpr ⟨kind, ?_, rfl⟩
  rw [full]
  cases kind <;> decide

/-- A call makes one thing of a template, also by other draws if the template comes to the same. -/
theorem Renders.unique {call : Call} {again : ComponentType → Path → Template.Draws}
    {type : ComponentType} {step : Step} {output output' : ByteArray}
    (same : call.generator.Repeats (again type) call.data step)
    (h : (call.ofType .full).Renders step output)
    (h' : (call.redrawn again type).Renders step output') : output' = output := by
  obtain ⟨program, read, -, rfl⟩ := h
  obtain ⟨program', read', -, rfl⟩ := h'
  have read'' : call.generator.bundle.program step.resource = .ok program' := read'
  have once : call.generator.bundle.program step.resource = .ok program := read
  rw [once] at read''
  cases read''
  exact congrArg (fun outcome => outcome.text.toUTF8) (same program once)

end Call

section

variable {call call' : Call} {tree other first second full singles : FileTree}

/-- The files of a single call. -/
theorem serve_file (regular : tree.Regular) (served : serveAll tree [call] = some first)
    {step : Step} (hstep : step ∈ call.steps) :
    ∃ output, call.Renders step output ∧
      first.get? (tree.placeOf step.path) = some (.file output) := by
  refine @serveAll_file call tree first regular [] [] served step hstep ?_
  rintro ⟨later, hlater, -⟩
  exact absurd hlater List.not_mem_nil

/-- The files of single components, made in two ways, hold the same. -/
def SameComponents (call : Call) (tree full other singles : FileTree) : Prop :=
  ∀ kind : ComponentKind, kind.isWiring = false →
    ∃ content, full.get? (tree.placeOf (call.step kind).path) = some (.file content) ∧
      singles.get? (other.placeOf (call.step kind).path) = some (.file content)

/-- Single components have the contents that they have in a full stack, in whatever order they are
made, if their templates come to the same again. -/
theorem singles_eq_full {again : ComponentType → Path → Template.Draws}
    {types : List ComponentType} (perm : types.Perm singleTypes)
    (same : ∀ type ∈ singleTypes, ∀ kind ∈ type.kinds,
      call.generator.Repeats (again type) call.data (call.step kind))
    (regular : tree.Regular) (regular' : other.Regular)
    (served : serveAll tree [call.ofType .full] = some full)
    (served' : serveAll other (types.map (call.redrawn again)) = some singles) :
    SameComponents call tree full other singles := by
  intro kind named
  obtain ⟨type, htype, hkind⟩ := exists_singleType named
  obtain ⟨before, after, rfl⟩ := List.append_of_mem (perm.mem_iff.mpr htype)
  have nodup : (before ++ type :: after).Nodup := perm.nodup_iff.mpr (by decide)
  have own : call.step kind ∈ (call.redrawn again type).steps :=
    (Call.mem_steps_iff _ _).mpr ⟨kind, hkind, rfl⟩
  -- The steps behind this one are for other kinds, whose files stand elsewhere.
  have last : other.placeOf (call.step kind).path ∉
      filesOf (after.map (call.redrawn again)) other := by
    rintro ⟨later, hlater, step, hstep, he⟩
    obtain ⟨type', htype', rfl⟩ := List.mem_map.mp hlater
    obtain ⟨kind', hkind', rfl⟩ := (Call.mem_steps_iff _ _).mp hstep
    have single := perm.mem_iff.mp (List.mem_append_right before (List.mem_cons_of_mem type htype'))
    have apart : type' ≠ type := by
      rintro rfl
      exact (List.nodup_cons.mp (List.nodup_append.mp nodup).2.1).1 htype'
    exact place_ne (kinds_disjoint type htype type' single apart kind hkind kind' hkind')
      _ _ _ _ _ _ he
  rw [List.map_append, List.map_cons] at served'
  obtain ⟨output, renders, file⟩ := serveAll_file regular' served' own last
  obtain ⟨output', renders', file'⟩ :=
    serve_file regular served (@Call.step_mem_steps (call.ofType .full) rfl kind)
  exact ⟨output', file', renders'.unique (same type htype kind hkind) renders ▸ file⟩

/-- After a call for a second stack, the wiring files are its own, and the first one's other files
hold what they held. -/
def ReplacesWiring (call call' : Call) (tree first second : FileTree) : Prop :=
  ∀ kind : ComponentKind, ∃ output,
    second.get? (tree.placeOf (call.step kind).path) = some (.file output) ∧
      if kind.isWiring then call'.Renders (call.step kind) output
      else first.get? (tree.placeOf (call.step kind).path) = some (.file output)

/-- A stack for a second entity of a domain replaces the wiring files of the first one, and none of
its other files. -/
theorem second_stack (type : call.request.type = .full) (type' : call'.request.type = .full)
    (domain : call'.request.domain = call.request.domain)
    (root : call'.generator.outputRoot = call.generator.outputRoot)
    (slash : '/' ∉ call.request.name.toList) (slash' : '/' ∉ call'.request.name.toList)
    (differ : Text.lowerString call.request.name ≠ Text.lowerString call'.request.name)
    (regular : tree.Regular) (served : serveAll tree [call] = some first)
    (served' : serveAll first [call'] = some second) :
    ReplacesWiring call call' tree first second := by
  intro kind
  have place := FileTree.placeOf_of_grows (serveAll_grows served) (call.step kind).path
  split
  · next wiring =>
      have same : call'.step kind = call.step kind := by
        have path : componentPath call.generator.outputRoot kind call'.data =
            componentPath call.generator.outputRoot kind call.data :=
          componentPath_of_wiring wiring _ domain
        simp only [Call.step, root, path]
      rw [← place, ← same]
      obtain ⟨output, renders, file⟩ :=
        serve_file ((serveAll_grows served).regular regular) served'
          (Call.step_mem_steps type' kind)
      exact ⟨output, file, renders⟩
  · next named =>
      obtain ⟨output, -, file⟩ := serve_file regular served (Call.step_mem_steps type kind)
      refine ⟨output, (serveAll_grows served').same _ _ ?_ file, file⟩
      rintro ⟨later, hlater, step, hstep, he⟩
      cases List.mem_singleton.mp hlater
      obtain ⟨kind', -, rfl⟩ := (Call.mem_steps_iff _ _).mp hstep
      by_cases hk : kind = kind'
      · subst hk
        have low : '/' ∉ call.data.lowerName.toList := Text.not_mem_lowerString slash (by decide)
        have low' : '/' ∉ call'.data.lowerName.toList := Text.not_mem_lowerString slash' (by decide)
        exact place_ne_of_lowerName (Bool.eq_false_iff.mpr named) _ _ _ _ low low' differ he
      · exact place_ne hk _ _ _ _ _ _ he

end

/-- After calls that all succeed, each file holds what the last call with a step for it made of the
template, the directories on the ways to the files are there, and all else is as before.  So it does
not matter for a component whether it was made in a stack or alone, if its template comes to the
same again; and a stack for a second entity of a domain replaces the wiring files of the first one
only. -/
theorem last_call_wins :
    (∀ (calls : List Call) (tree final : FileTree), tree.Regular →
      serveAll tree calls = some final → LastWritten calls tree final) ∧
    (∀ (call : Call) (again : ComponentType → Path → Template.Draws) (types : List ComponentType)
      (tree other full singles : FileTree), types.Perm singleTypes →
      (∀ type ∈ singleTypes, ∀ kind ∈ type.kinds,
        call.generator.Repeats (again type) call.data (call.step kind)) →
      tree.Regular → other.Regular → serveAll tree [call.ofType .full] = some full →
      serveAll other (types.map (call.redrawn again)) = some singles →
      SameComponents call tree full other singles) ∧
    ∀ (call call' : Call) (tree first second : FileTree),
      call.request.type = .full → call'.request.type = .full →
      call'.request.domain = call.request.domain →
      call'.generator.outputRoot = call.generator.outputRoot →
      '/' ∉ call.request.name.toList → '/' ∉ call'.request.name.toList →
      Text.lowerString call.request.name ≠ Text.lowerString call'.request.name →
      tree.Regular → serveAll tree [call] = some first → serveAll first [call'] = some second →
      ReplacesWiring call call' tree first second :=
  ⟨fun _ _ _ => lastWritten_of_served, fun _ _ _ _ _ _ _ => singles_eq_full,
    fun _ _ _ _ _ => second_stack⟩

/-- A stack whose files hold the name of the entity. -/
def entity (name : String) : Call :=
  ⟨⟨⟨ComponentKind.fullStack.map fun kind => (kind.resource, "\x7b\x7b lower_name \x7d\x7d"),
    Bundle.memoryOrigin⟩, ⟨.root, []⟩, "m", fun _ _ => 0⟩, ⟨.full, name, "d", false⟩⟩

/-- What does not draw comes to the same by other draws. -/
theorem entity_repeats (kind : ComponentKind) :
    (entity "A").generator.Repeats (fun _ _ => 1) (entity "A").data ((entity "A").step kind) := by
  apply Bundle.repeats_of_runs
  cases kind <;> decide +kernel

theorem regular_empty : FileTree.Regular ⟨[], []⟩ := by
  intro loc device
  cases loc <;> cases device

/-- Two stacks in one domain, and the first one made of single components from the last to the
first, by other draws. -/
theorem last_call_wins_of_entities :
    ∃ first second singles : FileTree,
      serveAll ⟨[], []⟩ [entity "A"] = some first ∧ serveAll first [entity "b"] = some second ∧
      serveAll ⟨[], []⟩ (singleTypes.reverse.map ((entity "A").redrawn fun _ _ _ => 1)) =
        some singles ∧
      LastWritten [entity "A", entity "b"] ⟨[], []⟩ second ∧
      SameComponents (entity "A") ⟨[], []⟩ first ⟨[], []⟩ singles ∧
      ReplacesWiring (entity "A") (entity "b") ⟨[], []⟩ first second ∧
      (second.readBytes "/internal/applications/d/providers.go").toOption = some "b".toUTF8 := by
  have content : ((serveAll ⟨[], []⟩ [entity "A", entity "b"]).bind fun second =>
      (second.readBytes "/internal/applications/d/providers.go").toOption) = some "b".toUTF8 := by
    decide +kernel
  have parts : (serveAll ⟨[], []⟩
      (singleTypes.reverse.map ((entity "A").redrawn fun _ _ _ => 1))).isSome = true := by
    decide +kernel
  obtain ⟨second, served, providers⟩ := Option.bind_eq_some_iff.mp content
  obtain ⟨singles, served'⟩ := Option.isSome_iff_exists.mp parts
  have split := serveAll_append ⟨[], []⟩ [entity "A"] [entity "b"]
  rw [List.singleton_append, served] at split
  obtain ⟨first, served₁, served₂⟩ := Option.bind_eq_some_iff.mp split.symm
  exact ⟨first, second, singles, served₁, served₂, served',
    last_call_wins.1 _ _ _ regular_empty served,
    last_call_wins.2.1 (entity "A") _ _ _ _ _ _ (List.reverse_perm _)
      (fun _ _ kind _ => entity_repeats kind) regular_empty regular_empty served₁ served',
    last_call_wins.2.2 (entity "A") (entity "b") _ _ _ rfl rfl rfl rfl (by decide) (by decide)
      (by decide +kernel) regular_empty served₁ served₂, providers⟩

/-- A stack whose files hold numbers that are drawn at random. -/
def raffle : Call :=
  ⟨⟨⟨ComponentKind.fullStack.map fun kind =>
      (kind.resource, "\x7b\x7b range(2)|random \x7d\x7d"),
    Bundle.memoryOrigin⟩, ⟨.root, []⟩, "m", fun _ _ => 0⟩, ⟨.full, "a", "d", false⟩⟩

/-- By other draws, single components do not have the contents that they have in a full stack. -/
theorem components_by_lot :
    ∃ full singles,
      serveAll ⟨[], []⟩ [raffle.ofType .full] = some full ∧
      serveAll ⟨[], []⟩ (singleTypes.map (raffle.redrawn fun _ _ _ => 1)) = some singles ∧
      ¬ SameComponents raffle ⟨[], []⟩ full ⟨[], []⟩ singles := by
  have drawn : ((serveAll ⟨[], []⟩ [raffle.ofType .full]).bind
      fun full => full.get? ["internal", "applications", "d", "dto", "a_dto.go"]) =
        some (.file "0".toUTF8) := by
    decide +kernel
  have redrawn : ((serveAll ⟨[], []⟩ (singleTypes.map (raffle.redrawn fun _ _ _ => 1))).bind
      fun singles => singles.get? ["internal", "applications", "d", "dto", "a_dto.go"]) =
        some (.file "1".toUTF8) := by
    decide +kernel
  obtain ⟨full, served, content⟩ := Option.bind_eq_some_iff.mp drawn
  obtain ⟨singles, served', content'⟩ := Option.bind_eq_some_iff.mp redrawn
  refine ⟨full, singles, served, served', fun same => ?_⟩
  have place : FileTree.placeOf ⟨[], []⟩ (raffle.step .dto).path =
      ["internal", "applications", "d", "dto", "a_dto.go"] := by
    decide +kernel
  obtain ⟨bytes, file, file'⟩ := same .dto rfl
  rw [place, content] at file
  rw [place, content'] at file'
  exact absurd (file.trans file'.symm) (by decide)

end Scaffold
