import Scaffold.FailureKind
import Scaffold.Proofs.Generation.Sequence
import Scaffold.Proofs.Text.Lower

/-!
# Kinds of failure of a generation

What goes wrong in a step is a failure of the generation, of the kind of its stage, but for three
things that nobody takes care of: a path that holds a NUL character, directories whose making nests
too many calls, and a template whose compilation escapes.
-/

namespace Scaffold

/-! ## Paths without NUL -/

namespace FileTree

theorem hasNul_of_parent {path : Path} (h : hasNul path.parent = true) : hasNul path = true := by
  obtain ⟨part, hp, nul⟩ := List.any_eq_true.mp h
  exact List.any_eq_true.mpr ⟨part, List.dropLast_subset _ hp, nul⟩

theorem placeToOpen_embeddedNul {tree : FileTree} {path : Path} :
    tree.placeToOpen path = .error .embeddedNul ↔ hasNul path = true := by
  unfold placeToOpen
  cases hasNul path with
  | true => simp
  | false =>
      simp only [Bool.false_eq_true, if_false, iff_false]
      split
      · simp
      · simp
      · split <;> simp

theorem hasNul_join {p q : Path} (hp : hasNul p = false) (hq : hasNul q = false) :
    hasNul (p.join q) = false := by
  unfold Path.join
  split
  · simp only [hasNul, List.any_append, Bool.or_eq_false_iff] at hp hq ⊢
    exact ⟨hp, hq⟩
  · exact hq

theorem hasNul_parse {text : String} (h : '\x00' ∉ text.toList) :
    hasNul (Path.parse text) = false := by
  rw [hasNul, List.any_eq_false]
  intro part hp hc
  exact h (Path.mem_of_mem_components hp (List.contains_iff_mem.mp hc))

end FileTree

theorem hasNul_componentPath {root : Path} (kind : ComponentKind) (data : FillData)
    (hroot : FileTree.hasNul root = false) (domain : '\x00' ∉ data.domain.toList)
    (name : '\x00' ∉ data.lowerName.toList) :
    FileTree.hasNul (componentPath root kind data) = false := by
  have ending : '\x00' ∉ kind.ending := by
    cases kind <;> decide
  have file : FileTree.hasNul (Path.parse (kind.fileName data.lowerName)) = false :=
    FileTree.hasNul_parse (kind.not_mem_fileName name (by decide) ending)
  have folder : ∀ folder ∈ kind.folder?, '\x00' ∉ folder.toList := by
    cases kind <;> decide
  have top : FileTree.hasNul (applicationsPath root) = false := by
    simp only [FileTree.hasNul, applicationsPath, Path.below, List.any_append] at hroot ⊢
    rw [hroot]
    decide
  rw [componentPath_eq_join]
  refine FileTree.hasNul_join top ?_
  unfold ComponentKind.fragment
  cases hf : kind.folder? with
  | none => exact FileTree.hasNul_join (FileTree.hasNul_parse domain) file
  | some name =>
      exact FileTree.hasNul_join (FileTree.hasNul_join (FileTree.hasNul_parse domain)
        (FileTree.hasNul_parse (folder name hf))) file

/-! ## Steps -/

namespace Generator

variable {g : Generator} {step : Step} {tree : FileTree}

/-- The step comes to a path that holds a NUL character: that of the directory above the file, or
that of the file in a directory that is made. -/
structure Stumbles (g : Generator) (step : Step) (tree : FileTree) : Prop where
  read : ∃ program, g.bundle.program step.resource = .ok program
  nul : FileTree.hasNul step.path = true
  reached : FileTree.hasNul step.path.parent = true ∨
    ∃ made, Disk.on (FileTree.ensureDirectory step.path.parent) tree = (.ok (), made)

/-- What escapes from a step on a tree, in the order of the stages. -/
inductive Escapes (g : Generator) (step : Step) (tree : FileTree) : Fault → Prop
  | uncompiled {text : String} {cause : Template.Escape}
      (source : g.bundle.get? step.resource = some text)
      (refused : Template.compile text = .error (.escape cause)) :
      Escapes g step tree (.uncompiled cause)
  | tooDeep (read : ∃ program, g.bundle.program step.resource = .ok program)
      (deep : tree.TooDeep step.path.parent FileTree.callLimit) : Escapes g step tree .tooDeep
  | embeddedNul (stumbles : g.Stumbles step tree) : Escapes g step tree .embeddedNul

/-- A resource without a program fails a generation, or its compilation escapes. -/
theorem escapes_of_unreadable {failure : Failure}
    (read : g.bundle.program step.resource = .error failure) :
    (∃ cause, failure = .generation cause) ∨
      ∃ fault, failure = .fault fault ∧ g.Escapes step tree fault := by
  rw [Bundle.program_eq] at read
  split at read
  · cases read
    exact Or.inl ⟨_, rfl⟩
  · next text source =>
      split at read
      · cases read
      · next cause refused =>
          cases read
          cases cause with
          | fault fault => exact Or.inl ⟨_, rfl⟩
          | escape cause => exact Or.inr ⟨_, rfl, .uncompiled source refused⟩

/-- What goes wrong in a step is a failure of the generation, or escapes. -/
theorem renderStep_failure {data : FillData} {failure : Failure} {final : FileTree}
    (failed : Disk.on (g.renderStep data step) tree = (.error failure, final)) :
    (∃ cause, failure = .generation cause) ∨
      ∃ fault, failure = .fault fault ∧ g.Escapes step tree fault := by
  have rendering := renderStep_rendering g data step tree
  rw [failed] at rendering
  cases rendering with
  | unreadable read => exact escapes_of_unreadable read
  | @unmade program fault read blocked blocks =>
      cases fault with
      | os cause => exact Or.inl ⟨_, rfl⟩
      | tooDeep => exact Or.inr ⟨_, rfl, .tooDeep ⟨_, read⟩ (blocks.deep.mp rfl)⟩
      | embeddedNul =>
          have parent := blocks.nul.mp rfl
          exact Or.inr ⟨_, rfl,
            .embeddedNul ⟨⟨_, read⟩, FileTree.hasNul_of_parent parent, Or.inl parent⟩⟩
  | @unopened program dir fault read made refused =>
      cases fault with
      | os cause => exact Or.inl ⟨_, rfl⟩
      | tooDeep => exact absurd refused (FileTree.placeToOpen_ne_tooDeep _ _)
      | embeddedNul =>
          have ensured := FileTree.ensureDirectory_on tree step.path.parent
          rw [made] at ensured
          exact Or.inr ⟨_, rfl, .embeddedNul ⟨⟨_, read⟩,
            FileTree.placeToOpen_embeddedNul.mp refused, Or.inr ⟨_, ensured⟩⟩⟩
  | full => exact Or.inl ⟨_, rfl⟩
  | broken => exact Or.inl ⟨_, rfl⟩

theorem renderStep_of_stumbles (data : FillData) (h : g.Stumbles step tree) :
    (Disk.on (g.renderStep data step) tree).1 = .error (.fault .embeddedNul) := by
  obtain ⟨⟨program, read⟩, nul, reached⟩ := h
  have rendering := renderStep_rendering g data step tree
  have unopened := (@FileTree.placeToOpen_embeddedNul
    (tree.withDirectory step.path.parent).1 step.path).mpr nul
  generalize Disk.on (g.renderStep data step) tree = outcome at rendering ⊢
  cases rendering with
  | unreadable read' =>
      rw [read] at read'
      cases read'
  | @unmade _ fault _ blocked blocks =>
      rcases reached with parent | ⟨made, ensured⟩
      · rw [blocks.nul.mpr parent]
        rfl
      · obtain ⟨-, dir, found⟩ := FileTree.withDirectory_of_ensured ensured
        rw [found] at blocked
        cases blocked
  | unopened _ _ refused =>
      rw [unopened] at refused
      cases refused
      rfl
  | full _ _ opened | broken _ _ opened | written _ _ opened =>
      rw [unopened] at opened
      cases opened

/-- What escapes ends the step. -/
theorem renderStep_of_escapes (data : FillData) {fault : Fault} (h : g.Escapes step tree fault) :
    (Disk.on (g.renderStep data step) tree).1 = .error (.fault fault) := by
  cases h with
  | embeddedNul stumbles => exact renderStep_of_stumbles data stumbles
  | @uncompiled text cause source refused =>
      have read : g.bundle.program step.resource = .error (.fault (.uncompiled cause)) := by
        simp only [Bundle.program_eq, source, refused]
        rfl
      exact congrArg Prod.fst (render_unreadable _ _ read)
  | tooDeep read deep =>
      obtain ⟨program, read⟩ := read
      have blocked : (tree.withDirectory step.path.parent).2 = none := by
        rw [FileTree.withDirectory, if_pos (Or.inr (Or.inr deep.deep))]
      obtain ⟨fault, failed, blocks⟩ :=
        render_unmade data.context (g.draws step.path) read blocked
      rw [blocks.deep.mpr deep] at failed
      exact congrArg Prod.fst failed

/-! ## Generations -/

/-- With some steps done, something escapes from the next one of the plan. -/
def EscapesFrom (g : Generator) (r : Request) (tree : FileTree) (fault : Fault) : Prop :=
  ∃ done step rest before, g.plan r = done ++ step :: rest ∧
    Disk.on (g.renderEach (g.fillData r) done) tree = (.ok (), before) ∧
      g.Escapes step before fault

variable {r : Request}

theorem attempt_failure {failure : Failure}
    (failed : ((g.attempt r).run tree).1.result = .error failure) :
    (∃ cause, failure = .generation cause) ∨
      ∃ fault, failure = .fault fault ∧ g.EscapesFrom r tree fault := by
  have ends := attempt_ends g r tree
  generalize ((g.attempt r).run tree).1 = attempt at ends failed
  generalize ((g.attempt r).run tree).2 = final at ends
  generalize hp : g.plan r = steps at ends
  cases ends with
  | completed => cases failed
  | failed ran refused =>
      cases failed
      rcases renderStep_failure refused with generation | ⟨fault, escaped, escapes⟩
      · exact Or.inl generation
      · exact Or.inr ⟨fault, escaped, _, _, _, _, hp, ran, escapes⟩

theorem attempt_of_escapesFrom {fault : Fault} (h : g.EscapesFrom r tree fault) :
    ((g.attempt r).run tree).1.result = .error (.fault fault) := by
  obtain ⟨done, step, rest, before, plan, ran, escapes⟩ := h
  have fold := (attempt_ends g r tree).fold
  have refused : Disk.on (g.renderStep (g.fillData r) step) before =
      (.error (.fault fault), (Disk.on (g.renderStep (g.fillData r) step) before).2) := by
    rw [← renderStep_of_escapes (g.fillData r) escapes]
  have stopped := Disk.on_bind_error refused fun _ => g.renderEach (g.fillData r) rest
  rw [plan, renderEach_append (step :: rest) ran] at fold
  have result := congrArg Prod.fst (fold.symm.trans stopped)
  cases hr : ((g.attempt r).run tree).1.result with
  | ok report =>
      rw [hr] at result
      cases result
  | error failure =>
      rw [hr] at result
      exact congrArg Except.error (Except.error.inj result)

/-- No NUL character in the output root and in a request. -/
structure NoNul (g : Generator) (r : Request) : Prop where
  root : FileTree.hasNul g.outputRoot = false
  domain : '\x00' ∉ r.domain.toList
  name : '\x00' ∉ r.name.toList

/-- Nothing that could escape: no NUL character, paths with few components, and templates whose
compilation lets nothing through. -/
structure Plain (g : Generator) (r : Request) : Prop extends NoNul g r where
  few : ∀ step ∈ g.plan r, step.path.parent.parts.length ≤ FileTree.callLimit
  compiles : ∀ step ∈ g.plan r, ∀ text, g.bundle.get? step.resource = some text →
    ∀ cause, Template.compile text ≠ .error (.escape cause)

theorem NoNul.hasNul_path (clean : g.NoNul r) (planned : step ∈ g.plan r) :
    FileTree.hasNul step.path = false := by
  obtain ⟨kind, -, rfl⟩ := List.mem_map.mp planned
  exact hasNul_componentPath kind (g.fillData r) clean.root clean.domain
    (Text.not_mem_lowerString clean.name (by decide))

theorem EscapesFrom.exists_mem_plan {fault : Fault} (h : g.EscapesFrom r tree fault) :
    ∃ step ∈ g.plan r, ∃ before, g.Escapes step before fault := by
  obtain ⟨done, step, rest, before, plan, -, escapes⟩ := h
  refine ⟨step, ?_, before, escapes⟩
  rw [plan]
  exact List.mem_append_right done List.mem_cons_self

theorem NoNul.not_escapesFrom (clean : g.NoNul r) : ¬ g.EscapesFrom r tree .embeddedNul := by
  intro h
  obtain ⟨step, planned, before, escapes⟩ := h.exists_mem_plan
  cases escapes with
  | embeddedNul stumbles =>
      have nul := stumbles.nul
      rw [clean.hasNul_path planned] at nul
      cases nul

theorem Plain.not_escapesFrom (plain : g.Plain r) (fault : Fault) :
    ¬ g.EscapesFrom r tree fault := by
  intro h
  obtain ⟨step, planned, before, escapes⟩ := h.exists_mem_plan
  cases escapes with
  | uncompiled source refused => exact plain.compiles step planned _ source _ refused
  | tooDeep _ deep =>
      exact absurd deep.deep (Nat.not_lt.mpr
        ((FileTree.behindMissing_le before _ _).trans (plain.few step planned)))
  | embeddedNul => exact plain.toNoNul.not_escapesFrom h

/-- What escapes from a generation escapes from the first step that fails. -/
theorem generate_escapes_iff (g : Generator) (r : Request) (tree : FileTree) (fault : Fault) :
    ((generate g r).run tree).1.2.1 = .error (.fault fault) ↔
      r.domain ≠ "" ∧ g.EscapesFrom r tree fault := by
  by_cases h : r.domain = ""
  · rw [generate_refused g h]
    exact ⟨fun failed => (by cases failed), fun escapes => absurd h escapes.1⟩
  rw [generate_run g h]
  constructor
  · intro failed
    rcases attempt_failure failed with ⟨cause, hc⟩ | ⟨fault', hf, escapes⟩
    · cases hc
    · cases hf
      exact ⟨h, escapes⟩
  · rintro ⟨-, escapes⟩
    exact attempt_of_escapesFrom escapes

theorem generate_failure {failure : Failure}
    (failed : ((generate g r).run tree).1.2.1 = .error failure) :
    (failure = .input .missingDomain ∧ r.domain = "") ∨
      (∃ cause, failure = .generation cause) ∨ ∃ fault, failure = .fault fault := by
  by_cases h : r.domain = ""
  · rw [generate_refused g h] at failed
    cases failed
    exact Or.inl ⟨rfl, h⟩
  · rw [generate_run g h] at failed
    rcases attempt_failure failed with generation | ⟨fault, escaped, -⟩
    · exact Or.inr (Or.inl generation)
    · exact Or.inr (Or.inr ⟨fault, escaped⟩)

/-- A generation reports what it wrote, refuses a request without a domain, or fails as a
generation does, unless something escapes from the first step that fails: what its template's
compilation lets through, calls that are nested too deep, or a NUL character in its path.  Without
NUL characters the last of these does not happen, and from plain requests nothing escapes. -/
theorem generate_taxonomy (g : Generator) (r : Request) (tree : FileTree) :
    ∃ completed outcome log final,
      (generate g r).run tree = ((completed, outcome, log), final) ∧
      (∀ failure, outcome = .error failure →
        (failure = .input .missingDomain ∧ r.domain = "") ∨
          (∃ cause, failure = .generation cause) ∨ ∃ fault, failure = .fault fault) ∧
      (∀ fault, outcome = .error (.fault fault) ↔ r.domain ≠ "" ∧ g.EscapesFrom r tree fault) ∧
      (g.NoNul r → outcome ≠ .error (.fault .embeddedNul)) ∧
      (g.Plain r → ∀ fault, outcome ≠ .error (.fault fault)) := by
  have escapes := generate_escapes_iff g r tree
  refine ⟨_, _, _, _, rfl, fun failure => generate_failure, escapes, fun clean failed => ?_,
    fun plain fault failed => ?_⟩
  · exact clean.not_escapesFrom ((escapes _).mp failed).2
  · exact plain.not_escapesFrom fault ((escapes fault).mp failed).2

/-- Whether a result is the fault of a NUL character in a path. -/
def isEmbeddedNul : Except Failure Report → Bool
  | .error (.fault .embeddedNul) => true
  | _ => false

theorem eq_of_isEmbeddedNul {result : Except Failure Report} (h : isEmbeddedNul result = true) :
    result = .error (.fault .embeddedNul) := by
  unfold isEmbeddedNul at h
  split at h
  · rfl
  · cases h

/-- An accepted request whose domain holds a NUL character fails with no kind of failure. -/
theorem generate_nul_domain :
    Request.ofInput (.text "dto") (.text "x") (.text "nu\x00l") (.bool false) =
        .ok ⟨.dto, "x", "nu\x00l", false⟩ ∧
      ((generate ⟨⟨[("dto.go.j2", "x")], Bundle.memoryOrigin⟩, ".", "m", fun _ _ => 0⟩
          ⟨.dto, "x", "nu\x00l", false⟩).run ⟨[], []⟩).1.2.1 = .error (.fault .embeddedNul) ∧
      (Failure.fault .embeddedNul).kind? = none := by
  refine ⟨rfl, ?_, rfl⟩
  have escaped : isEmbeddedNul ((generate
      ⟨⟨[("dto.go.j2", "x")], Bundle.memoryOrigin⟩, ".", "m", fun _ _ => 0⟩
      ⟨.dto, "x", "nu\x00l", false⟩).run ⟨[], []⟩).1.2.1 = true := by
    decide +kernel
  exact eq_of_isEmbeddedNul escaped

end Generator

end Scaffold
