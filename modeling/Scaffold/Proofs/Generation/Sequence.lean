import Scaffold.Generate
import Scaffold.Proofs.Generation.Names
import Scaffold.Proofs.Generation.Step

/-!
# Steps in their order

A generation renders the steps of its plan from the first one on and ends with the first failure.
No step writes where another one does, so what a completed step wrote is still there at the end.
-/

namespace Scaffold.Generator

variable (g : Generator) (data : FillData)

/-! ## One step -/

def renderStep (step : Step) : Disk Failure Unit :=
  render g.bundle step.resource step.path data.context (g.draws step.path)

/-- Rendering one step after the other, up to the first failure. -/
def renderEach (steps : List Step) : Disk Failure Unit := steps.forM (g.renderStep data)

/-- The file of a step holds the whole output of its template. -/
def Holds (step : Step) (tree : FileTree) : Prop :=
  ∃ program, g.bundle.program step.resource = .ok program ∧
    (program.run data.context (g.draws step.path)).trouble? = none ∧
      tree.readBytes step.path = .ok (program.run data.context (g.draws step.path)).text.toUTF8

variable {g data} {step : Step} {tree tree' : FileTree}

theorem renderStep_rendering (g : Generator) (data : FillData) (step : Step) (tree : FileTree) :
    Rendering g.bundle step.resource step.path data.context (g.draws step.path) tree
      (Disk.on (g.renderStep data step) tree) :=
  render_on ..

theorem renderStep_grows (outcome : Except Failure Unit)
    (h : Disk.on (g.renderStep data step) tree = (outcome, tree')) :
    FileTree.Grows {loc | loc ∈ FileTree.visited (tree.start step.path) step.path.parent.parts}
      {tree.placeOf step.path} tree tree' := by
  have rendering := renderStep_rendering g data step tree
  rw [h] at rendering
  exact rendering.grows

theorem renderStep_holds (h : Disk.on (g.renderStep data step) tree = (.ok (), tree')) :
    g.Holds data step tree' := by
  have rendering := renderStep_rendering g data step tree
  rw [h] at rendering
  cases rendering with
  | @written program dir loc read made opened fits ended =>
      exact ⟨program, read, ended, FileTree.readBytes_withContent opened fits⟩

/-- What a step wrote stays, unless its place is written again. -/
theorem Holds.of_grows {made written : Set Location} (holds : g.Holds data step tree)
    (grows : FileTree.Grows made written tree tree') (hw : tree.placeOf step.path ∉ written) :
    g.Holds data step tree' := by
  obtain ⟨program, read, ended, content⟩ := holds
  exact ⟨program, read, ended, FileTree.readBytes_of_grows grows content hw⟩

/-! ## All steps -/

/-- The places on the ways to the files of steps. -/
def waysTo (steps : List Step) (tree : FileTree) : Set Location :=
  {loc | ∃ step ∈ steps, loc ∈ FileTree.visited (tree.start step.path) step.path.parent.parts}

/-- The places of the files of steps. -/
def placesOf (steps : List Step) (tree : FileTree) : Set Location :=
  {loc | ∃ step ∈ steps, loc = tree.placeOf step.path}

/-- How rendering steps ends: with all of them completed, or at the first one that fails. -/
inductive Ends (g : Generator) (data : FillData) (tree : FileTree) :
    List Step → Attempt → FileTree → Prop
  | completed {steps : List Step} {final : FileTree}
      (ran : Disk.on (g.renderEach data steps) tree = (.ok (), final)) :
      Ends g data tree steps ⟨steps, none⟩ final
  | failed {done rest : List Step} {step : Step} {failure : Failure} {before final : FileTree}
      (ran : Disk.on (g.renderEach data done) tree = (.ok (), before))
      (refused : Disk.on (g.renderStep data step) before = (.error failure, final)) :
      Ends g data tree (done ++ step :: rest) ⟨done, some (step, failure)⟩ final

theorem placesOf_cons (step : Step) (steps : List Step) (tree : FileTree) :
    placesOf (step :: steps) tree = insert (tree.placeOf step.path) (placesOf steps tree) := by
  ext loc
  simp [placesOf]

theorem placesOf_of_grows {made written : Set Location} (steps : List Step)
    (grows : FileTree.Grows made written tree tree') :
    placesOf steps tree' = placesOf steps tree := by
  simp only [placesOf, FileTree.placeOf_of_grows grows]

theorem renderEach_cons (h : Disk.on (g.renderStep data step) tree = (.ok (), tree'))
    (steps : List Step) :
    Disk.on (g.renderEach data (step :: steps)) tree = Disk.on (g.renderEach data steps) tree' := by
  exact Disk.on_bind_ok h _

theorem Ends.cons {steps : List Step} {attempt : Attempt} {final : FileTree}
    (h : Disk.on (g.renderStep data step) tree = (.ok (), tree'))
    (ends : Ends g data tree' steps attempt final) :
    Ends g data tree (step :: steps) { attempt with completed := step :: attempt.completed }
      final := by
  cases ends with
  | completed ran =>
      apply Ends.completed
      rw [renderEach_cons h, ran]
  | @failed done rest _ _ before _ ran refused =>
      have ran' : Disk.on (g.renderEach data (step :: done)) tree = (.ok (), before) := by
        rw [renderEach_cons h, ran]
      exact Ends.failed ran' refused

theorem renderAll_failed {failure : Failure} (steps : List Step)
    (h : Disk.on (g.renderStep data step) tree = (.error failure, tree')) :
    (g.renderAll data (step :: steps)).run tree = (⟨[], some (step, failure)⟩, tree') := by
  have h' : StateT.run (ExceptT.run (g.renderStep data step)) tree = (.error failure, tree') := h
  rw [renderAll, StateT.run_bind, ← renderStep, h']
  rfl

theorem renderAll_completed (steps : List Step)
    (h : Disk.on (g.renderStep data step) tree = (.ok (), tree')) :
    (g.renderAll data (step :: steps)).run tree =
      ({ ((g.renderAll data steps).run tree').1 with
          completed := step :: ((g.renderAll data steps).run tree').1.completed },
        ((g.renderAll data steps).run tree').2) := by
  have h' : StateT.run (ExceptT.run (g.renderStep data step)) tree = (.ok (), tree') := h
  rw [renderAll, StateT.run_bind, ← renderStep, h']
  rfl

theorem renderAll_ends (g : Generator) (data : FillData) (steps : List Step) (tree : FileTree) :
    Ends g data tree steps ((g.renderAll data steps).run tree).1
      ((g.renderAll data steps).run tree).2 := by
  induction steps generalizing tree with
  | nil => exact Ends.completed rfl
  | cons step rest ih =>
      cases h : Disk.on (g.renderStep data step) tree with
      | mk outcome tree' =>
          cases outcome with
          | error failure =>
              rw [renderAll_failed rest h]
              exact @Ends.failed g data tree [] rest step failure tree tree' rfl h
          | ok =>
              rw [renderAll_completed rest h]
              exact (ih tree').cons h

/-- Steps that succeed wherever an invariant holds, and keep it, are all completed. -/
theorem renderAll_completes {Inv : FileTree → Prop} (steps : List Step)
    (succeeds : ∀ step ∈ steps, ∀ tree, Inv tree →
      ∃ tree', Disk.on (g.renderStep data step) tree = (.ok (), tree') ∧ Inv tree')
    (h : Inv tree) :
    ∃ final, (g.renderAll data steps).run tree = (⟨steps, none⟩, final) ∧ Inv final := by
  induction steps generalizing tree with
  | nil => exact ⟨tree, rfl, h⟩
  | cons step rest ih =>
      obtain ⟨tree', done, h'⟩ := succeeds step List.mem_cons_self tree h
      obtain ⟨final, ran, hfinal⟩ :=
        ih (fun s hs => succeeds s (List.mem_cons_of_mem step hs)) h'
      refine ⟨final, ?_, hfinal⟩
      rw [renderAll_completed rest done, ran]

/-- New are at most the directories above the files of the steps and these files. -/
theorem renderAll_grows (g : Generator) (data : FillData) (steps : List Step) (tree : FileTree) :
    FileTree.Grows (waysTo steps tree) (placesOf steps tree) tree
      ((g.renderAll data steps).run tree).2 := by
  induction steps generalizing tree with
  | nil => exact .refl ..
  | cons step rest ih =>
      cases h : Disk.on (g.renderStep data step) tree with
      | mk outcome tree' =>
          have grows := renderStep_grows outcome h
          have first : FileTree.Grows (waysTo (step :: rest) tree) (placesOf (step :: rest) tree)
              tree tree' :=
            grows.mono (fun loc hm => ⟨step, List.mem_cons_self, hm⟩)
              (fun loc hm => ⟨step, List.mem_cons_self, hm⟩)
          cases outcome with
          | error failure =>
              rw [renderAll_failed rest h]
              exact first
          | ok =>
              rw [renderAll_completed rest h]
              refine first.trans ((ih tree').mono ?_ ?_)
              · rintro loc ⟨s, hs, hm⟩
                exact ⟨s, List.mem_cons_of_mem step hs, grows.start s.path ▸ hm⟩
              · rintro loc ⟨s, hs, hm⟩
                exact ⟨s, List.mem_cons_of_mem step hs,
                  hm.trans (FileTree.placeOf_of_grows grows s.path)⟩

/-- Steps with places of their own do not undo each other. -/
theorem renderAll_holds (g : Generator) (data : FillData) (steps : List Step) (tree : FileTree)
    (apart : steps.Pairwise fun a b => tree.placeOf a.path ≠ tree.placeOf b.path) :
    ∀ step ∈ ((g.renderAll data steps).run tree).1.completed,
      g.Holds data step ((g.renderAll data steps).run tree).2 := by
  induction steps generalizing tree with
  | nil => exact fun _ h => absurd h List.not_mem_nil
  | cons step rest ih =>
      cases h : Disk.on (g.renderStep data step) tree with
      | mk outcome tree' =>
          have grows := renderStep_grows outcome h
          cases outcome with
          | error failure =>
              rw [renderAll_failed rest h]
              exact fun _ h => absurd h List.not_mem_nil
          | ok =>
              rw [renderAll_completed rest h]
              obtain ⟨own, apart⟩ := List.pairwise_cons.mp apart
              intro s hs
              rcases List.mem_cons.mp hs with rfl | hs
              · refine (renderStep_holds h).of_grows (renderAll_grows g data rest tree') ?_
                rintro ⟨other, hother, he⟩
                rw [FileTree.placeOf_of_grows grows, FileTree.placeOf_of_grows grows] at he
                exact own other hother he
              · refine ih tree' ?_ s hs
                simpa only [FileTree.placeOf_of_grows grows] using apart

/-! ## The plan -/

theorem kinds_nodup (type : ComponentType) : type.kinds.Nodup := by
  cases type <;> decide

theorem plan_apart (g : Generator) (r : Request) (tree : FileTree) :
    (g.plan r).Pairwise fun a b => tree.placeOf a.path ≠ tree.placeOf b.path := by
  rw [plan, Scaffold.plan, List.pairwise_map]
  exact (kinds_nodup r.type).imp (fun h => place_ne h _ _ _ _ _ _)

theorem attempt_ends (g : Generator) (r : Request) (tree : FileTree) :
    Ends g (g.fillData r) tree (g.plan r) ((g.attempt r).run tree).1
      ((g.attempt r).run tree).2 :=
  renderAll_ends g (g.fillData r) (g.plan r) tree

theorem generate_run (g : Generator) {r : Request} (h : r.domain ≠ "") (tree : FileTree) :
    (generate g r).run tree =
      ((((g.attempt r).run tree).1.completed, ((g.attempt r).run tree).1.result,
        ((g.attempt r).run tree).1.log r (g.plan r).length), ((g.attempt r).run tree).2) := by
  rw [generate, if_neg h]
  rfl

/-- Without a domain nothing is attempted. -/
theorem generate_refused (g : Generator) {r : Request} (h : r.domain = "") (tree : FileTree) :
    (generate g r).run tree = (([], .error (.input .missingDomain), []), tree) := by
  rw [generate, if_pos h]
  rfl

theorem renderEach_append {done : List Step} {before : FileTree} (rest : List Step)
    (ran : Disk.on (g.renderEach data done) tree = (.ok (), before)) :
    Disk.on (g.renderEach data (done ++ rest)) tree = Disk.on (g.renderEach data rest) before := by
  induction done generalizing tree with
  | nil =>
      cases ran
      rfl
  | cons step done ih =>
      cases h : Disk.on (g.renderStep data step) tree with
      | mk outcome tree' =>
          cases outcome with
          | error failure =>
              have stopped : Disk.on (g.renderEach data (step :: done)) tree =
                  (.error failure, tree') := Disk.on_bind_error h _
              rw [stopped] at ran
              cases ran
          | ok =>
              rw [renderEach_cons h] at ran
              rw [List.cons_append, renderEach_cons h, ih ran]

/-- Rendering each step on its own comes to the result without the list of completed steps. -/
theorem Ends.fold {steps : List Step} {attempt : Attempt} {final : FileTree}
    (ends : Ends g data tree steps attempt final) :
    Disk.on (g.renderEach data steps) tree = (attempt.result.map fun _ => (), final) := by
  cases ends with
  | completed ran => exact ran
  | @failed done rest step failure before final ran refused =>
      rw [renderEach_append (step :: rest) ran]
      exact Disk.on_bind_error refused _

/-- Where nothing fails, all steps are completed. -/
theorem Ends.completed_of_ok {steps : List Step} {attempt : Attempt} {final : FileTree}
    {report : Report} (ends : Ends g data tree steps attempt final)
    (h : attempt.result = .ok report) : attempt.completed = steps := by
  cases ends with
  | completed => rfl
  | failed => cases h

/-- How a request is served: not at all without a domain, up to a failure that is no matter of the
input, or completely. -/
inductive Serves (g : Generator) (r : Request) (tree : FileTree) :
    (List Step × Except Failure Report × Log) × FileTree → Prop
  | refused : Serves g r tree (([], .error (.input .missingDomain), []), tree)
  | stopped {done : List Step} {failure : Failure} {log : Log} {final : FileTree}
      (before : done <+: g.plan r) (fewer : done.length < (g.plan r).length)
      (cause : ∀ cause, failure ≠ .input cause) :
      Serves g r tree ((done, .error failure, log), final)
  | completed {log : Log} {final : FileTree} :
      Serves g r tree ((g.plan r, .ok (.ofSteps (g.plan r)), log), final)

theorem generate_serves (g : Generator) (r : Request) (tree : FileTree) :
    Serves g r tree ((generate g r).run tree) := by
  by_cases hd : r.domain = ""
  · rw [generate_refused g hd]
    exact .refused
  rw [generate_run g hd]
  have ends := attempt_ends g r tree
  generalize ((g.attempt r).run tree).1 = attempt at ends ⊢
  generalize ((g.attempt r).run tree).2 = final at ends ⊢
  generalize hp : g.plan r = steps at ends
  cases ends with
  | completed =>
      rw [← hp]
      exact .completed
  | @failed done rest step failure before final ran refused =>
      have rendering := renderStep_rendering g (g.fillData r) step before
      rw [refused] at rendering
      refine .stopped ?_ ?_ rendering.not_input
      · rw [hp]
        exact List.prefix_append ..
      · rw [hp, List.length_append, List.length_cons]
        exact Nat.lt_add_of_pos_right (Nat.succ_pos _)

/-- A generation renders the steps of its plan in order.  It reports all of them, or the failure
of the first step that fails, after which nothing is done; either way each completed step's file
holds the whole output of its template at the end. -/
theorem generate_stops_at_first_failure (g : Generator) (r : Request) (tree : FileTree)
    (h : r.domain ≠ "") :
    ∃ completed outcome log final,
      (generate g r).run tree = ((completed, outcome, log), final) ∧
      Disk.on (g.renderEach (g.fillData r) (g.plan r)) tree =
        (outcome.map fun _ => (), final) ∧
      ((completed = g.plan r ∧
          outcome = .ok ⟨(g.plan r).map (·.path), (g.plan r).map (·.kind)⟩) ∨
        ∃ step rest failure before,
          g.plan r = completed ++ step :: rest ∧ outcome = .error failure ∧
            Disk.on (g.renderEach (g.fillData r) completed) tree = (.ok (), before) ∧
            Disk.on (g.renderStep (g.fillData r) step) before = (.error failure, final)) ∧
      ∀ step ∈ completed, g.Holds (g.fillData r) step final := by
  have ends : Ends g (g.fillData r) tree (g.plan r) ((g.attempt r).run tree).1
      ((g.attempt r).run tree).2 := renderAll_ends g (g.fillData r) (g.plan r) tree
  have holds := renderAll_holds g (g.fillData r) (g.plan r) tree (plan_apart g r tree)
  refine ⟨_, _, _, _, generate_run g h tree, ends.fold, ?_, holds⟩
  generalize ((g.attempt r).run tree).1 = attempt at ends
  generalize ((g.attempt r).run tree).2 = final at ends
  generalize g.plan r = steps at ends
  cases ends with
  | completed => exact Or.inl ⟨rfl, rfl⟩
  | failed ran refused => exact Or.inr ⟨_, _, _, _, rfl, rfl, ran, refused⟩

/-- A generator whose bundle holds the first template of a stack only. -/
def firstOnly : Generator :=
  ⟨⟨[("dto.go.j2", "x")], Bundle.memoryOrigin⟩, ⟨.root, []⟩, "m", fun _ _ => 0⟩

/-- Without the second template of a stack the first file is kept. -/
theorem generate_keeps_first_file :
    ∃ completed outcome log final,
      (generate firstOnly ⟨.full, "a", "d", false⟩).run ⟨[], []⟩ =
        ((completed, outcome, log), final) ∧
      completed.length = 1 ∧
      ∀ step ∈ completed,
        firstOnly.Holds (firstOnly.fillData ⟨.full, "a", "d", false⟩) step final := by
  obtain ⟨completed, outcome, log, final, run, -, -, holds⟩ :=
    generate_stops_at_first_failure firstOnly ⟨.full, "a", "d", false⟩ ⟨[], []⟩ (by decide)
  have one : ((generate firstOnly ⟨.full, "a", "d", false⟩).run ⟨[], []⟩).1.1.length = 1 := by
    decide +kernel
  rw [run] at one
  exact ⟨completed, outcome, log, final, run, one, holds⟩

end Scaffold.Generator
