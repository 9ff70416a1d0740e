import Scaffold.Proofs.Bundle.Packaged
import Scaffold.Proofs.Generation.Frame
import Scaffold.Proofs.Generation.Output

/-!
# Running a generation again

A second run finds the directories and files of the first one.  It makes nothing new, fills the
same files again whatever they hold by then, and ends as the first run did.  This takes templates
that come to the same again, as documented ones do: one that draws numbers at random, or shows where
something lies in memory, need not.
-/

namespace Scaffold

/-- The same entries stand at the same places. -/
structure FileTree.Same (tree tree' : FileTree) : Prop where
  base : tree'.base = tree.base
  entries : ∀ loc, tree'.get? loc = tree.get? loc

/-- A failure without the reason that the file system or the template gave for it. -/
def Failure.withoutReason : Failure → Failure
  | .generation f => .generation { f with reason := .notDirectory }
  | failure => failure

/-- The template failed while its output was written. -/
def Failure.whileWriting : Failure → Bool
  | .generation f => f.stage = .executeTemplate
  | _ => false

theorem Failure.whileWriting_diskFailure {stage : Stage} (h : stage ≠ .executeTemplate)
    (path : Path) (fault : DiskFault) :
    (Render.diskFailure stage path fault).whileWriting = false := by
  cases fault with
  | embeddedNul | tooDeep => rfl
  | os cause => simpa [whileWriting, Render.diskFailure, Failure.ofDisk] using h

/-- Two refusals of one stage differ in the reason only. -/
theorem Failure.withoutReason_diskFailure (stage : Stage) (path : Path) {fault fault' : DiskFault}
    (nul : fault = .embeddedNul ↔ fault' = .embeddedNul)
    (deep : fault = .tooDeep ↔ fault' = .tooDeep) :
    (Render.diskFailure stage path fault').withoutReason =
      (Render.diskFailure stage path fault).withoutReason := by
  cases fault with
  | embeddedNul => rw [nul.mp rfl]
  | tooDeep => rw [deep.mp rfl]
  | os cause =>
      cases fault' with
      | embeddedNul => exact absurd (nul.mpr rfl) (by simp)
      | tooDeep => exact absurd (deep.mpr rfl) (by simp)
      | os cause' => rfl

/-- A template that cannot be read or parsed fails before anything is written. -/
theorem Bundle.whileWriting_program {bundle : Bundle} {resource : String} {failure : Failure}
    (h : bundle.program resource = .error failure) : failure.whileWriting = false := by
  obtain ⟨_, rfl⟩ | ⟨_, rfl⟩ | ⟨_, rfl⟩ := failure_of_program h <;> rfl

/-- A template comes to the same by other draws. -/
def Bundle.Repeats (bundle : Bundle) (resource : String) (data : List (String × Template.Value))
    (draws again : Template.Draws) : Prop :=
  ∀ program, bundle.program resource = .ok program →
    program.run data again = program.run data draws

theorem Bundle.repeats_of_runs {bundle : Bundle} {resource : String}
    {data : List (String × Template.Value)} {draws again : Template.Draws}
    (same : ((bundle.program resource).toOption.map fun program => program.run data again) =
      (bundle.program resource).toOption.map fun program => program.run data draws) :
    bundle.Repeats resource data draws again := by
  intro program read
  rw [read] at same
  exact Option.some.inj same

/-- A documented template takes nothing from outside but the data. -/
theorem Bundle.repeats_of_form {bundle : Bundle} {resource : String} {f : Template.Form}
    (wf : f.WellFormed) (source : bundle.get? resource = some (String.ofList f.source))
    (d : FillData) (draws again : Template.Draws) :
    bundle.Repeats resource d.context draws again := by
  obtain ⟨program, read, runs⟩ := Bundle.program_of_form wf source
  intro program' read'
  rw [read] at read'
  cases read'
  rw [runs d draws, runs d again]

section

variable {bundle : Bundle} {resource : String} {path : Path}
  {data : List (String × Template.Value)} {draws again : Template.Draws}
  {tree tree' final other : FileTree}

/-- A file that was filled is filled again on every grown tree and on those like it. -/
theorem render_refills {made written : Set Location} {program : Template.Program}
    {dir loc : Location} (read : bundle.program resource = .ok program)
    (found : (tree.withDirectory path.parent).2 = some dir)
    (opened : (tree.withDirectory path.parent).1.placeToOpen path = .ok loc)
    (fits : (tree.withDirectory path.parent).1.get? loc = some .fullDevice →
      (program.run data draws).text.toUTF8.isEmpty = true)
    (grows : FileTree.Grows made written ((tree.withDirectory path.parent).1.withContent loc
      (program.run data draws).text.toUTF8) final)
    (kept : tree.placeOf path ∉ written) (alike : FileTree.Alike final other)
    (same : program.run data again = program.run data draws) :
    ∃ other', Disk.on (render bundle resource path data again) other =
        (match (program.run data draws).trouble? with
          | some trouble => .error (.generation ⟨.executeTemplate, resource, .trouble trouble⟩)
          | none => .ok (),
        other') ∧
      FileTree.Alike final other' ∧
        ∀ l, other'.get? l = if l = tree.placeOf path then final.get? l else other.get? l := by
  obtain ⟨rfl, hn, hd⟩ := place_of_opened opened
  have filled := FileTree.withContent_grows hn hd (program.run data draws).text.toUTF8
  have found' := FileTree.withDirectory_kept found (filled.union grows) alike
  obtain ⟨opened', standing⟩ := FileTree.placeToOpen_kept opened grows alike
  have refilled := @render_filled bundle resource path other program data again dir _ read
    (by rw [found']) (by rw [found']; exact opened')
    (by
      rw [found', same]
      intro device
      rcases standing with ⟨device', -⟩ | ⟨-, old, file⟩
      · exact fits device'
      · rw [file] at device
        cases device)
  rw [found', same] at refilled
  refine ⟨_, refilled, ?_⟩
  rcases standing with ⟨-, device⟩ | ⟨nodevice, old, file⟩
  · rw [FileTree.withContent_device device]
    refine ⟨alike, fun l => ?_⟩
    split
    · next hl => rw [hl, device, alike.symm.device device]
    · rfl
  · rw [FileTree.withContent_eq_put (by simp [file])]
    refine ⟨alike.trans (.putFile hn _ file), fun l => ?_⟩
    rw [FileTree.get?_put other hn]
    split
    · next hl =>
        rw [hl]
        exact (grows.same _ _ kept (FileTree.get?_withContent_self hn _ nodevice)).symm
    · rfl

/-- A step that was completed is completed again. -/
theorem render_completes_again {made written : Set Location}
    (h : Disk.on (render bundle resource path data draws) tree = (.ok (), tree'))
    (grows : FileTree.Grows made written tree' final) (kept : tree.placeOf path ∉ written)
    (alike : FileTree.Alike final other) (same : bundle.Repeats resource data draws again) :
    ∃ other', Disk.on (render bundle resource path data again) other = (.ok (), other') ∧
      FileTree.Alike final other' ∧
        ∀ l, other'.get? l = if l = tree.placeOf path then final.get? l else other.get? l := by
  have rendering := render_on bundle resource path data draws tree
  rw [h] at rendering
  cases rendering with
  | written read found opened fits ended =>
      have refilled := render_refills read found opened fits grows kept alike (same _ read)
      rw [ended] at refilled
      exact refilled

/-- A step that failed fails again, and changes no more than it did before. -/
theorem render_fails_again {failure : Failure}
    (h : Disk.on (render bundle resource path data draws) tree = (.error failure, final))
    (alike : FileTree.Alike final other) (same : bundle.Repeats resource data draws again) :
    ∃ failure' other',
      Disk.on (render bundle resource path data again) other = (.error failure', other') ∧
      failure'.withoutReason = failure.withoutReason ∧ FileTree.Alike final other' ∧
        ∀ l, other'.get? l =
          if failure.whileWriting = true ∧ l = tree.placeOf path then final.get? l
          else other.get? l := by
  have rendering := render_on bundle resource path data draws tree
  rw [h] at rendering
  have unchanged (hw : failure.whileWriting = false) (l : Location) : other.get? l =
      if failure.whileWriting = true ∧ l = tree.placeOf path then final.get? l
      else other.get? l := by
    rw [if_neg (by simp [hw])]
  cases rendering with
  | @unreadable failure read =>
      exact ⟨_, other, render_unreadable data again read, rfl, alike,
        unchanged (Bundle.whileWriting_program read)⟩
  | @unmade program fault read blocked blocks =>
      have parents := FileTree.withDirectory_again alike
      obtain ⟨fault', hfault, blocks'⟩ :=
        @render_unmade bundle resource path other program data again read (by rw [parents, blocked])
      rw [parents] at hfault
      have nul := blocks.nul.trans blocks'.nul.symm
      have deep := blocks.deep.trans ((FileTree.tooDeep_again alike).symm.trans blocks'.deep.symm)
      exact ⟨_, other, hfault, Failure.withoutReason_diskFailure _ _ nul deep, alike,
        unchanged (Failure.whileWriting_diskFailure (by decide) _ _)⟩
  | @unopened program dir fault read found refused =>
      have parents := FileTree.withDirectory_again alike
      have refused' := @render_unopened bundle resource path other program data again dir fault read
        (by rw [parents, found]) (by rw [parents, FileTree.placeToOpen_of_alike alike, refused])
      rw [parents] at refused'
      exact ⟨_, other, refused', rfl, alike,
        unchanged (Failure.whileWriting_diskFailure (by decide) _ _)⟩
  | @full program dir loc read found opened device output =>
      have parents := FileTree.withDirectory_again alike
      rw [← same _ read] at output
      have full' := @render_full bundle resource path other program data again dir loc read
        (by rw [parents, found]) (by rw [parents, FileTree.placeToOpen_of_alike alike, opened])
        (by rw [parents, alike.device device]) output
      rw [parents] at full'
      exact ⟨_, other, full', rfl, alike,
        unchanged (Failure.whileWriting_diskFailure (by decide) _ _)⟩
  | broken read found opened fits stopped =>
      obtain ⟨other', refilled, alike', entries⟩ := render_refills read found opened fits
        (.refl ∅ ∅ _) (Set.notMem_empty _) alike (same _ read)
      rw [stopped] at refilled
      refine ⟨_, other', refilled, rfl, alike', fun l => ?_⟩
      rw [entries l]
      simp [Failure.whileWriting]

end

/-! ## All steps -/

/-- The steps whose files were filled: those that were completed, and the one whose template failed
while its output was written. -/
def Attempt.filled (a : Attempt) : List Step :=
  a.completed ++
    match a.failed? with
    | some (step, failure) => if failure.whileWriting then [step] else []
    | none => []

/-- A tree with the entries of the final one at some places, and those of another one elsewhere. -/
def FileTree.Restores (places : Set Location) (final other other' : FileTree) : Prop :=
  ∀ l, (l ∈ places → other'.get? l = final.get? l) ∧ (l ∉ places → other'.get? l = other.get? l)

theorem FileTree.Restores.insert {places : Set Location} {place : Location}
    {final other between other' : FileTree}
    (first : ∀ l, between.get? l = if l = place then final.get? l else other.get? l)
    (rest : Restores places final between other') :
    Restores (Insert.insert place places) final other other' := by
  intro l
  obtain ⟨inside, outside⟩ := rest l
  rw [Set.mem_insert_iff]
  by_cases hl : l ∈ places
  · exact ⟨fun _ => inside hl, fun hn => absurd (Or.inr hl) hn⟩
  · rw [outside hl, first l]
    constructor
    · rintro (he | he)
      · rw [if_pos he]
      · exact absurd he hl
    · intro hn
      rw [if_neg fun he => hn (Or.inl he)]

/-- The file of a step that fails is restored if its template failed while it was written. -/
theorem FileTree.Restores.of_failed {step : Step} {failure : Failure}
    {tree final other other' : FileTree}
    (entries : ∀ l, other'.get? l =
      if failure.whileWriting = true ∧ l = tree.placeOf step.path then final.get? l
      else other.get? l) :
    Restores (Generator.placesOf (Attempt.filled ⟨[], some (step, failure)⟩) tree) final other
      other' := by
  intro l
  rw [entries l]
  cases hw : failure.whileWriting <;> by_cases hl : l = tree.placeOf step.path <;>
    simp [Attempt.filled, Generator.placesOf, hw, hl]

namespace Generator

/-- The same generator with other draws. -/
def withDraws (g : Generator) (draws : Path → Template.Draws) : Generator := { g with draws }

/-- The template of a step comes to the same by other draws. -/
def Repeats (g : Generator) (again : Path → Template.Draws) (data : FillData) (step : Step) :
    Prop :=
  g.bundle.Repeats step.resource data.context (g.draws step.path) (again step.path)

variable {g : Generator} {data : FillData}

/-- The packaged templates come to the same by all draws. -/
theorem repeats_of_packaged (packaged : g.bundle = Bundle.packaged)
    (again : Path → Template.Draws) (data : FillData) {r : Request} {step : Step}
    (planned : step ∈ g.plan r) : g.Repeats again data step := by
  obtain ⟨kind, -, rfl⟩ := List.mem_map.mp planned
  obtain ⟨f, wf, source⟩ := Bundle.exists_form_of_kind kind
  rw [Repeats, packaged]
  exact Bundle.repeats_of_form wf source data _ _

/-- Steps that are rendered again end as before, and fill the same files again. -/
theorem renderAll_again (g : Generator) (again : Path → Template.Draws) (data : FillData)
    (steps : List Step) (tree : FileTree)
    (apart : steps.Pairwise fun a b => tree.placeOf a.path ≠ tree.placeOf b.path)
    {attempt : Attempt} {final other : FileTree}
    (first : (g.renderAll data steps).run tree = (attempt, final))
    (alike : FileTree.Alike final other)
    (same : ∀ step ∈ steps.take (attempt.completed.length + 1), g.Repeats again data step) :
    ∃ failed?' other', ((g.withDraws again).renderAll data steps).run other =
        (⟨attempt.completed, failed?'⟩, other') ∧
      failed?'.map (fun f => (f.1, f.2.withoutReason)) =
        attempt.failed?.map (fun f => (f.1, f.2.withoutReason)) ∧
      FileTree.Alike final other' ∧
        FileTree.Restores (placesOf attempt.filled tree) final other other' := by
  induction steps generalizing tree other attempt final with
  | nil =>
      cases first
      exact ⟨none, other, rfl, rfl, alike, fun l => ⟨fun ⟨_, h, _⟩ => absurd h List.not_mem_nil,
        fun _ => rfl⟩⟩
  | cons step rest ih =>
      obtain ⟨own, apart⟩ := List.pairwise_cons.mp apart
      cases h : Disk.on (g.renderStep data step) tree with
      | mk outcome tree' =>
          cases outcome with
          | error failure =>
              rw [renderAll_failed rest h] at first
              cases first
              obtain ⟨failure', other', h', like, alike', entries⟩ :=
                render_fails_again h alike (same step List.mem_cons_self)
              have h'' : Disk.on ((g.withDraws again).renderStep data step) other =
                  (.error failure', other') := h'
              refine ⟨some (step, failure'), other', renderAll_failed rest h'', ?_, alike',
                .of_failed entries⟩
              simp only [Option.map_some, like]
          | ok =>
              have grows := renderStep_grows _ h
              have others := renderAll_grows g data rest tree'
              rw [renderAll_completed rest h] at first
              cases hrest : (g.renderAll data rest).run tree' with
              | mk attempt' final' =>
                  rw [hrest] at first others
                  cases first
                  rw [List.length_cons, List.take_succ_cons] at same
                  have kept : tree.placeOf step.path ∉ placesOf rest tree' := by
                    rw [placesOf_of_grows rest grows]
                    rintro ⟨s, hs, he⟩
                    exact own s hs he
                  obtain ⟨other₁, h₁, alike₁, entries₁⟩ :=
                    render_completes_again h others kept alike (same step List.mem_cons_self)
                  have h₂ : Disk.on ((g.withDraws again).renderStep data step) other =
                      (.ok (), other₁) := h₁
                  have apart' : rest.Pairwise fun a b =>
                      tree'.placeOf a.path ≠ tree'.placeOf b.path := by
                    simpa only [FileTree.placeOf_of_grows grows] using apart
                  obtain ⟨failed?', other', run', like, alike', entries⟩ :=
                    ih tree' apart' hrest alike₁ fun s hs => same s (List.mem_cons_of_mem step hs)
                  refine ⟨failed?', other', ?_, like, alike', ?_⟩
                  · rw [renderAll_completed rest h₂, run']
                  · have hfilled : Attempt.filled { attempt' with
                        completed := step :: attempt'.completed } = step :: attempt'.filled := rfl
                    rw [placesOf_of_grows _ grows] at entries
                    rw [hfilled, placesOf_cons]
                    exact entries.insert entries₁

/-! ## The plan -/

/-- The steps whose files a run filled, told from what it gave. -/
def filledSteps (steps completed : List Step) : Except Failure Report → List Step
  | .error failure =>
      if failure.whileWriting then steps.take (completed.length + 1) else completed
  | .ok _ => completed

theorem Ends.filled {tree final : FileTree} {steps : List Step} {attempt : Attempt}
    (ends : Ends g data tree steps attempt final) :
    filledSteps steps attempt.completed attempt.result = attempt.filled := by
  cases ends with
  | completed => exact (List.append_nil _).symm
  | @failed done rest step failure =>
      simp only [filledSteps, Attempt.result, Attempt.filled]
      cases failure.whileWriting with
      | false => simp
      | true =>
          rw [if_pos rfl, List.take_length_add_append]
          rfl

end Generator

/-- The second tree is the first one with other contents in some of the files of the steps. -/
structure FileTree.Rewritten (steps : List Step) (tree tree' : FileTree) : Prop where
  base : tree'.base = tree.base
  entries : ∀ loc, tree'.get? loc = tree.get? loc ∨
    (∃ step ∈ steps, tree.target step.path = .ok (.place loc)) ∧
      ∃ old new, tree.get? loc = some (.file old) ∧ tree'.get? loc = some (.file new)

theorem FileTree.Rewritten.alike {steps : List Step} {tree tree' : FileTree}
    (h : Rewritten steps tree tree') : Alike tree tree' where
  base := h.base
  blanks loc := by
    rcases h.entries loc with he | ⟨-, old, new, hold, hnew⟩
    · rw [he]
    · simp [hold, hnew]

/-- Other contents in one of the files. -/
theorem FileTree.Rewritten.putFile {steps : List Step} {tree : FileTree} {step : Step}
    {loc : Location} {old : ByteArray} (hstep : step ∈ steps)
    (target : tree.target step.path = .ok (.place loc)) (file : tree.get? loc = some (.file old))
    (new : ByteArray) : Rewritten steps tree (tree.put loc (.file new)) where
  base := base_put tree loc _
  entries other := by
    rw [get?_put tree (place_ne_nil target)]
    by_cases ho : other = loc
    · subst ho
      exact Or.inr ⟨⟨step, hstep, target⟩, old, new, file, if_pos rfl⟩
    · exact Or.inl (if_neg ho)

namespace Attempt

theorem madeParents_withoutReason (step : Step) (failure : Failure) :
    madeParents step failure.withoutReason = madeParents step failure := by
  cases failure with
  | input | generation | invalid => rfl
  | fault fault => cases fault <;> rfl

variable {completed : List Step} {failed? failed?' : Option (Step × Failure)}

/-- Attempts whose failures differ in the reason only come to like results. -/
theorem result_withoutReason
    (same : failed?'.map (fun f => (f.1, f.2.withoutReason)) =
      failed?.map (fun f => (f.1, f.2.withoutReason))) :
    (Attempt.mk completed failed?').result.mapError Failure.withoutReason =
      (Attempt.mk completed failed?).result.mapError Failure.withoutReason := by
  cases failed? with
  | none =>
      rw [Option.map_eq_none_iff.mp same]
  | some f =>
      obtain ⟨f', rfl, hf⟩ := Option.map_eq_some_iff.mp same
      exact congrArg Except.error (Prod.mk.inj hf).2

/-- Reasons do not show in the records. -/
theorem log_withoutReason
    (same : failed?'.map (fun f => (f.1, f.2.withoutReason)) =
      failed?.map (fun f => (f.1, f.2.withoutReason))) (r : Request) (steps : Nat) :
    (Attempt.mk completed failed?').log r steps = (Attempt.mk completed failed?).log r steps := by
  cases failed? with
  | none =>
      rw [Option.map_eq_none_iff.mp same]
  | some f =>
      obtain ⟨⟨step', failure'⟩, rfl, hf⟩ := Option.map_eq_some_iff.mp same
      obtain ⟨rfl, hfailure⟩ := Prod.mk.inj hf
      have hmade : madeParents f.1 failure' = madeParents f.1 f.2 := by
        rw [← madeParents_withoutReason, ← madeParents_withoutReason f.1 f.2]
        exact congrArg _ hfailure
      simp only [log, hmade]

end Attempt

namespace Generator

/-- A run on the tree that an earlier run left, with any contents in the files that it filled,
completes the same steps, ends in the same way and leaves the tree that the earlier run left, if
the templates of the steps that were attempted come to the same again. -/
theorem generate_again (g : Generator) (again : Path → Template.Draws) (r : Request)
    {tree final other : FileTree} {completed : List Step} {outcome : Except Failure Report}
    {log : Log} (first : (generate g r).run tree = ((completed, outcome, log), final))
    (rewritten : FileTree.Rewritten (filledSteps (g.plan r) completed outcome) final other)
    (same : ∀ step ∈ g.attempted r completed, g.Repeats again (g.fillData r) step) :
    ∃ outcome' final',
      (generate (g.withDraws again) r).run other = ((completed, outcome', log), final') ∧
        outcome'.mapError Failure.withoutReason = outcome.mapError Failure.withoutReason ∧
          FileTree.Same final final' := by
  by_cases hd : r.domain = ""
  · rw [generate_refused g hd] at first
    cases first
    refine ⟨_, other, generate_refused _ hd other, rfl, rewritten.base, fun loc => ?_⟩
    rcases rewritten.entries loc with h | ⟨⟨step, hstep, -⟩, -⟩
    · exact h
    · exact absurd hstep List.not_mem_nil
  · cases hrun : (g.attempt r).run tree with
    | mk attempt final' =>
        rw [generate_run g hd, hrun] at first
        cases first
        have ends := renderAll_ends g (g.fillData r) (g.plan r) tree
        have grows := renderAll_grows g (g.fillData r) (g.plan r) tree
        have hrun' : (g.renderAll (g.fillData r) (g.plan r)).run tree = (attempt, final') := hrun
        rw [hrun'] at ends grows
        rw [attempted, if_neg hd] at same
        obtain ⟨failed?', other', run', like, alike, entries⟩ :=
          renderAll_again g again (g.fillData r) (g.plan r) tree (plan_apart g r tree) hrun'
            rewritten.alike same
        have run'' : ((g.withDraws again).attempt r).run other =
            (⟨attempt.completed, failed?'⟩, other') := run'
        refine ⟨_, other', ?_, Attempt.result_withoutReason like, alike.base, fun loc => ?_⟩
        · rw [generate_run _ hd, run'', Attempt.log_withoutReason like]
          rfl
        · obtain ⟨inside, outside⟩ := entries loc
          by_cases hl : loc ∈ placesOf attempt.filled tree
          · exact inside hl
          · rw [outside hl]
            rcases rewritten.entries loc with h | ⟨⟨step, hstep, target⟩, -⟩
            · exact h
            · rw [ends.filled] at hstep
              refine absurd ⟨step, hstep, ?_⟩ hl
              rw [(FileTree.place_eq_placeOf target).1, FileTree.placeOf_of_grows grows]

theorem firstOnly_repeats (step : Step)
    (planned : step ∈ firstOnly.plan ⟨.full, "a", "d", false⟩) :
    firstOnly.Repeats (fun _ _ => 1) (firstOnly.fillData ⟨.full, "a", "d", false⟩) step := by
  obtain ⟨kind, -, rfl⟩ := List.mem_map.mp planned
  apply Bundle.repeats_of_runs
  cases kind <;> decide +kernel

/-- The first file of a stack whose second template is missing, edited between two runs. -/
theorem generate_restores_first_file :
    ∃ loc completed outcome log final,
      (generate firstOnly ⟨.full, "a", "d", false⟩).run ⟨[], []⟩ =
        ((completed, outcome, log), final) ∧
      final.get? loc = some (.file "x".toUTF8) ∧
      ∃ outcome' final',
        (generate (firstOnly.withDraws fun _ _ => 1) ⟨.full, "a", "d", false⟩).run
            (final.put loc (.file "edited".toUTF8)) =
          ((completed, outcome', log), final') ∧
        outcome'.mapError Failure.withoutReason = outcome.mapError Failure.withoutReason ∧
        FileTree.Same final final' := by
  have steps : filledSteps (firstOnly.plan ⟨.full, "a", "d", false⟩)
      ((generate firstOnly ⟨.full, "a", "d", false⟩).run ⟨[], []⟩).1.1
      ((generate firstOnly ⟨.full, "a", "d", false⟩).run ⟨[], []⟩).1.2.1 =
        [⟨.dto, "dto.go.j2", "/internal/applications/d/dto/a_dto.go"⟩] := by
    decide +kernel
  have content : (((generate firstOnly ⟨.full, "a", "d", false⟩).run ⟨[], []⟩).2.readBytes
      "/internal/applications/d/dto/a_dto.go").toOption = some "x".toUTF8 := by
    decide +kernel
  cases run : (generate firstOnly ⟨.full, "a", "d", false⟩).run ⟨[], []⟩ with
  | mk out final =>
      obtain ⟨completed, outcome, log⟩ := out
      rw [run] at steps content
      obtain ⟨loc, target, file⟩ := FileTree.exists_file content (by decide)
      have hstep : (⟨.dto, "dto.go.j2", "/internal/applications/d/dto/a_dto.go"⟩ : Step) ∈
          filledSteps (firstOnly.plan ⟨.full, "a", "d", false⟩) completed outcome := by
        rw [steps]
        exact List.mem_singleton_self _
      exact ⟨loc, completed, outcome, log, final, rfl, file,
        generate_again firstOnly (fun _ _ => 1) _ run (.putFile hstep target file _) fun step hs =>
          firstOnly_repeats step (List.mem_of_mem_take hs)⟩

/-- A generator whose template writes a number that is drawn at random. -/
def lottery : Generator :=
  ⟨⟨[("dto.go.j2", "\x7b\x7b range(2)|random \x7d\x7d")], Bundle.memoryOrigin⟩, ⟨.root, []⟩, "m",
    fun _ _ => 0⟩

/-- Other draws leave another tree, though nothing was changed between the two runs. -/
theorem generate_again_by_lot :
    ∃ completed outcome log final,
      (generate lottery ⟨.dto, "a", "d", false⟩).run ⟨[], []⟩ =
        ((completed, outcome, log), final) ∧
      FileTree.Rewritten (filledSteps (lottery.plan ⟨.dto, "a", "d", false⟩) completed outcome)
        final final ∧
      ¬ FileTree.Same final
        ((generate (lottery.withDraws fun _ _ => 1) ⟨.dto, "a", "d", false⟩).run final).2 := by
  have before : ((generate lottery ⟨.dto, "a", "d", false⟩).run ⟨[], []⟩).2.get?
      ["internal", "applications", "d", "dto", "a_dto.go"] = some (.file "0".toUTF8) := by
    decide +kernel
  have after : ((generate (lottery.withDraws fun _ _ => 1) ⟨.dto, "a", "d", false⟩).run
      ((generate lottery ⟨.dto, "a", "d", false⟩).run ⟨[], []⟩).2).2.get?
        ["internal", "applications", "d", "dto", "a_dto.go"] = some (.file "1".toUTF8) := by
    decide +kernel
  cases run : (generate lottery ⟨.dto, "a", "d", false⟩).run ⟨[], []⟩ with
  | mk out final =>
      obtain ⟨completed, outcome, log⟩ := out
      rw [run] at before after
      refine ⟨completed, outcome, log, final, rfl, ⟨rfl, fun _ => Or.inl rfl⟩, fun same => ?_⟩
      have kept := same.entries ["internal", "applications", "d", "dto", "a_dto.go"]
      rw [before, after] at kept
      exact absurd kept (by decide)

end Generator

end Scaffold
