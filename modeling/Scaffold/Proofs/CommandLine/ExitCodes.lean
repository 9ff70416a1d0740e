import Scaffold.Proofs.CommandLine.Preparation
import Scaffold.Proofs.Generation.Sequence

/-!
# Exit codes

What the exit code of a run tells about what it showed and what became of the files.
-/

namespace Scaffold

theorem plan_pos (root : Path) (type : ComponentType) (data : FillData) :
    0 < (plan root type data).length := by
  rw [plan, List.length_map]
  cases type <;> decide

namespace CommandLine

/-! ## Standard output -/

/-- The lines of created files. -/
def createdText (steps : List Step) : String :=
  String.join (steps.map fun step => "  Created: " ++ step.path.toString ++ "\n")

/-- The text behind the lines of a full stack. -/
def stackText : String :=
  "✓ Complete stack generated:\n  - DTO\n  - Validator\n  - Repository\n  - Service\n" ++
    "  - Controller\n  - Providers\n  - Registry\n"

theorem summary_plan (root : Path) (data : FillData) :
    (Report.ofSteps (plan root .full data)).summary ++ "\n" = stackText := by
  have kinds : (Report.ofSteps (plan root .full data)).kinds = ComponentKind.fullStack := rfl
  rw [Report.summary, kinds]
  decide +kernel

/-- A failed run has an exit code if its failure belongs to one of the two groups. -/
theorem Ending.ofFailure_ok {stdout : String} {log : Log} {failure : Failure} {code : Nat}
    (h : (Ending.ofFailure stdout log failure).result = .ok code) :
    (∃ cause, failure = .input cause) ∧ code = 1 ∨
      (∃ cause, failure = .generation cause) ∧ code = 2 := by
  cases failure with
  | input cause =>
      cases h
      exact Or.inl ⟨⟨cause, rfl⟩, rfl⟩
  | generation cause =>
      cases h
      exact Or.inr ⟨⟨cause, rfl⟩, rfl⟩
  | invalid => cases h
  | fault => cases h

/-! ## Orders -/

namespace Order

/-- An order whose generation failed: the files are as the generation left them, the steps before
the failure are fewer than planned, and they are all that is shown. -/
def Failed (o : Order) (draws : Path → Template.Draws) (tree : FileTree) (stdout : String)
    (final : FileTree) : Prop :=
  ∃ request settings module completed, o.Settles tree request settings module ∧
    completed <+: plan settings.outputRoot request.type (.ofRequest request module) ∧
    completed.length <
      (plan settings.outputRoot request.type (.ofRequest request module)).length ∧
    stdout = createdText completed ∧
    (((∃ failure, Bundle.ofOptional tree settings.templatesDir = .error (.generation failure)) ∧
        completed = [] ∧ final = tree) ∨
      ∃ bundle failure log, Bundle.ofOptional tree settings.templatesDir = .ok bundle ∧
        (generate ⟨bundle, settings.outputRoot, module, draws⟩ request).run tree =
          ((completed, .error (.generation failure), log), final))

/-- An order that was carried out: the files are as the generation left them, and all steps are
shown, with the words that were typed. -/
def Succeeded (o : Order) (draws : Path → Template.Draws) (tree : FileTree) (stdout : String)
    (final : FileTree) : Prop :=
  ∃ type name domain request settings module bundle report log,
    o.type = .text type ∧ o.name = .text name ∧ o.domain = .text domain ∧
    o.Settles tree request settings module ∧
    Bundle.ofOptional tree settings.templatesDir = .ok bundle ∧
    (generate ⟨bundle, settings.outputRoot, module, draws⟩ request).run tree =
      ((plan settings.outputRoot request.type (.ofRequest request module), .ok report, log),
        final) ∧
    stdout = createdText (plan settings.outputRoot request.type (.ofRequest request module)) ++
      (if request.type = .full then stackText else "") ++
      ("✓ Generated " ++ type ++ ": " ++ name ++ " in domain " ++ domain ++ "\n")

/-- What an exit code says about standard output and the files. -/
inductive Exits (o : Order) (draws : Path → Template.Draws) (tree : FileTree) :
    Nat → String → FileTree → Prop
  | succeeded {stdout : String} {final : FileTree} (h : o.Succeeded draws tree stdout final) :
      Exits o draws tree 0 stdout final
  | refused : Exits o draws tree 1 "" tree
  | failed {stdout : String} {final : FileTree} (h : o.Failed draws tree stdout final) :
      Exits o draws tree 2 stdout final

variable {tree : FileTree} {o : Order} {draws : Path → Template.Draws}

theorem run_unprepared {failure : Failure} {log : Log}
    (h : (o.prepare tree draws).run.run [] = (.error failure, log)) :
    (o.run draws).run tree = (.ofFailure "" log failure, tree) := by
  rw [Order.run, StateT.run_bind, StateT.run_get, pure_bind, h]
  rfl

/-- The end of an order whose request was served. -/
def ending (o : Order) (r : Request) (steps : List Step) (log : Log) :
    Except Failure Report → Ending
  | .error failure => .ofFailure (createdText steps) log failure
  | .ok report => ⟨.ok success, createdText steps ++ o.closing r report, log, ""⟩

theorem run_served {g : Generator} {r : Request} {log records : Log} {steps : List Step}
    {result : Except Failure Report} {final : FileTree}
    (prepared : (o.prepare tree draws).run.run [] = (.ok (g, r), log))
    (served : (generate g r).run tree = ((steps, result, records), final)) :
    (o.run draws).run tree = (o.ending r steps (log ++ records) result, final) := by
  rw [Order.run, StateT.run_bind, StateT.run_get, pure_bind, prepared]
  dsimp only
  rw [StateT.run_bind, served]
  cases result <;> rfl

/-- The words that were typed stand in the last line. -/
theorem closing_plan {type name domain : String} (g : Generator) (r : Request)
    (htype : o.type = .text type) (hname : o.name = .text name)
    (hdomain : o.domain = .text domain) :
    o.closing r (.ofSteps (g.plan r)) = (if r.type = .full then stackText else "") ++
      ("✓ Generated " ++ type ++ ": " ++ name ++ " in domain " ++ domain ++ "\n") := by
  rw [closing, htype, hname, hdomain]
  congr 1
  split
  · next full =>
      rw [Generator.plan, full]
      exact summary_plan _ _
  · rfl

/-- A prepared order ends as its generation does. -/
theorem exits_of_prepared {request : Request} {settings : Settings} {module : String}
    {bundle : Bundle} {log : Log} {code : Nat} (asked : ∃ r, o = .ofReading r)
    (settles : o.Settles tree request settings module)
    (read : Bundle.ofOptional tree settings.templatesDir = .ok bundle)
    (prepared : (o.prepare tree draws).run.run [] =
      (.ok (⟨bundle, settings.outputRoot, module, draws⟩, request), log))
    (h : ((o.run draws).run tree).1.result = .ok code) :
    o.Exits draws tree code ((o.run draws).run tree).1.stdout ((o.run draws).run tree).2 := by
  have serves := Generator.generate_serves ⟨bundle, settings.outputRoot, module, draws⟩ request tree
  generalize served : (generate ⟨bundle, settings.outputRoot, module, draws⟩ request).run tree =
    result at serves
  cases serves with
  | refused =>
      rw [run_served prepared served] at h ⊢
      cases h
      exact .refused
  | stopped before fewer other =>
      rw [run_served prepared served] at h ⊢
      obtain ⟨⟨cause, rfl⟩, rfl⟩ | ⟨⟨cause, rfl⟩, rfl⟩ := Ending.ofFailure_ok h
      · exact absurd rfl (other cause)
      · exact .failed ⟨request, settings, module, _, settles, before, fewer, rfl,
          Or.inr ⟨bundle, cause, _, read, served⟩⟩
  | completed =>
      rw [run_served prepared served] at h ⊢
      cases h
      obtain ⟨type, htype, hname, hdomain⟩ := texts_of_request asked settles.request
      refine .succeeded ⟨type, request.name, request.domain, request, settings, module, bundle,
        _, _, htype, hname, hdomain, settles, read, served, ?_⟩
      rw [ending, closing_plan _ _ htype hname hdomain, ← String.append_assoc]
      rfl

theorem run_exits (asked : ∃ r, o = .ofReading r) {code : Nat}
    (h : ((o.run draws).run tree).1.result = .ok code) :
    o.Exits draws tree code ((o.run draws).run tree).1.stdout ((o.run draws).run tree).2 := by
  cases prepared : (o.prepare tree draws).run.run [] with
  | mk outcome log =>
      rcases prepare_cases prepared with
        ⟨failure, rfl, before⟩ | ⟨request, settings, module, settles, rfl⟩
      · rw [run_unprepared prepared] at h ⊢
        obtain ⟨⟨cause, rfl⟩, rfl⟩ | ⟨⟨cause, rfl⟩, rfl⟩ := Ending.ofFailure_ok h
        · exact .refused
        · exact absurd rfl (before cause)
      cases read : Bundle.ofOptional tree settings.templatesDir with
      | ok bundle =>
          rw [read] at prepared
          exact exits_of_prepared asked settles read prepared h
      | error failure =>
          rw [read] at prepared
          rw [run_unprepared prepared] at h ⊢
          obtain ⟨⟨cause, rfl⟩, rfl⟩ | ⟨⟨cause, rfl⟩, rfl⟩ := Ending.ofFailure_ok h
          · exact .refused
          · exact .failed ⟨request, settings, module, [], settles, List.nil_prefix, plan_pos ..,
              rfl, Or.inl ⟨⟨cause, read⟩, rfl, rfl⟩⟩

end Order

/-! ## Command lines -/

section

variable {arguments : List String} (draws : Path → Template.Draws) (tree : FileTree)

theorem run_halted {halt : Halt} (h : Command.ofArguments arguments = .error halt) :
    (run arguments draws).run tree = ((Ending.ofHalt halt).outcome .silent, tree) := by
  rw [run, h]
  rfl

theorem run_generating {o : Order} (h : Command.ofArguments arguments = .ok (.generate o)) :
    (run arguments draws).run tree =
      (((o.run draws).run tree).1.outcome o.verbosity, ((o.run draws).run tree).2) := by
  rw [run, h]
  rfl

theorem run_helping (h : Command.ofArguments arguments = .ok .help) :
    (run arguments draws).run tree = ((Ending.ofText success Top.help).outcome .silent, tree) := by
  rw [run, h]
  rfl

theorem run_idle (h : Command.ofArguments arguments = .ok .nothing) :
    (run arguments draws).run tree =
      ((Ending.ofNotice inputError Top.help).outcome .silent, tree) := by
  rw [run, h]
  rfl

end

/-- The exit code tells what a run did.  One: nothing was shown and no file touched.  Two: the files
are as a generation left them that failed, and its completed steps are all that is shown.  Zero: a
generation, if one was asked for, completed all its steps, and all of them are shown. -/
theorem run_exit_code (arguments : List String) (draws : Path → Template.Draws)
    (tree : FileTree) {code : Nat}
    (h : ((run arguments draws).run tree).1.result = .ok code) :
    (code = 0 ∨ code = 1 ∨ code = 2) ∧
    (code = 1 → ((run arguments draws).run tree).1.stdout = "" ∧
      ((run arguments draws).run tree).2 = tree) ∧
    (code = 2 → ∃ o, Command.ofArguments arguments = .ok (.generate o) ∧
      o.Failed draws tree ((run arguments draws).run tree).1.stdout
        ((run arguments draws).run tree).2) ∧
    (code = 0 → ∀ o, Command.ofArguments arguments = .ok (.generate o) →
      o.Succeeded draws tree ((run arguments draws).run tree).1.stdout
        ((run arguments draws).run tree).2) := by
  cases asked : Command.ofArguments arguments with
  | error halt =>
      rw [run_halted draws tree asked] at h ⊢
      cases halt with
      | print text =>
          cases h
          exact ⟨Or.inl rfl, nofun, nofun, fun _ _ ho => nomatch ho⟩
      | refuse grammar problem =>
          cases h
          exact ⟨Or.inr (Or.inl rfl), fun _ => ⟨rfl, rfl⟩, nofun, nofun⟩
  | ok command =>
      cases command with
      | nothing =>
          rw [run_idle draws tree asked] at h ⊢
          cases h
          exact ⟨Or.inr (Or.inl rfl), fun _ => ⟨rfl, rfl⟩, nofun, nofun⟩
      | help =>
          rw [run_helping draws tree asked] at h ⊢
          cases h
          exact ⟨Or.inl rfl, nofun, nofun, fun _ _ ho => nomatch ho⟩
      | generate o =>
          have exits : o.Exits draws tree code ((run arguments draws).run tree).1.stdout
              ((run arguments draws).run tree).2 := by
            rw [run_generating draws tree asked] at h ⊢
            exact Order.run_exits (Command.ofArguments_generate asked) h
          generalize ((run arguments draws).run tree).1.stdout = stdout at exits ⊢
          generalize ((run arguments draws).run tree).2 = final at exits ⊢
          cases exits with
          | succeeded ended =>
              refine ⟨Or.inl rfl, nofun, nofun, fun _ o' ho => ?_⟩
              cases ho
              exact ended
          | refused => exact ⟨Or.inr (Or.inl rfl), fun _ => ⟨rfl, rfl⟩, nofun, nofun⟩
          | failed ended => exact ⟨Or.inr (Or.inr rfl), nofun, fun _ => ⟨o, rfl, ended⟩, nofun⟩

/-- A directory whose settings lead to templates of which all but the first of a stack are
missing. -/
def shortOfTemplates : FileTree :=
  ⟨[], [([SettingsFile.usualName], .file "templates_dir: t".toUTF8), (["t"], .directory),
    (["t", "dto.go.j2"], .file "x".toUTF8)]⟩

/-- Where templates are missing, the file of the first one is written and shown. -/
theorem run_shows_first_file :
    ∃ o, Command.ofArguments ["g", "full", "A", "--domain=d"] = .ok (.generate o) ∧
      o.Failed (fun _ _ => 0) shortOfTemplates "  Created: internal/applications/d/dto/a_dto.go\n"
        ((run ["g", "full", "A", "--domain=d"] fun _ _ => 0).run shortOfTemplates).2 := by
  have code : ((run ["g", "full", "A", "--domain=d"] fun _ _ => 0).run
      shortOfTemplates).1.result.toOption = some 2 := by decide +kernel
  have shown : ((run ["g", "full", "A", "--domain=d"] fun _ _ => 0).run shortOfTemplates).1.stdout =
      "  Created: internal/applications/d/dto/a_dto.go\n" := by decide +kernel
  rw [← shown]
  cases result : ((run ["g", "full", "A", "--domain=d"] fun _ _ => 0).run
      shortOfTemplates).1.result with
  | error failure =>
      rw [result] at code
      cases code
  | ok n =>
      rw [result] at code
      cases code
      exact (run_exit_code _ _ _ result).2.2.1 rfl

end CommandLine

end Scaffold
