import Scaffold.Proofs.CommandLine.ExitCodes
import Scaffold.Proofs.CommandLine.Mentions

/-!
# Verbosity

How much of the log is shown has no bearing on what a run does.  Without the log, standard error
holds nothing but the failure that ended the run.
-/

namespace Scaffold

/-! ## Without the log -/

theorem Log.text_silent (log : Log) : Log.text log .silent = "" := by
  have shown : log.filter Verbosity.silent.shows = [] := by
    simp [Verbosity.shows]
  rw [Log.text, shown]
  rfl

namespace CommandLine

theorem Ending.stderr_silent (e : Ending) : e.stderr .silent = e.notice := by
  rw [stderr, Log.text_silent, String.empty_append]

/-- What a run says of what it came to, by its exit code and beside its log: nothing of a success,
and one line of a failure that has an exit code. -/
inductive Tells : Except Failure Report → Except Failure Nat → String → Prop
  | success (report : Report) : Tells (.ok report) (.ok 0) ""
  | input (cause : InputFailure) :
      Tells (.error (.input cause)) (.ok 1) ("Error: " ++ cause.message ++ "\n")
  | generation (failure : GenerationFailure) :
      Tells (.error (.generation failure)) (.ok 2) ("Error: " ++ failure.message ++ "\n")
  | invalid (issues : List Issue) (text : String) :
      Tells (.error (.invalid issues)) (.error (.invalid issues)) text
  | fault (fault : Fault) (text : String) :
      Tells (.error (.fault fault)) (.error (.fault fault)) text

theorem Ending.ofFailure_tells (stdout : String) (log : Log) (failure : Failure) :
    Tells (.error failure) (ofFailure stdout log failure).result
      (ofFailure stdout log failure).notice := by
  cases failure with
  | input cause => exact .input cause
  | generation failure => exact .generation failure
  | invalid issues => exact .invalid issues _
  | fault fault => exact .fault fault _

namespace Order

/-- What an order comes to: a report, or the first failure. -/
def comesTo (o : Order) (draws : Path → Template.Draws) (tree : FileTree) :
    Except Failure Report := do
  let (generator, request) ← ((o.prepare tree draws).run.run []).1
  ((generate generator request).run tree).1.2.1

theorem run_tells (o : Order) (draws : Path → Template.Draws) (tree : FileTree) :
    Tells (o.comesTo draws tree) ((o.run draws).run tree).1.result
      ((o.run draws).run tree).1.notice := by
  cases prepared : (o.prepare tree draws).run.run [] with
  | mk outcome log =>
    cases outcome with
    | error failure =>
        have came : o.comesTo draws tree = .error failure := by
          rw [comesTo, prepared]
          rfl
        rw [came, run_unprepared prepared]
        exact Ending.ofFailure_tells "" log failure
    | ok ready =>
        obtain ⟨generator, request⟩ := ready
        obtain ⟨steps, result, records, final, served⟩ : ∃ steps result records final,
            (generate generator request).run tree = ((steps, result, records), final) :=
          ⟨_, _, _, _, rfl⟩
        have came : o.comesTo draws tree = result := by
          rw [comesTo, prepared]
          exact congrArg (·.1.2.1) served
        rw [came, run_served prepared served]
        cases result with
        | error failure => exact Ending.ofFailure_tells _ _ failure
        | ok report => exact .success report

/-! ## Orders that agree -/

/-- The orders ask for the same, and differ at most in what is shown of the log. -/
structure Agrees (o o' : Order) : Prop where
  type : o.type = o'.type
  name : o.name = o'.name
  domain : o.domain = o'.domain
  crud : o.crud = o'.crud
  outputRoot : o.outputRoot = o'.outputRoot
  config : o.config = o'.config

namespace Agrees

variable {o o' : Order}

theorem request (h : o.Agrees o') : o.request = o'.request := by
  rw [Order.request, Order.request, h.type, h.name, h.domain, h.crud]

theorem configPath (h : o.Agrees o') : o.configPath = o'.configPath := by
  rw [Order.configPath, Order.configPath, h.config]

theorem settings (h : o.Agrees o') (tree : FileTree) : o.settings tree = o'.settings tree := by
  rw [Order.settings, Order.settings, h.configPath, h.outputRoot]

theorem prepare (h : o.Agrees o') (tree : FileTree) : o.prepare tree = o'.prepare tree := by
  funext draws
  rw [Order.prepare, Order.prepare, h.request, h.settings]

theorem closing (h : o.Agrees o') : o.closing = o'.closing := by
  funext request report
  rw [Order.closing, Order.closing, h.type, h.name, h.domain]

theorem run (h : o.Agrees o') : o.run = o'.run := by
  funext draws
  simp only [Order.run, h.prepare, h.closing]

end Agrees

end Order

/-! ## Command lines -/

/-- Runs end alike up to the log: the result, standard output and the files are the same. -/
structure EndsAlike (ran ran' : Outcome × FileTree) : Prop where
  result : ran.1.result = ran'.1.result
  stdout : ran.1.stdout = ran'.1.stdout
  files : ran.2 = ran'.2

namespace EndsAlike

theorem refl (ran : Outcome × FileTree) : EndsAlike ran ran := ⟨rfl, rfl, rfl⟩

theorem trans {ran ran' ran'' : Outcome × FileTree} (h : EndsAlike ran ran')
    (h' : EndsAlike ran' ran'') : EndsAlike ran ran'' :=
  ⟨h.result.trans h'.result, h.stdout.trans h'.stdout, h.files.trans h'.files⟩

end EndsAlike

/-- What command lines ask for is the same, but perhaps for what is shown of the log. -/
inductive Command.Agrees : Except Halt Command → Except Halt Command → Prop
  | same (asked : Except Halt Command) : Agrees asked asked
  | generate {o o' : Order} (h : o.Agrees o') : Agrees (.ok (.generate o)) (.ok (.generate o'))

theorem run_endsAlike {arguments arguments' : List String}
    (agree : Command.Agrees (Command.ofArguments arguments) (Command.ofArguments arguments'))
    (draws : Path → Template.Draws) (tree : FileTree) :
    EndsAlike ((run arguments draws).run tree) ((run arguments' draws).run tree) := by
  generalize asked : Command.ofArguments arguments = command at agree
  generalize asked' : Command.ofArguments arguments' = command' at agree
  cases agree with
  | same =>
      rw [run, run, asked, asked']
      exact .refl _
  | generate h =>
      rw [run_generating draws tree asked, run_generating draws tree asked', h.run]
      exact ⟨rfl, rfl, rfl⟩

/-- Without the log a run says on standard error only what there is to say of its end. -/
theorem run_quietly {arguments : List String} {o : Order}
    (asked : Command.ofArguments arguments = .ok (.generate o)) (quiet : o.verbosity = .silent)
    (draws : Path → Template.Draws) (tree : FileTree) :
    Tells (o.comesTo draws tree) ((run arguments draws).run tree).1.result
      ((run arguments draws).run tree).1.stderr := by
  rw [run_generating draws tree asked]
  change Tells _ _ (((o.run draws).run tree).1.stderr o.verbosity)
  rw [quiet, Ending.stderr_silent]
  exact o.run_tells draws tree

/-! ## Flags in front -/

/-- The options that say how much of the log is shown, by all their names. -/
def logFlags : List String := Generate.verbose.names ++ Generate.quiet.names

/-- To its command such a flag is a mention, and to the program an option that it does not know. -/
theorem mentions_of_mem_logFlags {flag : String} (h : flag ∈ logFlags) :
    (∃ o, Generate.grammar.Mentions flag o ∧ (o = Generate.verbose ∨ o = Generate.quiet)) ∧
      ∃ meaning, Top.grammar.meaning? flag = .ok (some meaning) := by
  simp only [logFlags, Generate.verbose, Generate.quiet, List.cons_append, List.nil_append,
    List.mem_cons, List.not_mem_nil, or_false] at h
  rcases h with rfl | rfl | rfl | rfl
  · exact ⟨⟨Generate.verbose, ⟨by decide, ⟨true, rfl⟩, rfl⟩, Or.inl rfl⟩, _, rfl⟩
  · exact ⟨⟨Generate.verbose, ⟨by decide, ⟨false, rfl⟩, rfl⟩, Or.inl rfl⟩, _, rfl⟩
  · exact ⟨⟨Generate.quiet, ⟨by decide, ⟨true, rfl⟩, rfl⟩, Or.inr rfl⟩, _, rfl⟩
  · exact ⟨⟨Generate.quiet, ⟨by decide, ⟨false, rfl⟩, rfl⟩, Or.inr rfl⟩, _, rfl⟩

/-- Such a mention leaves what else an order says as it is. -/
theorem Order.agrees_behind {o : OptionSpec} (h : o = Generate.verbose ∨ o = Generate.quiet)
    (r : Reading) : (ofReading (r.behind [⟨o.label, []⟩])).Agrees (ofReading r) := by
  have other (label : String) (hne : label ≠ Generate.verbose.label ∧ label ≠ Generate.quiet.label) :
      ∀ f ∈ [(⟨o.label, []⟩ : Finding)], f.label ≠ label := by
    intro f hf
    rw [List.mem_singleton.mp hf]
    rcases h with rfl | rfl
    · exact hne.1.symm
    · exact hne.2.symm
  constructor
  case type => exact r.value_behind (other _ (by decide)) _
  case name => exact r.value_behind (other _ (by decide)) _
  case domain => exact r.value_behind (other _ (by decide)) _
  case crud => rw [ofReading, ofReading, r.count_behind (other _ (by decide))]
  case outputRoot => exact r.value_behind (other _ (by decide)) _
  case config => exact r.value_behind (other _ (by decide)) _

namespace Command

theorem ofName_generating {name : String} (h : name = "generate" ∨ name = "g")
    (arguments before : List String) :
    ofName name arguments before =
      (Generate.grammar.read arguments).mapError (.ofStop Generate.grammar) >>= fun r =>
        refuseSurplus (before ++ r.surplus) >>= fun _ => .ok (.generate (.ofReading r)) := by
  rcases h with rfl | rfl <;> rfl

/-- With a flag in front of its arguments a generating command asks for the same. -/
theorem ofArguments_flag {name flag : String} (generating : name = "generate" ∨ name = "g")
    (h : flag ∈ logFlags) (rest : List String) :
    Agrees (ofArguments (name :: flag :: rest)) (ofArguments (name :: rest)) := by
  obtain ⟨⟨o, mention, shows⟩, meaning, option⟩ := mentions_of_mem_logFlags h
  have word : name ≠ separatorText ∧ Top.grammar.meaning? name = .ok none := by
    rcases generating with rfl | rfl <;> exact ⟨by decide, rfl⟩
  rw [ofArguments_option word.1 word.2 mention.plain option, ofArguments_named word.1 word.2]
  cases Top.grammar.items rest with
  | error problem => exact .same _
  | ok items =>
    change Agrees (ofName name (flag :: rest) []) (ofName name rest [])
    rw [ofName_generating generating, ofName_generating generating, mention.read_cons]
    cases Generate.grammar.read rest with
    | error stop => exact .same _
    | ok r =>
      change Agrees (refuseSurplus r.surplus >>= _) (refuseSurplus r.surplus >>= _)
      cases refuseSurplus r.surplus with
      | error halt => exact .same _
      | ok _ => exact .generate (Order.agrees_behind shows r)

end Command

/-- Flags for the log, put in front of the arguments of a generating command, change nothing of how
it ends. -/
theorem run_flags {name : String} (generating : name = "generate" ∨ name = "g")
    {flags : List String} (h : ∀ flag ∈ flags, flag ∈ logFlags) (rest : List String)
    (draws : Path → Template.Draws) (tree : FileTree) :
    EndsAlike ((run (name :: (flags ++ rest)) draws).run tree)
      ((run (name :: rest) draws).run tree) := by
  induction flags with
  | nil => exact .refl _
  | cons flag more ih =>
      obtain ⟨hflag, hmore⟩ := List.forall_mem_cons.mp h
      have alike := Command.ofArguments_flag generating hflag (more ++ rest)
      exact (run_endsAlike alike draws tree).trans (ih hmore)

/-! ## More of the log, or none -/

/-- Command lines whose arguments differ only in how often they ask for more of the log and in
whether they ask for none of it end alike; and if one asks for none, its standard error holds
nothing but the failure. -/
theorem run_verbosity {arguments arguments' : List String} {r r' : Reading}
    (asked : Command.ofArguments arguments = .ok (.generate (.ofReading r)))
    (asked' : Command.ofArguments arguments' = .ok (.generate (.ofReading r')))
    (agree : (Order.ofReading r).Agrees (.ofReading r')) (draws : Path → Template.Draws)
    (tree : FileTree) :
    ((run arguments draws).run tree).1.result = ((run arguments' draws).run tree).1.result ∧
    ((run arguments draws).run tree).1.stdout = ((run arguments' draws).run tree).1.stdout ∧
    ((run arguments draws).run tree).2 = ((run arguments' draws).run tree).2 ∧
    (0 < r.count Generate.quiet.label →
      Tells ((Order.ofReading r).comesTo draws tree) ((run arguments draws).run tree).1.result
        ((run arguments draws).run tree).1.stderr) := by
  have agree : Command.Agrees (Command.ofArguments arguments) (Command.ofArguments arguments') := by
    rw [asked, asked']
    exact .generate agree
  obtain ⟨result, stdout, files⟩ := run_endsAlike agree draws tree
  refine ⟨result, stdout, files, fun mentioned => run_quietly asked ?_ draws tree⟩
  rw [Order.ofReading, decide_eq_true mentioned]
  rfl

/-- A run that stops for want of a template: without the log it says so in one line, and with all of
the log it ends alike. -/
theorem run_verbosity_stopped :
    ∃ r, Command.ofArguments ["g", "full", "A", "-q", "--domain=d"] =
        .ok (.generate (.ofReading r)) ∧ 0 < r.count Generate.quiet.label ∧
      Tells ((Order.ofReading r).comesTo (fun _ _ => 0) shortOfTemplates)
        ((run ["g", "full", "A", "-q", "--domain=d"] fun _ _ => 0).run shortOfTemplates).1.result
        "Error: failed to read template validator.go.j2: no such template in t\n" ∧
      ((run ["g", "full", "A", "-q", "--domain=d"] fun _ _ => 0).run shortOfTemplates).1.stdout =
        ((run ["g", "-vv", "full", "A", "--domain=d"] fun _ _ => 0).run shortOfTemplates).1.stdout ∧
      ((run ["g", "full", "A", "-q", "--domain=d"] fun _ _ => 0).run shortOfTemplates).1.stderr ≠
        ((run ["g", "-vv", "full", "A", "--domain=d"] fun _ _ => 0).run
          shortOfTemplates).1.stderr := by
  have quiet : Command.ofArguments ["g", "full", "A", "-q", "--domain=d"] =
      .ok (.generate (.ofReading ⟨[⟨"<type>", ["full"]⟩, ⟨"<name>", ["A"]⟩, ⟨"-q/--quiet", []⟩,
        ⟨"--domain", ["d"]⟩], []⟩)) := rfl
  have loud : Command.ofArguments ["g", "-vv", "full", "A", "--domain=d"] =
      .ok (.generate (.ofReading ⟨[⟨"-v/--verbose", []⟩, ⟨"-v/--verbose", []⟩,
        ⟨"<type>", ["full"]⟩, ⟨"<name>", ["A"]⟩, ⟨"--domain", ["d"]⟩], []⟩)) := rfl
  obtain ⟨-, stdout, -, tells⟩ :=
    run_verbosity quiet loud ⟨rfl, rfl, rfl, rfl, rfl, rfl⟩ _ shortOfTemplates
  have mentioned : 0 < Reading.count ⟨[⟨"<type>", ["full"]⟩, ⟨"<name>", ["A"]⟩,
      ⟨"-q/--quiet", []⟩, ⟨"--domain", ["d"]⟩], []⟩ Generate.quiet.label := by
    decide
  have told := tells mentioned
  have line : ((run ["g", "full", "A", "-q", "--domain=d"] fun _ _ => 0).run
      shortOfTemplates).1.stderr =
        "Error: failed to read template validator.go.j2: no such template in t\n" := by
    decide +kernel
  rw [line] at told ⊢
  refine ⟨_, quiet, mentioned, told, stdout, ?_⟩
  decide +kernel

end CommandLine

end Scaffold
