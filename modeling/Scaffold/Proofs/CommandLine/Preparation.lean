import Scaffold.CommandLine.Run

/-!
# Preparing a generation

What an order comes to before anything is written: a request, settings, a module path and a bundle.
Only the last of them can fail as a generation fails; everything before is a matter of the input.
-/

namespace Scaffold

theorem bind_eq_ok {ε α β : Type} {part : Except ε α} {next : α → Except ε β} {b : β}
    (h : part >>= next = .ok b) : ∃ a, part = .ok a ∧ next a = .ok b := by
  cases part with
  | error e => cases h
  | ok a => exact ⟨a, rfl, h⟩

/-! ## Failures before a generation -/

/-- The part does not fail as a generation fails. -/
def BeforeGeneration {α : Type} (part : Except Failure α) : Prop :=
  ∀ failure, part ≠ .error (.generation failure)

namespace BeforeGeneration

variable {α β : Type}

theorem ok (a : α) : BeforeGeneration (.ok a) := by
  intro failure h
  cases h

theorem input (cause : InputFailure) :
    BeforeGeneration (.error (.input cause) : Except Failure α) := by
  intro failure h
  cases h

theorem invalid (issues : List Issue) :
    BeforeGeneration (.error (.invalid issues) : Except Failure α) := by
  intro failure h
  cases h

theorem fault (fault : Fault) : BeforeGeneration (.error (.fault fault) : Except Failure α) := by
  intro failure h
  cases h

/-- The failure of a part is the failure of what it is a part of. -/
theorem of_error {part : Except Failure α} (h : BeforeGeneration part) {failure : Failure}
    (failed : part = .error failure) : BeforeGeneration (.error failure : Except Failure β) := by
  intro cause he
  cases he
  exact h cause failed

theorem bind {part : Except Failure α} {next : α → Except Failure β}
    (first : BeforeGeneration part) (rest : ∀ a, BeforeGeneration (next a)) :
    BeforeGeneration (part >>= next) := by
  cases part with
  | error failure => exact first.of_error rfl
  | ok a => exact rest a

theorem mapError {ε : Type} (part : Except ε α) {f : ε → Failure}
    (h : ∀ e, BeforeGeneration (.error (f e) : Except Failure α)) :
    BeforeGeneration (part.mapError f) := by
  cases part with
  | error e => exact h e
  | ok a => exact ok a

/-- Files that cannot be read are a matter of the settings. -/
theorem unreadable (path : Path) (fault : DiskFault) :
    BeforeGeneration (.error (Failure.ofDisk
      (fun cause => .input (.config (.unreadable path cause))) fault) : Except Failure α) := by
  cases fault with
  | embeddedNul | tooDeep => exact .fault _
  | os cause => exact .input _

end BeforeGeneration

open BeforeGeneration

theorem ComponentType.parse_before (value : Datum) :
    BeforeGeneration (ComponentType.parse value) := by
  unfold parse
  split
  · split
    · exact .ok _
    · exact .input _
  · split
    · exact .input _
    · exact .fault _

namespace Request

theorem refuseEmpty_before (text : Except Issue String) (failure : InputFailure) :
    BeforeGeneration (refuseEmpty text failure) := by
  unfold refuseEmpty
  split
  · exact .input _
  · exact .ok _

theorem finish_before (type : Except Issue ComponentType) (name domain : Except Issue String)
    (crud : Except Issue Bool) (unexpected : List Issue) :
    BeforeGeneration (finish type name domain crud unexpected) := by
  unfold finish
  split
  · exact .ok _
  · exact .invalid _

theorem ofFields_before (fields : Fields) (type : Except Issue ComponentType) :
    BeforeGeneration (ofFields fields type) :=
  (refuseEmpty_before _ _).bind fun _ => (refuseEmpty_before _ _).bind fun _ =>
    finish_before _ _ _ _ _

theorem ofInput_before (type name domain crud : Datum) :
    BeforeGeneration (ofInput type name domain crud) := by
  unfold ofInput
  split
  · exact .input _
  · split
    · exact .input _
    · unfold build
      split
      · exact (ComponentType.parse_before _).bind fun _ => ofFields_before _ _
      · exact ofFields_before _ _

end Request

namespace SettingsFile

theorem data_before (tree : FileTree) (path : Path) : BeforeGeneration (data tree path) := by
  unfold data
  split
  · exact .unreadable _ _
  · split
    · exact .fault _
    · split
      · exact .ok _
      · exact .input _
      · exact .fault _

theorem read_before (tree : FileTree) (path : Path) : BeforeGeneration (read tree path) :=
  (data_before tree path).bind fun _ =>
    (BeforeGeneration.mapError _ fun _ => .input _).bind fun _ => .ok _

theorem load_before (tree : FileTree) (path? : Option String) (dir : String) :
    BeforeGeneration (load tree path? dir) := by
  have there (path : Path) : BeforeGeneration (isThere tree path) := .mapError _ fun _ => .fault _
  unfold load
  split
  · refine (there _).bind fun found => ?_
    split
    · exact read_before _ _
    · exact .input _
  · refine (there _).bind fun found => ?_
    split
    · exact read_before _ _
    · exact .ok _

end SettingsFile

theorem Settings.override_before (s : Settings) (root : Datum) :
    BeforeGeneration (s.override root) := by
  unfold override
  split
  · exact .ok _
  · exact .mapError _ fun _ => .input _

namespace GoModule

theorem read_before (tree : FileTree) (root : Path) : BeforeGeneration (read tree root) := by
  unfold read
  simp only
  split
  · exact .ok _
  · exact .unreadable _ _
  · split
    · exact .fault _
    · split
      · exact .ok _
      · exact .ok _

theorem resolve_before (tree : FileTree) (s : Settings) : BeforeGeneration (resolve tree s) := by
  have declared : BeforeGeneration (resolve.declaredOrDefault tree s) :=
    (read_before tree s.outputRoot).bind fun _ => .ok _
  unfold resolve
  split
  · split
    · exact .ok _
    · exact declared
  · exact declared

end GoModule

/-! ## Accepted requests -/

namespace Request

theorem finish_ok {type : Except Issue ComponentType} {name domain : Except Issue String}
    {crud : Except Issue Bool} {unexpected : List Issue} {r : Request}
    (h : finish type name domain crud unexpected = .ok r) :
    type = .ok r.type ∧ name = .ok r.name ∧ domain = .ok r.domain := by
  unfold finish at h
  split at h
  · cases h
    exact ⟨rfl, rfl, rfl⟩
  · cases h

/-- A field that is there. -/
theorem readText_of_required {fields : Fields} {name text : String} {value : Datum}
    (given : fields.lookup name = some value)
    (h : fields.required name Fields.readText = .ok text) : Fields.readText value = .ok text := by
  unfold Fields.required at h
  rw [given] at h
  cases read : Fields.readText value with
  | error cause =>
      simp only [read] at h
      cases h
  | ok s =>
      simp only [read] at h
      cases h
      rfl

/-- A request that is accepted names its type in a text and holds the texts of its fields. -/
theorem ofInput_ok {type name domain crud : Datum} {r : Request}
    (h : ofInput type name domain crud = .ok r) :
    (∃ text, type = .text text) ∧ Fields.readText name = .ok r.name ∧
      Fields.readText domain = .ok r.domain := by
  unfold ofInput at h
  split at h
  · cases h
  split at h
  · cases h
  obtain ⟨t, parsed, h⟩ := bind_eq_ok h
  obtain ⟨-, -, h⟩ := bind_eq_ok h
  obtain ⟨-, -, h⟩ := bind_eq_ok h
  obtain ⟨-, hname, hdomain⟩ := finish_ok h
  refine ⟨?_, readText_of_required rfl hname, readText_of_required rfl hdomain⟩
  unfold ComponentType.parse at parsed
  split at parsed
  · exact ⟨_, rfl⟩
  · split at parsed <;> cases parsed

end Request

namespace CommandLine

/-! ## Parts with a log -/

namespace Logged

variable {α β : Type}

/-- A part and what follows it: the first one fails, or the other one goes on from its log. -/
theorem bind_cases {part : Logged α} {next : α → Logged β} {log log' : Log}
    {outcome : Except Failure β} (h : (part >>= next).run.run log = (outcome, log')) :
    (∃ failure, part.run.run log = (.error failure, log') ∧ outcome = .error failure) ∨
      ∃ a between, part.run.run log = (.ok a, between) ∧
        (next a).run.run between = (outcome, log') := by
  rw [ExceptT.run_bind, StateT.run_bind] at h
  cases ran : part.run.run log with
  | mk result between =>
      rw [ran] at h
      cases result with
      | error failure =>
          cases h
          exact Or.inl ⟨failure, rfl, rfl⟩
      | ok a => exact Or.inr ⟨a, between, rfl, h⟩

theorem lift_ok {part : Except Failure (α × Log)} {log log' : Log} {a : α}
    (h : (Logged.lift part).run.run log = (.ok a, log')) : ∃ records, part = .ok (a, records) := by
  cases part with
  | error failure => cases h
  | ok result =>
      cases h
      exact ⟨result.2, rfl⟩

theorem lift_error {part : Except Failure (α × Log)} {log log' : Log} {failure : Failure}
    (h : (Logged.lift part).run.run log = (.error failure, log')) : part = .error failure := by
  cases part <;> cases h
  rfl

end Logged

/-! ## Generating commands -/

theorem Command.ofName_generate {name : String} {arguments before : List String} {o : Order}
    (h : Command.ofName name arguments before = .ok (.generate o)) : ∃ r, o = .ofReading r := by
  unfold Command.ofName at h
  split at h
  case h_1 | h_2 =>
    obtain ⟨r, -, h⟩ := bind_eq_ok h
    obtain ⟨-, -, h⟩ := bind_eq_ok h
    cases h
    exact ⟨r, rfl⟩
  case h_3 =>
    obtain ⟨r, -, h⟩ := bind_eq_ok h
    obtain ⟨-, -, h⟩ := bind_eq_ok h
    cases h
  case h_4 => cases h

/-- What a generating command is told stands in its arguments. -/
theorem Command.ofArguments_generate {arguments : List String} {o : Order}
    (h : Command.ofArguments arguments = .ok (.generate o)) : ∃ r, o = .ofReading r := by
  obtain ⟨r, -, h⟩ := bind_eq_ok h
  split at h
  · exact Command.ofName_generate h
  · obtain ⟨-, -, h⟩ := bind_eq_ok h
    cases h

/-- A value of a command line that reads as a text is one: no value is made of bytes. -/
theorem Reading.value_eq_text {r : Reading} {label text : String} {default : Datum}
    (read : Fields.readText (r.value label default) = .ok text)
    (h : ∀ bytes, default ≠ .bytes bytes) : r.value label default = .text text := by
  unfold Reading.value at *
  split at read
  · unfold oneValue at *
    split at read
    · cases read
      rfl
    · cases read
  · cases default with
    | text s =>
      cases read
      rfl
    | bytes b => exact absurd rfl (h b)
    | _ => cases read

/-! ## Orders -/

namespace Order

/-- What an order comes to: a request, the settings of a file with the output root that is given,
and a module path. -/
structure Settles (o : Order) (tree : FileTree) (request : Request) (s : Settings)
    (module : String) : Prop where
  request : o.request = .ok request
  settings : ∃ path? loaded log, o.configPath = .ok path? ∧
    SettingsFile.load tree path? "." = .ok (loaded, log) ∧ loaded.override o.outputRoot = .ok s
  module : ∃ log, GoModule.resolve tree s = .ok (module, log)

theorem configPath_before (o : Order) : BeforeGeneration o.configPath := by
  unfold configPath
  split
  · exact .ok _
  · exact .ok _
  · exact .fault _

theorem request_before (o : Order) : BeforeGeneration o.request :=
  Request.ofInput_before _ _ _ _

theorem settings_before (tree : FileTree) (o : Order) (log : Log) :
    BeforeGeneration ((o.settings tree).run.run log).1 := by
  cases h : (o.settings tree).run.run log with
  | mk outcome log' =>
      rcases Logged.bind_cases h with ⟨failure, ran, rfl⟩ | ⟨path?, between, -, h⟩
      · exact (configPath_before o).of_error (congrArg Prod.fst ran)
      rcases Logged.bind_cases h with ⟨failure, ran, rfl⟩ | ⟨s, between', -, h⟩
      · exact (SettingsFile.load_before tree path? ".").of_error (Logged.lift_error ran)
      · cases h
        exact Settings.override_before s o.outputRoot

theorem settings_ok {tree : FileTree} {o : Order} {s : Settings} {log log' : Log}
    (h : (o.settings tree).run.run log = (.ok s, log')) :
    ∃ path? loaded records, o.configPath = .ok path? ∧
      SettingsFile.load tree path? "." = .ok (loaded, records) ∧
      loaded.override o.outputRoot = .ok s := by
  rcases Logged.bind_cases h with ⟨_, _, he⟩ | ⟨path?, between, named, h⟩
  · cases he
  rcases Logged.bind_cases h with ⟨_, _, he⟩ | ⟨loaded, between', read, h⟩
  · cases he
  obtain ⟨records, read⟩ := Logged.lift_ok read
  exact ⟨path?, loaded, records, congrArg Prod.fst named, read, congrArg Prod.fst h⟩

theorem run_bundle (tree : FileTree) (s : Settings) (log : Log) :
    ((bundle tree s).run.run log).1 = Bundle.ofOptional tree s.templatesDir := by
  cases h : (bundle tree s).run.run log with
  | mk outcome log' =>
      rcases Logged.bind_cases h with ⟨failure, ran, rfl⟩ | ⟨b, between, ran, rest⟩
      · exact (congrArg Prod.fst ran).symm
      · cases rest
        exact (congrArg Prod.fst ran).symm

/-- Preparing an order fails before it comes to the bundle, or ends as reading the bundle does. -/
theorem prepare_cases {tree : FileTree} {o : Order} {draws : Path → Template.Draws}
    {outcome : Except Failure (Generator × Request)} {log : Log}
    (h : (o.prepare tree draws).run.run [] = (outcome, log)) :
    (∃ failure, outcome = .error failure ∧ BeforeGeneration outcome) ∨
      ∃ request settings module, o.Settles tree request settings module ∧
        outcome = (Bundle.ofOptional tree settings.templatesDir).map fun bundle =>
          (⟨bundle, settings.outputRoot, module, draws⟩, request) := by
  -- One part after the other: each of the first three ends it all or hands its result on.
  rcases Logged.bind_cases h with ⟨failure, ran, rfl⟩ | ⟨request, between, ran, h⟩
  · exact Or.inl ⟨failure, rfl, o.request_before.of_error (congrArg Prod.fst ran)⟩
  obtain ⟨requested, rfl⟩ := Prod.mk.inj ran
  rcases Logged.bind_cases h with ⟨failure, ran, rfl⟩ | ⟨s, between, settled, h⟩
  · have before := settings_before tree o []
    rw [ran] at before
    exact Or.inl ⟨failure, rfl, before.of_error rfl⟩
  rcases Logged.bind_cases h with ⟨failure, ran, rfl⟩ | ⟨module, between', resolved, h⟩
  · exact Or.inl ⟨failure, rfl, (GoModule.resolve_before tree s).of_error (Logged.lift_error ran)⟩
  -- All is settled; what is left ends as reading the bundle does.
  refine Or.inr ⟨request, s, module, ⟨requested, settings_ok settled, Logged.lift_ok resolved⟩, ?_⟩
  rcases Logged.bind_cases h with ⟨failure, ran, rfl⟩ | ⟨u, noted, -, h⟩
  · cases ran
  have read := run_bundle tree s noted
  rcases Logged.bind_cases h with ⟨failure, ran, rfl⟩ | ⟨b, end', ran, h⟩
  · rw [ran] at read
    rw [← read]
    rfl
  · cases h
    rw [ran] at read
    rw [← read]
    rfl

/-- An order that leads to a request was given as texts. -/
theorem texts_of_request {o : Order} (asked : ∃ r, o = .ofReading r) {request : Request}
    (h : o.request = .ok request) :
    ∃ type, o.type = .text type ∧ o.name = .text request.name ∧
      o.domain = .text request.domain := by
  obtain ⟨r, rfl⟩ := asked
  obtain ⟨⟨type, htype⟩, hname, hdomain⟩ := Request.ofInput_ok h
  refine ⟨type, htype, ?_, ?_⟩
  · exact Reading.value_eq_text hname (fun _ hb => nomatch hb)
  · exact Reading.value_eq_text hdomain (fun _ hb => nomatch hb)

end Order

end CommandLine

end Scaffold
