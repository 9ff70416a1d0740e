import Scaffold.CommandLine.Command
import Scaffold.FailureKind
import Scaffold.Generate
import Scaffold.GoModule
import Scaffold.SettingsFile

/-!
# Running the program

What a command line does to the files, and what it shows.  Results do not depend on how much of the
log is shown.
-/

namespace Scaffold.CommandLine

/-! ## Exit codes -/

def success : Nat := 0

def inputError : Nat := 1

def generationError : Nat := 2

/-- How a run ends: with an exit code, or with a failure that nobody takes care of; what it writes to
standard output; its log; and what it writes to standard error behind the log. -/
structure Ending where
  result : Except Failure Nat
  stdout : String
  log : Log
  notice : String

namespace Ending

def ofText (code : Nat) (text : String) : Ending := ⟨.ok code, text, [], ""⟩

def ofNotice (code : Nat) (notice : String) : Ending := ⟨.ok code, "", [], notice⟩

/-- The end of a command line that is answered before any command runs. -/
def ofHalt : Halt → Ending
  | .print text => ofText success text
  | .refuse g p => ofNotice inputError (g.usage ++ s!"{g.program}: error: {p.message}\n")

/-- The end of a run that failed. -/
def ofFailure (stdout : String) (log : Log) (failure : Failure) : Ending :=
  let notice := s!"Error: {failure.message}\n"
  match failure with
  | .input _ => ⟨.ok inputError, stdout, log, notice⟩
  | .generation _ => ⟨.ok generationError, stdout, log, notice⟩
  | failure => ⟨.error failure, stdout, log, ""⟩

def stderr (e : Ending) (v : Verbosity) : String := e.log.text v ++ e.notice

end Ending

/-! ## Generation -/

/-- What can fail, with a log of what came before. -/
abbrev Logged := ExceptT Failure (StateM Log)

def Logged.note (records : Log) : Logged Unit := modify (· ++ records)

/-- The log of a part that succeeds. -/
def Logged.lift (part : Except Failure (α × Log)) : Logged α := do
  match part with
  | .ok (a, records) =>
      note records
      return a
  | .error failure => throw failure

namespace Order

def request (o : Order) : Except Failure Request :=
  Request.ofInput o.type o.name o.domain (.bool o.crud)

/-- The path of the settings file, if one is named. -/
def configPath (o : Order) : Except Failure (Option String) :=
  match o.config with
  | .null => .ok none
  | .text path => .ok (some path)
  | other => .error (.fault (.badCall
      s!"expected str, bytes or os.PathLike object, not {other.typeName}"))

/-- The settings of an order: those of the settings file, with the output root that is given. -/
def settings (tree : FileTree) (o : Order) : Logged Settings := do
  let settings ← Logged.lift (SettingsFile.load tree (← o.configPath) ".")
  settings.override o.outputRoot

/-- The bundle of settings. -/
def bundle (tree : FileTree) (s : Settings) : Logged Bundle := do
  let bundle ← Bundle.ofOptional tree s.templatesDir
  Logged.note [.ofPart .debug "templates"
    s!"Loaded {bundle.sources.length} templates from {bundle.origin}"]
  return bundle

/-- The generator and the request of an order; nothing is written. -/
def prepare (tree : FileTree) (o : Order) (draws : Path → Template.Draws) :
    Logged (Generator × Request) := do
  let request ← o.request
  let settings ← o.settings tree
  let module ← Logged.lift (GoModule.resolve tree settings)
  Logged.note [.ofCommand .info s!"Output root: {settings.outputRoot}",
    .ofCommand .info s!"Module path: {module}"]
  return (⟨← bundle tree settings, settings.outputRoot, module, draws⟩, request)

def createdLine (step : Step) : String := s!"  Created: {step.path}\n"

/-- What is shown when everything has been generated. -/
def closing (o : Order) (request : Request) (report : Report) : String :=
  (if request.type = .full then report.summary ++ "\n" else "")
    ++ s!"✓ Generated {o.type.display}: {o.name.display} in domain {o.domain.display}\n"

/-- Carry out an order, with the numbers that the templates may draw at random. -/
def run (o : Order) (draws : Path → Template.Draws) : StateM FileTree Ending := do
  match (o.prepare (← get) draws).run.run [] with
  | (.error failure, log) => return .ofFailure "" log failure
  | (.ok (generator, request), log) =>
    let (steps, result, records) ← generate generator request
    let created := String.join (steps.map createdLine)
    match result with
    | .error failure => return .ofFailure created (log ++ records) failure
    | .ok report => return ⟨.ok success, created ++ o.closing request report, log ++ records, ""⟩

end Order

/-! ## The program -/

/-- How a run ends, and what it shows. -/
structure Outcome where
  result : Except Failure Nat
  stdout : String
  stderr : String

def Ending.outcome (e : Ending) (v : Verbosity) : Outcome := ⟨e.result, e.stdout, e.stderr v⟩

/-- Run the program with its arguments. -/
def run (arguments : List String) (draws : Path → Template.Draws) :
    StateM FileTree Outcome := do
  match Command.ofArguments arguments with
  | .error halt => return (Ending.ofHalt halt).outcome .silent
  | .ok .nothing => return (Ending.ofNotice inputError Top.help).outcome .silent
  | .ok .help => return (Ending.ofText success Top.help).outcome .silent
  | .ok (.generate order) => return (← order.run draws).outcome order.verbosity

end Scaffold.CommandLine
