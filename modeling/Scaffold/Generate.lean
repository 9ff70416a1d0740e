import Scaffold.Log
import Scaffold.Plan
import Scaffold.Render
import Scaffold.Timer

/-!
# Generation

The steps of a plan are rendered in order up to the first one that fails.  Files of earlier steps
stay.
-/

namespace Scaffold

/-- Where templates come from and where files go.  The draws are the numbers that the templates may
draw at random, for each file that is written. -/
structure Generator where
  bundle : Bundle
  outputRoot : Path
  modulePath : String
  draws : Path → Template.Draws

/-- The steps that were completed, and the step that failed with its failure. -/
structure Attempt where
  completed : List Step
  failed? : Option (Step × Failure)

/-- What a successful generation wrote. -/
structure Report where
  written : List Path
  kinds : List ComponentKind
  deriving DecidableEq, Repr

namespace Report

def totalFiles (r : Report) : Nat := r.written.length

/-- The summary of a full stack. -/
def summary (r : Report) : String :=
  "\n".intercalate ("✓ Complete stack generated:" :: r.kinds.map fun kind => "  - " ++ kind.label)

def ofSteps (steps : List Step) : Report := ⟨steps.map (·.path), steps.map (·.kind)⟩

end Report

namespace Generator

def fillData (g : Generator) (r : Request) : FillData := .ofRequest r g.modulePath

/-- The steps for a request; neither templates nor files are looked at. -/
def plan (g : Generator) (r : Request) : List Step :=
  Scaffold.plan g.outputRoot r.type (g.fillData r)

/-- Render steps in order, up to the first failure. -/
def renderAll (g : Generator) (data : FillData) : List Step → StateM FileTree Attempt
  | [] => pure ⟨[], none⟩
  | step :: rest => do
      match ← (render g.bundle step.resource step.path data.context (g.draws step.path)).run with
      | .error failure => pure ⟨[], some (step, failure)⟩
      | .ok () =>
          let attempt ← g.renderAll data rest
          pure { attempt with completed := step :: attempt.completed }

/-- Try all steps for a request. -/
def attempt (g : Generator) (r : Request) : StateM FileTree Attempt :=
  g.renderAll (g.fillData r) (g.plan r)

end Generator

namespace Attempt

/-- The result as a whole. -/
def result (a : Attempt) : Except Failure Report :=
  match a.failed? with
  | some (_, failure) => .error failure
  | none => .ok (.ofSteps a.completed)

/-- The directories above the file of a failed step are there. -/
def madeParents (step : Step) : Failure → Bool
  | .generation f => f.stage = .createFile || f.stage = .executeTemplate
  | .fault .embeddedNul => !FileTree.hasNul step.path.parent
  | _ => false

def parentsRecord (step : Step) : Record :=
  .ofPart .debug "utils" s!"Ensured directory exists: {step.path.parent}"

/-- The records of a completed step. -/
def stepLog (step : Step) : Log :=
  [parentsRecord step, .ofPart .debug "templates" s!"Rendered {step.resource} → {step.path}",
    .ofPart .info "generator" s!"Created {step.path}"]

/-- The records of an attempt to serve a request by so many steps. -/
def log (a : Attempt) (r : Request) (steps : Nat) : Log :=
  let start := s!"Generating {r.type.name} for {Text.quote r.name} in domain"
    ++ s!" {Text.quote r.domain} ({steps} file(s))."
  let failed := match a.failed? with
    | some (step, failure) => if madeParents step failure then [parentsRecord step] else []
    | none => []
  [.ofPart .info "generator" start] ++ a.completed.flatMap stepLog ++ failed ++
    [.ofPart .debug "utils" (Timer.mk s!"generate {r.type.name}").message]

end Attempt

/-- Serve a request: the steps that were completed, and a report or a failure. -/
def generate (g : Generator) (r : Request) :
    StateM FileTree (List Step × Except Failure Report × Log) := do
  if r.domain = "" then pure ([], .error (.input .missingDomain), [])
  else
    let attempt ← g.attempt r
    pure (attempt.completed, attempt.result, attempt.log r (g.plan r).length)

end Scaffold
