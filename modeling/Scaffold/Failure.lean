import Scaffold.Component
import Scaffold.FileTree
import Scaffold.Issue
import Scaffold.Template.Value
import Scaffold.Yaml.Trouble

/-!
# Failures

Everything that can go wrong, as causes.  A request is refused before anything is written; a
generation fails at one stage of one file.  Other failures belong to neither group: nobody took
care of them where they arose.
-/

namespace Scaffold

/-! ## Refused requests -/

inductive ConfigCause where
  | notFound (path : Path)
  | unreadable (path : Path) (cause : OsError)
  | notYaml (path : Path)
  | notMapping (path : Path) (typeName : String)
  | badSettings (path : Path) (issues : List Issue)
  | badRoot (root : Datum) (issues : List Issue)

def ConfigCause.message : ConfigCause → String
  | notFound path => s!"config file not found: {path}"
  | unreadable path cause => s!"cannot read {path}: {cause.messageAt path}"
  | notYaml path => s!"invalid YAML in {path}"
  | notMapping path typeName =>
      s!"expected a YAML mapping at top level of {path}, got {typeName}"
  | badSettings path _ => s!"invalid settings in {path}"
  | badRoot root issues =>
      let first := match issues with
        | issue :: _ => issue.cause.message
        | [] => ""
      s!"invalid output root {root.literal}: {first}"

inductive InputFailure where
  | missingDomain
  | missingName
  | unknownType (value : Datum)
  | config (cause : ConfigCause)

def unknownTypeMessage (value : String) (known : List String) : String :=
  let expected := ", ".intercalate known
  s!"unknown type: {value}" ++
    (if known.isEmpty then "" else s!" (expected one of: {expected})")

def InputFailure.message : InputFailure → String
  | missingDomain => "domain is required (use --domain=<domain>)"
  | missingName => "entity name is required"
  | unknownType value => unknownTypeMessage value.display (ComponentType.all.map (·.name))
  | config cause => cause.message

/-! ## Failed generations -/

/-- The stages of writing one file. -/
inductive Stage where
  | readTemplate
  | parseTemplate
  | createDirectory
  | createFile
  | executeTemplate
  deriving DecidableEq, Repr

/-- What a stage does. -/
def Stage.action : Stage → String
  | readTemplate => "read template"
  | parseTemplate => "parse template"
  | createDirectory => "create directory"
  | createFile => "create file"
  | executeTemplate => "execute template"

inductive Reason where
  | noTemplate (origin : String)
  | notDirectory
  | os (cause : OsError)
  | osAt (path : Path) (cause : OsError)
  | notText (fault : Text.Utf8Fault)
  | syntaxFault (fault : Template.TemplateFault)
  | trouble (trouble : Template.Trouble)
  deriving DecidableEq, Repr

def Reason.message : Reason → String
  | noTemplate origin => s!"no such template in {origin}"
  | notDirectory => "not a directory"
  | os cause => cause.message
  | osAt path cause => cause.messageAt path
  | notText fault => fault.message
  | syntaxFault fault => s!"line {fault.line}: {fault.message}"
  | trouble t => t.message

/-- A stage that failed, for the resource or the path that it was about. -/
structure GenerationFailure where
  stage : Stage
  target : String
  reason : Reason
  deriving DecidableEq, Repr

def failedTo (action target : String) : String := s!"failed to {action} {target}"

def GenerationFailure.message (f : GenerationFailure) : String :=
  failedTo f.stage.action f.target ++ ": " ++ f.reason.message

/-! ## Failures outside the two groups -/

inductive Fault where
  | embeddedNul
  /-- Calls that are nested too deep. -/
  | tooDeep
  /-- What no program was made for, though it is no fault of the template. -/
  | uncompiled (cause : Template.Escape)
  | notKind (value : Datum)
  | notType (value : Datum)
  | unhashable (typeName : String)
  | osAt (path : Path) (cause : OsError)
  | notUtf8 (fault : Text.Utf8Fault)
  | noKey (key : Datum)
  | notAssignable
  /-- A scalar that holds less than its tag promises. -/
  | noData (trouble : Yaml.Trouble)
  | badCall (message : String)

def Fault.message : Fault → String
  | embeddedNul => "embedded null byte"
  | tooDeep => "maximum recursion depth exceeded while calling a Python object"
  | uncompiled cause => cause.message
  | notKind value => s!"{value.literal} is not a valid ComponentKind"
  | notType value => s!"{value.literal} is not a valid ComponentType"
  | unhashable typeName => s!"unhashable type: '{typeName}'"
  | osAt path cause => cause.messageAt path
  | notUtf8 fault => fault.message
  | noKey key => key.literal
  | notAssignable => "'TemplateBundle' object does not support item assignment"
  | noData trouble => trouble.message
  | badCall message => message

inductive Failure where
  | input (cause : InputFailure)
  | generation (failure : GenerationFailure)
  | invalid (issues : List Issue)
  | fault (fault : Fault)

namespace Failure

def ofDisk (onOs : OsError → Failure) : DiskFault → Failure
  | .embeddedNul => .fault .embeddedNul
  | .os cause => onOs cause
  | .tooDeep => .fault .tooDeep

end Failure

end Scaffold
