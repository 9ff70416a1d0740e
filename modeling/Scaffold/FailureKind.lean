import Scaffold.Failure

/-!
# Kinds of failure

The kinds form a tree: each but the most general one belongs to a wider kind.  A failure of a kind
is made from a list of values, as many as the kind takes.
-/

namespace Scaffold

inductive FailureKind where
  | any
  | input
  | missingDomain
  | missingName
  | unknownType
  | config
  | generation
  | stage (stage : Stage)
  deriving DecidableEq, Repr

namespace FailureKind

def name : FailureKind → String
  | any => "IchigenError"
  | input => "InputError"
  | missingDomain => "MissingDomainError"
  | missingName => "MissingNameError"
  | unknownType => "UnknownTypeError"
  | config => "ConfigError"
  | generation => "GenerationError"
  | stage .readTemplate => "ResourceReadError"
  | stage .parseTemplate => "TemplateParseError"
  | stage .createDirectory => "DirectoryCreateError"
  | stage .createFile => "FileCreateError"
  | stage .executeTemplate => "TemplateExecError"

def all : List FailureKind :=
  [any, input, missingDomain, missingName, unknownType, config, generation,
    stage .readTemplate, stage .parseTemplate, stage .createDirectory, stage .createFile,
    stage .executeTemplate]

def ofName? (name : String) : Option FailureKind := all.find? fun kind => kind.name = name

/-- The kind itself and the wider ones it belongs to. -/
def lineage : FailureKind → List FailureKind
  | any => [any]
  | input => [input, any]
  | missingDomain => [missingDomain, input, any]
  | missingName => [missingName, input, any]
  | unknownType => [unknownType, input, any]
  | config => [config, input, any]
  | generation => [generation, any]
  | stage s => [stage s, generation, any]

/-- What a failed generation was about to do. -/
def action? : FailureKind → Option String
  | generation => some "generate"
  | stage s => some s.action
  | _ => none

/-- What a failure of a kind tells. -/
structure Notice where
  message : String
  target? : Option String
  value? : Option Datum

/-- A failure with a message alone, or with several values shown together. -/
def plainMessage : List Datum → String
  | [] => ""
  | [d] => d.display
  | values => "(" ++ ", ".intercalate (values.map Datum.literal) ++ ")"

def badCount (kind : FailureKind) (message : String) : Fault :=
  .badCall s!"{kind.name}.__init__() {message}"

/-- The names of the known types, out of a list or the characters of a text. -/
def knownNames : Datum → Except Fault (List String)
  | .text s => .ok (s.toList.map fun c => String.singleton c)
  | .list items => items.zipIdx.mapM fun
    | (.text s, _) => .ok s
    | (d, i) => .error (.badCall
        s!"sequence item {i}: expected str instance, {d.typeName} found")
  | .dict entries => entries.mapM fun
    | (.text s, _) => .ok s
    | (d, _) => .error (.badCall
        s!"sequence item 0: expected str instance, {d.typeName} found")
  | _ => .error (.badCall "can only join an iterable")

/-- A failure of a kind from some values. -/
def notice (kind : FailureKind) (args : List Datum) : Except Fault Notice :=
  let given := args.length + 1
  match kind, args with
  | .any, _ | .input, _ | .config, _ => .ok ⟨plainMessage args, none, none⟩
  | .missingDomain, [] => .ok ⟨InputFailure.missingDomain.message, none, none⟩
  | .missingName, [] => .ok ⟨InputFailure.missingName.message, none, none⟩
  | .missingDomain, _ | .missingName, _ =>
      .error (badCount kind s!"takes 1 positional argument but {given} were given")
  | .unknownType, [value] => .ok ⟨unknownTypeMessage value.display [], none, some value⟩
  | .unknownType, [value, known] => do
      let names ← if known.isFalsy then pure [] else knownNames known
      return ⟨unknownTypeMessage value.display names, none, some value⟩
  | .unknownType, [] =>
      .error (badCount kind "missing 1 required positional argument: 'value'")
  | .generation, [] | .stage _, [] =>
      .error (.badCall
        "GenerationError.__init__() missing 1 required positional argument: 'target'")
  | .generation, [target] | .stage _, [target] | .generation, [target, .null]
  | .stage _, [target, .null] =>
      let target := target.display
      .ok ⟨failedTo (kind.action?.getD "") target, some target, none⟩
  | .generation, [target, reason] | .stage _, [target, reason] =>
      let target := target.display
      .ok ⟨failedTo (kind.action?.getD "") target ++ ": " ++ reason.display, some target, none⟩
  | .unknownType, _ =>
      .error (badCount kind s!"takes from 2 to 3 positional arguments but {given} were given")
  | .generation, _ | .stage _, _ =>
      .error (badCount .generation
        s!"takes from 2 to 3 positional arguments but {given} were given")

end FailureKind

namespace Failure

/-- The kind of a failure of the two groups. -/
def kind? : Failure → Option FailureKind
  | .input .missingDomain => some .missingDomain
  | .input .missingName => some .missingName
  | .input (.unknownType _) => some .unknownType
  | .input (.config _) => some .config
  | .generation f => some (.stage f.stage)
  | .invalid _ | .fault _ => none

def message : Failure → String
  | .input cause => cause.message
  | .generation f => f.message
  | .invalid _ => ""
  | .fault f => f.message

/-- The issues with single fields, where there are such. -/
def issues? : Failure → Option (List Issue)
  | .invalid issues | .input (.config (.badSettings _ issues))
  | .input (.config (.badRoot _ issues)) => some issues
  | _ => none

end Failure

end Scaffold
