import Scaffold.CommandLine.Arguments
import Scaffold.CommandLine.Usage
import Scaffold.Datum

/-!
# Commands

What the arguments of the program ask for.
-/

namespace Scaffold.CommandLine

/-- What the generating command is told.  A value that was nothing but a separator is an empty
list. -/
structure Order where
  type : Datum
  name : Datum
  domain : Datum
  crud : Bool
  outputRoot : Datum
  config : Datum
  verbosity : Verbosity

inductive Command where
  | nothing
  | help
  | generate (order : Order)

/-- A command line that is answered before any command runs: a text that was asked for, or a problem
with the usage that it offends. -/
inductive Halt where
  | print (text : String)
  | refuse (grammar : Grammar) (p : Problem)

def Halt.ofStop (g : Grammar) : Stop → Halt
  | .help => .print g.help
  | .version => .print versionLine
  | .problem p => .refuse g p

/-- One value, or none. -/
def oneValue : List String → Datum
  | [s] => .text s
  | values => .list (values.map .text)

/-- The last value of an operand or an option. -/
def Reading.value (r : Reading) (label : String) (default : Datum) : Datum :=
  match r.last? label with
  | some values => oneValue values
  | none => default

namespace Order

def ofReading (r : Reading) : Order where
  type := r.value Generate.type.label .null
  name := r.value Generate.name.label .null
  domain := r.value Generate.domain.label (.text "")
  crud := 0 < r.count Generate.crud.label
  outputRoot := r.value Generate.root.label .null
  config := r.value Generate.config.label .null
  verbosity :=
    .ofFlags (0 < r.count Generate.quiet.label) (r.count Generate.verbose.label)

end Order

namespace Command

/-- The commands by all their names. -/
def names : List String := ["generate", "g", "help"]

/-- Arguments that neither the program nor its command takes are refused by the program. -/
def refuseSurplus (surplus : List String) : Except Halt Unit :=
  if surplus.isEmpty then .ok () else .error (.refuse Top.grammar (.surplus surplus))

/-- The command with a name, for its arguments. -/
def ofName (name : String) (arguments : List String) (before : List String) :
    Except Halt Command := do
  match name with
  | "generate" | "g" =>
    let r ← (Generate.grammar.read arguments).mapError (.ofStop Generate.grammar)
    refuseSurplus (before ++ r.surplus)
    return .generate (.ofReading r)
  | "help" =>
    let r ← (Help.grammar.read arguments).mapError (.ofStop Help.grammar)
    refuseSurplus (before ++ r.surplus)
    return .help
  | name => throw (.refuse Top.grammar (.unknownChoice Top.command name names))

/-- The command that the arguments of the program ask for. -/
def ofArguments (arguments : List String) : Except Halt Command := do
  let r ← (Top.grammar.read arguments).mapError (.ofStop Top.grammar)
  match r.last? Top.command.label with
  | some (name :: arguments) => ofName name arguments r.surplus
  | _ =>
      refuseSurplus r.surplus
      return .nothing

end Command

end Scaffold.CommandLine
