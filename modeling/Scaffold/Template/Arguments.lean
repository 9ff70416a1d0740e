import Scaffold.Template.Machine

/-!
# Arguments

How the arguments of a call are matched with the parameters of what is called.
-/

namespace Scaffold.Template

open Text

/-- Arguments by the names of their parameters. -/
abbrev Arguments := List (String × Value)

/-- The parameters of a function.  `hidden` counts arguments that every call has before those that
a template gives. -/
structure Parameters where
  function : String
  hidden : Nat
  required : List String
  optional : List String
  deriving DecidableEq, Repr

namespace Parameters

def names (p : Parameters) : List String := p.required ++ p.optional

/-- A word for one argument or several. -/
def argumentWord (several : Bool) : String :=
  if several then "positional arguments" else "positional argument"

def tooMany (p : Parameters) (given : Nat) : Trouble :=
  let most := p.hidden + p.names.length
  let takes :=
    if p.optional.isEmpty then s!"{most}" else s!"from {p.hidden + p.required.length} to {most}"
  let several := !p.optional.isEmpty || most ≠ 1
  let were := if given + p.hidden = 1 then "was" else "were"
  .wrongType (s!"{p.function}() takes {takes} {argumentWord several} but"
    ++ s!" {given + p.hidden} {were} given")

/-- Names in a sentence. -/
def enumerate : List String → String
  | [] => ""
  | [a] => quote a
  | [a, b] => quote a ++ " and " ++ quote b
  | names => ", ".intercalate (names.dropLast.map quote) ++ ", and " ++
      quote (names.getLast?.getD "")

def lacking (p : Parameters) (names : List String) : Trouble :=
  .wrongType (s!"{p.function}() missing {names.length} required"
    ++ s!" {argumentWord (names.length ≠ 1)}: {enumerate names}")

/-- One named argument added to those that are bound. -/
def addNamed (p : Parameters) (bound : Arguments) (key : String) (value : Value) :
    Except Trouble Arguments :=
  if !p.names.contains key then
    .error (.wrongType s!"{p.function}() got an unexpected keyword argument {quote key}")
  else if (bound.lookup key).isSome then
    .error (.wrongType s!"{p.function}() got multiple values for argument {quote key}")
  else .ok (bound ++ [(key, value)])

def bind (p : Parameters) (args : List Value) (named : Arguments) :
    Except Trouble Arguments := do
  let bound ← named.foldlM (fun bound (key, value) => p.addNamed bound key value)
    (p.names.zip args)
  if p.names.length < args.length then .error (p.tooMany args.length)
  match p.required.filter fun name => (bound.lookup name).isNone with
  | [] => .ok bound
  | names => .error (p.lacking names)

end Parameters

/-- The argument of a function that takes exactly one. -/
def soleArgument (function : String) (args : List Value) (named : Arguments) :
    Except Trouble Value :=
  match args, named with
  | _, _ :: _ => .error (.wrongType s!"{function}() takes no keyword arguments")
  | [v], [] => .ok v
  | args, [] =>
      .error (.wrongType s!"{function}() takes exactly one argument ({args.length} given)")

/-- A function that takes no arguments at all. -/
def noArguments (function : String) (args : List Value) (named : Arguments) :
    Except Trouble Unit :=
  match args, named with
  | _, _ :: _ => .error (.wrongType s!"{function}() takes no keyword arguments")
  | [], [] => .ok ()
  | args, [] =>
      .error (.wrongType s!"{function}() takes no arguments ({args.length} given)")

namespace Arguments

/-- The value of a parameter, if the call gave one. -/
def find? (a : Arguments) (name : String) : Option Value := a.lookup name

/-- The value of a parameter that is always there. -/
def value (a : Arguments) (name : String) : Value := (a.lookup name).getD .none

/-- The value of a parameter that is there and not null. -/
def given? (a : Arguments) (name : String) : Option Value :=
  match a.lookup name with
  | some .none => none
  | found => found

/-- A parameter as a condition, false unless given. -/
def holds (a : Arguments) (name : String) : Except Trouble Bool :=
  match a.lookup name with
  | some v => v.truth
  | none => .ok false

end Arguments

/-- A whole number where one is needed. -/
def asIndex (v : Value) : Except Trouble Int :=
  match v, v.int? with
  | _, some n => .ok n
  | v, none =>
      .error (.wrongType s!"'{v.typeName}' object cannot be interpreted as an integer")

end Scaffold.Template
