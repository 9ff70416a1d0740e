import Scaffold.Text.Quoted

/-!
# Grammars of command lines

Which options and operands a command takes, how an argument is taken for an option, and what can be
wrong with a command line.
-/

namespace Scaffold.CommandLine

/-- What an option does. -/
inductive Effect where
  | help
  | version
  /-- It says something by being there, perhaps several times. -/
  | mention
  /-- It has a value. -/
  | value
  deriving DecidableEq, Repr

structure OptionSpec where
  names : List String
  effect : Effect
  deriving DecidableEq, Repr

namespace OptionSpec

def label (o : OptionSpec) : String := "/".intercalate o.names

def takesValue (o : OptionSpec) : Bool := o.effect = .value

end OptionSpec

structure Operand where
  label : String
  /-- The operand takes everything that follows too. -/
  takesRest : Bool := false
  required : Bool := true
  deriving DecidableEq, Repr

structure Grammar where
  program : String
  usage : String
  help : String
  options : List OptionSpec
  operands : List Operand

/-- What is wrong with a command line. -/
inductive Problem where
  | ambiguous (argument : String) (names : List String)
  | needlessValue (o : OptionSpec) (value : String)
  | noValue (o : OptionSpec)
  | unknownChoice (operand : Operand) (choice : String) (choices : List String)
  | missing (operands : List Operand)
  | surplus (arguments : List String)
  deriving DecidableEq, Repr

def Problem.message : Problem → String
  | ambiguous argument names =>
      let matching := ", ".intercalate names
      s!"ambiguous option: {argument} could match {matching}"
  | needlessValue o value =>
      s!"argument {o.label}: ignored explicit argument {Text.quote value}"
  | noValue o => s!"argument {o.label}: expected one argument"
  | unknownChoice operand choice choices =>
      let known := ", ".intercalate (choices.map Text.quote)
      s!"argument {operand.label}: invalid choice: {Text.quote choice} (choose from {known})"
  | missing operands =>
      "the following arguments are required: " ++ ", ".intercalate (operands.map (·.label))
  | surplus arguments => "unrecognized arguments: " ++ " ".intercalate arguments

namespace Grammar

/-- All names of options, with the options. -/
def names (g : Grammar) : List (String × OptionSpec) :=
  g.options.flatMap fun o => o.names.map fun name => (name, o)

def find? (g : Grammar) (name : String) : Option OptionSpec := g.names.lookup name

/-- What an argument that looks like an option means: an option, known or not, and the text that is
attached to it. -/
structure Meaning where
  spec? : Option OptionSpec
  /-- Other options may follow in the attached text. -/
  short : Bool
  attached : Option (List Char)

/-- The text up to the first equals sign, and the text behind it. -/
def cutAtEquals (argument : List Char) : List Char × Option (List Char) :=
  let name := argument.takeWhile (· ≠ '=')
  if name.length = argument.length then (argument, none)
  else (name, some (argument.drop (name.length + 1)))

def isLong (argument : List Char) : Bool := "--".toList.isPrefixOf argument

/-- The options that an argument can be taken for: a long one by the beginning of its name, a short
one by its first character. -/
def candidates (g : Grammar) (argument : List Char) : List (String × Meaning) :=
  if isLong argument then
    let (beginning, attached) := cutAtEquals argument
    (g.names.filter fun entry => beginning.isPrefixOf entry.1.toList).map fun entry =>
      (entry.1, ⟨some entry.2, false, attached⟩)
  else
    let (first, rest) := (argument.take 2, argument.drop 2)
    (g.names.filter fun entry => entry.1.toList = first).map fun entry =>
      (entry.1, ⟨some entry.2, true, some rest⟩)

/-- A negative number, which is no option. -/
def isNegativeNumber : List Char → Bool
  | '-' :: digits =>
      let isDigit (c : Char) : Bool := (Text.digitValue? c).isSome
      match digits.dropWhile isDigit with
      | [] => !digits.isEmpty
      | '.' :: fraction => !fraction.isEmpty && fraction.all isDigit
      | _ => false
  | _ => false

/-- An option that is written out. -/
def exactly? (g : Grammar) (argument : List Char) : Option Meaning :=
  let named (name : List Char) (attached : Option (List Char)) : Option Meaning :=
    (g.find? (String.ofList name)).map fun o => ⟨some o, !isLong name, attached⟩
  match named argument none with
  | some meaning => some meaning
  | none =>
    match cutAtEquals argument with
    | (name, some attached) => named name (some attached)
    | (_, none) => none

/-- The meaning of an argument as an option; none if it is a plain word. -/
def meaning? (g : Grammar) (argument : String) : Except Problem (Option Meaning) :=
  let text := argument.toList
  if text.head? ≠ some '-' then .ok none
  else
    match g.exactly? text with
    | some meaning => .ok (some meaning)
    | none =>
        if text.length = 1 then .ok none
        else
          match g.candidates text with
          | [(_, meaning)] => .ok (some meaning)
          | [] =>
              if isNegativeNumber text || text.contains ' ' then .ok none
              else .ok (some ⟨none, false, none⟩)
          | several => .error (.ambiguous argument (several.map (·.1)))

end Grammar

end Scaffold.CommandLine
