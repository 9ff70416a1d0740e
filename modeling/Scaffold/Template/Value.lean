import Scaffold.Template.Program
import Scaffold.Number.Shortest
import Scaffold.Text.Quoted

/-!
# Template values

What expressions of a template stand for.  Values that change while a template runs (loops, name
spaces, streams) are kept in numbered cells, so that all their holders see the change.  Some values
have no text form but their place in memory, which is another one in each run.
-/

namespace Scaffold.Template

open Text

/-- Why there is no value. -/
inductive Missing where
  | name (name : String)
  | member (owner name : String)
  | element (owner shown : String)
  | note (message : String)
  deriving DecidableEq, Repr

def Missing.message : Missing → String
  | name n => s!"{quote n} is undefined"
  | member owner n => s!"{quote owner} has no attribute {quote n}"
  | element owner shown => s!"{owner} has no element {shown}"
  | note message => message

/-- Kinds of faults that an expression can meet. -/
inductive FaultKind where
  | wrongType
  | wrongValue
  | divisionByZero
  | overflow
  | noKey
  | noIndex
  | noAttribute
  | misuse
  | recursion
  deriving DecidableEq, Repr

def FaultKind.name : FaultKind → String
  | wrongType => "TypeError"
  | wrongValue => "ValueError"
  | divisionByZero => "ZeroDivisionError"
  | overflow => "OverflowError"
  | noKey => "KeyError"
  | noIndex => "IndexError"
  | noAttribute => "AttributeError"
  | misuse => "RuntimeError"
  | recursion => "RecursionError"

/-- Why the run of a template stops. -/
inductive Trouble where
  | missing (why : Missing)
  | refused (message : String)
  | fault (kind : FaultKind) (message : String)
  deriving DecidableEq, Repr

namespace Trouble

def message : Trouble → String
  | missing why => why.message
  | refused message => message
  | fault kind message => s!"{kind.name}: {message}"

abbrev wrongType (message : String) : Trouble := .fault .wrongType message

abbrev wrongValue (message : String) : Trouble := .fault .wrongValue message

end Trouble

/-- The frames in which a name is looked up, the innermost first. -/
abbrev Scope := List Nat

/-- Callable values that every template has. -/
inductive Builtin where
  | range
  | dict
  | lorem (address : Nat)
  | cycler
  | joiner
  | space
  deriving DecidableEq, Repr

/-- A definition with the scope in which it was made.  The last fields say which special names its
body uses. -/
structure Closure where
  name? : Option String
  signature : Signature
  body : List Stmt
  scope : Scope
  usesCaller : Bool
  usesNamed : Bool
  usesRest : Bool

/-- The parts of a dictionary that can be viewed. -/
inductive DictPart where
  | items
  | keys
  | values
  deriving DecidableEq, Repr

/-- A thing with a cell of its own, and its place in memory. -/
structure Thing where
  title : String
  cell : Nat
  address : Nat

inductive Value where
  /-- An undefined value that is not strict can be shown and counts as empty. -/
  | undefined (why : Missing) (strict : Bool)
  | none
  | bool (b : Bool)
  | int (n : Int)
  | float (x : Float)
  | text (s : String)
  /-- Text that is already escaped. -/
  | markup (s : String)
  | list (items : List Value)
  | tuple (items : List Value)
  | dict (entries : List (Value × Value))
  | range (start stop step : Int)
  | view (part : DictPart) (entries : List (Value × Value))
  | stream (thing : Thing)
  | space (thing : Thing)
  | loop (thing : Thing)
  | cycler (thing : Thing)
  | joiner (thing : Thing)
  | builtin (b : Builtin)
  | method (object : Value) (name : String) (address : Nat)
  | closure (c : Closure)
  /-- The blocks of the template, as members of one value. -/
  | blocks
  | block (name : String) (address : Nat)

/-- The text form of what lies at a place in memory. -/
def placed (title : String) (address : Nat) : String :=
  s!"<{title} at 0x{String.ofList (Nat.toDigits 16 address)}>"

def Thing.text (thing : Thing) : String := placed thing.title thing.address

/-- The first word of the title. -/
def Thing.typeName (thing : Thing) : String :=
  String.ofList (thing.title.toList.takeWhile (· ≠ ' '))

namespace Value

/-- The name of the type of a value. -/
def typeName : Value → String
  | undefined _ strict => if strict then "StrictUndefined" else "Undefined"
  | none => "NoneType"
  | bool _ => "bool"
  | int _ => "int"
  | float _ => "float"
  | text _ => "str"
  | markup _ => "Markup"
  | list _ => "list"
  | tuple _ => "tuple"
  | dict _ => "dict"
  | range _ _ _ => "range"
  | view .items _ => "dict_items"
  | view .keys _ => "dict_keys"
  | view .values _ => "dict_values"
  | stream thing => thing.typeName
  | space _ => "Namespace"
  | loop _ => "LoopContext"
  | cycler _ => "Cycler"
  | joiner _ => "Joiner"
  | builtin (.lorem _) => "function"
  | builtin _ => "type"
  | method _ _ _ => "builtin_function_or_method"
  | closure _ => "Macro"
  | blocks => "TemplateReference"
  | block _ _ => "BlockReference"

/-- What a message about a missing member calls the owner. -/
def ownerName : Value → String
  | none => "None"
  | markup _ => "markupsafe.Markup object"
  | space _ => "jinja2.utils.Namespace object"
  | cycler _ => "jinja2.utils.Cycler object"
  | joiner _ => "jinja2.utils.Joiner object"
  | loop _ => "jinja2.runtime.LoopContext object"
  | closure _ => "jinja2.runtime.Macro object"
  | blocks => "jinja2.runtime.TemplateReference object"
  | block _ _ => "jinja2.runtime.BlockReference object"
  | v => v.typeName ++ " object"

/-- The text of a text value. -/
def text? : Value → Option String
  | text s | markup s => some s
  | _ => Option.none

/-- The number of a whole number; truth values are numbers. -/
def int? : Value → Option Int
  | int n => some n
  | bool b => some (if b then 1 else 0)
  | _ => Option.none

def isText (v : Value) : Bool := v.text?.isSome

/-- The number of elements of a range. -/
def rangeLength (start stop step : Int) : Nat :=
  if 0 < step then ((stop - start + step - 1).fdiv step).toNat
  else ((start - stop - step - 1).fdiv (-step)).toNat

/-- The elements of a range. -/
def rangeItems (start stop step : Int) : List Value :=
  (List.range (rangeLength start stop step)).map fun (i : Nat) => .int (start + i * step)

/-! ## Text forms -/

def builtinText : Builtin → String
  | .range => "<class 'range'>"
  | .dict => "<class 'dict'>"
  | .lorem address => placed "function generate_lorem_ipsum" address
  | .cycler => "<class 'jinja2.utils.Cycler'>"
  | .joiner => "<class 'jinja2.utils.Joiner'>"
  | .space => "<class 'jinja2.utils.Namespace'>"

mutual
/-- The literal form, which a value has inside other values. -/
def literal : Value → String
  | undefined _ _ => "Undefined"
  | none => "None"
  | bool b => if b then "True" else "False"
  | int n => s!"{n}"
  | float x => Number.floatText x
  | text s => quote s
  | markup s => s!"Markup({quote s})"
  | list items => "[" ++ ", ".intercalate (literals items) ++ "]"
  | tuple items =>
      match literals items with
      | [single] => "(" ++ single ++ ",)"
      | shown => "(" ++ ", ".intercalate shown ++ ")"
  | dict entries => "\x7b" ++ ", ".intercalate (entryLiterals entries) ++ "\x7d"
  | range start stop step =>
      if step = 1 then s!"range({start}, {stop})" else s!"range({start}, {stop}, {step})"
  | view .items entries => "dict_items([" ++ ", ".intercalate (pairLiterals entries) ++ "])"
  | view .keys entries => "dict_keys([" ++ ", ".intercalate (keyLiterals entries) ++ "])"
  | view .values entries => "dict_values([" ++ ", ".intercalate (valueLiterals entries) ++ "])"
  | stream thing | space thing | loop thing | cycler thing | joiner thing => thing.text
  | builtin b => builtinText b
  | method object name address => placed s!"built-in method {name} of {object.ownerName}" address
  | closure c =>
      match c.name? with
      | some name => s!"<Macro {quote name}>"
      | Option.none => "<Macro anonymous>"
  | blocks => "<TemplateReference None>"
  | block _ address => placed "jinja2.runtime.BlockReference object" address

def literals : List Value → List String
  | [] => []
  | v :: rest => v.literal :: literals rest

def entryLiterals : List (Value × Value) → List String
  | [] => []
  | (k, v) :: rest => (k.literal ++ ": " ++ v.literal) :: entryLiterals rest

def pairLiterals : List (Value × Value) → List String
  | [] => []
  | (k, v) :: rest => ("(" ++ k.literal ++ ", " ++ v.literal ++ ")") :: pairLiterals rest

def keyLiterals : List (Value × Value) → List String
  | [] => []
  | (k, _) :: rest => k.literal :: keyLiterals rest

def valueLiterals : List (Value × Value) → List String
  | [] => []
  | (_, v) :: rest => v.literal :: valueLiterals rest
end

/-- The form in running text: texts stand for themselves. -/
def display : Value → Except Trouble String
  | undefined why strict => if strict then .error (.missing why) else .ok ""
  | text s | markup s => .ok s
  | int n =>
      if Nat.pow 10 digitLimit ≤ n.natAbs then
        .error (.wrongValue (Escape.longNumber Option.none).message)
      else .ok s!"{n}"
  | v => .ok v.literal

end Value

end Scaffold.Template
