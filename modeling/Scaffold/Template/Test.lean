import Scaffold.Template.Arguments
import Scaffold.Template.Method
import Scaffold.Template.Value.Format
import Scaffold.Template.Vocabulary

/-!
# Tests

Questions that a template may ask of a value.
-/

namespace Scaffold.Template

open Text

namespace Test

def parameters (function : String) (others : List String) : Parameters :=
  ⟨function, 0, "value" :: others, []⟩

/-- The two operands of a comparison that is used as a test. -/
def operands (name : String) (args : List Value) : Except Trouble (Value × Value) :=
  match args with
  | [a, b] => .ok (a, b)
  | args => .error (.wrongType s!"{name} expected 2 arguments, got {args.length}")

def comparison? : String → Option (String × Comparison)
  | "eq" | "equalto" => some ("eq", .equal)
  | "ne" => some ("ne", .unequal)
  | "lt" | "lessthan" => some ("lt", .less)
  | "le" => some ("le", .atMost)
  | "gt" | "greaterthan" => some ("gt", .greater)
  | "ge" => some ("ge", .atLeast)
  | _ => none

/-- Comparison of two values by any of its signs. -/
def compareBy (sign : Comparison) (a b : Value) : Run Bool := do
  match sign with
  | .equal => Value.equal a b
  | .unequal => return !(← Value.equal a b)
  | .isIn => Run.contains b a
  | .notIn => return !(← Run.contains b a)
  | sign => Value.ordered sign a b

/-- The remainder is the one asked for. -/
def remainderIs (value divisor : Value) (wanted : Int) : Run Bool := do
  Value.equal (← Value.operator .mod value divisor) (.int wanted)

def isSequence : Value → Bool
  | .text _ | .markup _ | .list _ | .tuple _ | .dict _ | .range _ _ _ | .undefined _ false => true
  | _ => false

def isIterable : Value → Run Bool
  | .undefined why true => Run.stop (.missing why)
  | .stream _ | .loop _ => pure true
  | v => pure (Run.elements? v).isSome

def isCallable : Value → Bool
  | .undefined _ _ | .loop _ | .joiner _ | .builtin _ | .method _ _ _ | .closure _
  | .block _ _ => true
  | _ => false

/-- Two values are one and the same. -/
def isSame (a b : Value) : Bool :=
  a.typeName = b.typeName &&
    match a with
    | .none | .bool _ | .int _ | .text _ => Value.sameKey a b
    | v => v.sameIdentity b

def inCase (changed : List Char → List Char) (v : Value) : Run Bool := do
  let text := (← Run.display v).toList
  pure (text.any (fun c => upperChar c ≠ [c] || lowerChar c ≠ [c]) && text = changed text)

/-- The answer to a test with the value as the first of its arguments. -/
def answer (name : String) (args : List Value) (named : Arguments) : Run Bool := do
  match comparison? name with
  | some (function, sign) =>
      let (a, b) ← Run.lift (operands function args)
      compareBy sign a b
  | none =>
    let one : Run Value := do
      return (← (parameters s!"test_{name}" []).bind args named).value "value"
    match name with
    | "callable" => return isCallable (← Run.lift (soleArgument "callable" args named))
    | "divisibleby" => do
        let a ← (parameters "test_divisibleby" ["num"]).bind args named
        remainderIs (a.value "value") (a.value "num") 0
    | "sameas" => do
        let a ← (parameters "test_sameas" ["other"]).bind args named
        pure (isSame (a.value "value") (a.value "other"))
    | "in" => do
        let a ← (parameters "test_in" ["seq"]).bind args named
        Run.contains (a.value "seq") (a.value "value")
    | "odd" => do remainderIs (← one) (.int 2) 1
    | "even" => do remainderIs (← one) (.int 2) 0
    | "defined" =>
      match ← one with
      | .undefined _ _ => pure false
      | _ => pure true
    | "undefined" =>
      match ← one with
      | .undefined _ _ => pure true
      | _ => pure false
    | "none" =>
      match ← one with
      | .none => pure true
      | _ => pure false
    | "boolean" =>
      match ← one with
      | .bool _ => pure true
      | _ => pure false
    | "true" =>
      match ← one with
      | .bool b => pure b
      | _ => pure false
    | "false" =>
      match ← one with
      | .bool b => pure !b
      | _ => pure false
    | "integer" =>
      match ← one with
      | .int _ => pure true
      | _ => pure false
    | "float" =>
      match ← one with
      | .float _ => pure true
      | _ => pure false
    | "number" => return (← one).isNumber
    | "string" => return (← one).isText
    | "mapping" =>
      match ← one with
      | .dict _ => pure true
      | _ => pure false
    | "sequence" => return isSequence (← one)
    | "iterable" => do isIterable (← one)
    | "escaped" =>
      match ← one with
      | .markup _ => pure true
      | _ => pure false
    | "lower" => do inCase lower (← one)
    | "upper" => do inCase upper (← one)
    | "filter" => return ((← one).text?.map Vocabulary.isFilter).getD false
    | "test" => return ((← one).text?.map Vocabulary.isTest).getD false
    | name => Run.stop (.refused s!"No test named {quote name} found.")

end Test

end Scaffold.Template
