import Scaffold.Template.Value

/-!
# Equality and order of template values

Numbers of all kinds are compared by what they denote, texts by code points, lists and tuples
from the left.  A strict undefined value cannot be compared at all.
-/

namespace Scaffold.Template

namespace Value

/-- A whole number against a floating-point number; none for a number that is not comparable. -/
def compareIntFloat (n : Int) (x : Float) : Option Ordering :=
  match Number.Binary.ofFloat? x with
  | some b =>
      let (num, den) := Number.scaled b.significand b.exponent
      some (compare (n * den) (if b.negative then -(num : Int) else num))
  | Option.none =>
      if x.isNaN then Option.none else some (if 0 < x then .lt else .gt)

def compareFloats (x y : Float) : Option Ordering :=
  if x < y then some .lt else if y < x then some .gt else if x == y then some .eq else Option.none

def isNumber : Value → Bool
  | bool _ | int _ | float _ => true
  | _ => false

/-- The order of two numbers. -/
def compareNumbers (a b : Value) : Option Ordering :=
  match a, b with
  | float x, float y => compareFloats x y
  | float x, other => other.int?.bind fun n => (compareIntFloat n x).map Ordering.swap
  | other, float y => other.int?.bind fun n => compareIntFloat n y
  | x, y => do return compare (← x.int?) (← y.int?)

/-- Two values that are the same cell or the same constant. -/
def sameIdentity : Value → Value → Bool
  | stream a, stream b | space a, space b | loop a, loop b | cycler a, cycler b
  | joiner a, joiner b => a.cell = b.cell
  | none, none | blocks, blocks => true
  | builtin a, builtin b => a = b
  | block _ a, block _ b => a = b
  | _, _ => false

mutual
def equal : Value → Value → Except Trouble Bool
  | undefined why strict, other =>
      match other with
      | undefined why' true => .error (.missing (if strict then why else why'))
      | undefined _ false => if strict then .error (.missing why) else .ok true
      | _ => if strict then .error (.missing why) else .ok false
  | a, undefined why strict =>
      if strict then .error (.missing why)
      else .ok (a.sameIdentity (undefined why strict))
  | text s, b | markup s, b => .ok (b.text? = some s)
  | list xs, list ys => if xs.length = ys.length then equalAll xs ys else .ok false
  | tuple xs, tuple ys => if xs.length = ys.length then equalAll xs ys else .ok false
  | dict xs, dict ys => if xs.length = ys.length then equalEntries xs ys else .ok false
  | range a b c, range a' b' c' => .ok (rangeItemsEqual (a, b, c) (a', b', c'))
  | view .keys xs, view .keys ys =>
      if xs.length = ys.length then equalEntries xs ys else .ok false
  | a, b =>
      if a.isNumber && b.isNumber then .ok (compareNumbers a b == some .eq)
      else .ok (a.sameIdentity b)

def equalAll : List Value → List Value → Except Trouble Bool
  | x :: xs, y :: ys => do if ← equal x y then equalAll xs ys else return false
  | _, _ => .ok true

/-- Each entry of the first list has an equal one in the second. -/
def equalEntries : List (Value × Value) → List (Value × Value) → Except Trouble Bool
  | [], _ => .ok true
  | (k, v) :: rest, ys =>
      match ys.find? fun entry => (equal k entry.1).toOption == some true with
      | some (_, w) => do if ← equal v w then equalEntries rest ys else return false
      | Option.none => .ok false

/-- Ranges are equal if their elements are. -/
def rangeItemsEqual : Int × Int × Int → Int × Int × Int → Bool
  | (a, b, c), (a', b', c') =>
      let n := rangeLength a b c
      n = rangeLength a' b' c' && (n = 0 || (a = a' && (n = 1 || c = c')))
end

def comparisonSign : Comparison → String
  | .equal => "=="
  | .unequal => "!="
  | .less => "<"
  | .atMost => "<="
  | .greater => ">"
  | .atLeast => ">="
  | .isIn => "in"
  | .notIn => "not in"

/-- An order satisfies a sign. -/
def satisfies (sign : Comparison) : Ordering → Bool
  | .lt => sign = .less || sign = .atMost
  | .gt => sign = .greater || sign = .atLeast
  | .eq => sign = .atMost || sign = .atLeast

def notOrdered (sign : Comparison) (a b : Value) : Trouble :=
  .wrongType (s!"'{comparisonSign sign}' not supported between instances of '{a.typeName}'"
    ++ s!" and '{b.typeName}'")

mutual
/-- The comparison of two values by one of the four order signs. -/
def ordered (sign : Comparison) : Value → Value → Except Trouble Bool
  | undefined why _, _ => .error (.missing why)
  | list xs, list ys => orderedAll sign xs ys
  | tuple xs, tuple ys => orderedAll sign xs ys
  | a, b =>
      match b with
      | undefined why _ => .error (.missing why)
      | b =>
        match a.text?, b.text? with
        | some s, some t => .ok (satisfies sign (compare s t))
        | _, _ =>
          if a.isNumber && b.isNumber then
            .ok ((compareNumbers a b).any (satisfies sign))
          else .error (notOrdered sign a b)

/-- The first unequal elements decide, else the lengths. -/
def orderedAll (sign : Comparison) : List Value → List Value → Except Trouble Bool
  | x :: xs, y :: ys => do if ← equal x y then orderedAll sign xs ys else ordered sign x y
  | [], [] => .ok (satisfies sign .eq)
  | [], _ :: _ => .ok (satisfies sign .lt)
  | _ :: _, [] => .ok (satisfies sign .gt)
end

mutual
/-- Why a value cannot be a key. -/
def keyFault? : Value → Option Trouble
  | undefined why true => some (.missing why)
  | list _ => some (.wrongType "unhashable type: 'list'")
  | dict _ => some (.wrongType "unhashable type: 'dict'")
  | view .items _ => some (.wrongType "unhashable type: 'dict_items'")
  | view .keys _ => some (.wrongType "unhashable type: 'dict_keys'")
  | tuple items => keyFaults items
  | _ => Option.none

def keyFaults : List Value → Option Trouble
  | [] => Option.none
  | v :: rest =>
      match v.keyFault? with
      | some fault => some fault
      | Option.none => keyFaults rest
end

/-- Two keys are the same. -/
def sameKey (a b : Value) : Bool := (equal a b).toOption == some true

def findKey? (key : Value) (entries : List (Value × Value)) : Option Value :=
  (entries.find? fun entry => sameKey entry.1 key).map (·.2)

/-- Put an entry; a key that is there keeps its place. -/
def putEntry (key value : Value) : List (Value × Value) → List (Value × Value)
  | [] => [(key, value)]
  | (k, v) :: rest =>
      if sameKey k key then (k, value) :: rest else (k, v) :: putEntry key value rest

/-- Whether a value counts as true. -/
def truth : Value → Except Trouble Bool
  | undefined why strict => if strict then .error (.missing why) else .ok false
  | none => .ok false
  | bool b => .ok b
  | int n => .ok (n != 0)
  | float x => .ok (x != 0)
  | text s | markup s => .ok (s != "")
  | list items | tuple items => .ok !items.isEmpty
  | dict entries | view _ entries => .ok !entries.isEmpty
  | range a b c => .ok (rangeLength a b c != 0)
  | _ => .ok true

end Value

end Scaffold.Template
