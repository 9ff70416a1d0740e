import Scaffold.Template.Machine

/-!
# Elements and slices

What an index, a key or a slice selects from a value.
-/

namespace Scaffold.Template

/-- The place in a sequence that an index names; negative ones count from the end. -/
def placeOf? (length : Nat) (index : Int) : Option Nat :=
  let i := if index < 0 then index + length else index
  if 0 ≤ i ∧ i < length then some i.toNat else none

/-- A bound of a slice moved into the range that its direction allows. -/
def clampBound (length : Nat) (forward : Bool) (bound : Int) : Int :=
  let b := if bound < 0 then bound + length else bound
  if forward then max 0 (min b length) else max (-1) (min b (length - 1))

/-- The places that a slice selects; none is an absent bound. -/
def slicePlaces (length : Nat) (start? stop? : Option Int) (step : Int) : List Nat :=
  let forward : Bool := 0 < step
  let start := match start? with
    | some s => clampBound length forward s
    | none => if forward then 0 else (length : Int) - 1
  let stop := match stop? with
    | some s => clampBound length forward s
    | none => if forward then (length : Int) else -1
  (List.range (Value.rangeLength start stop step)).map fun (i : Nat) =>
    (start + i * step).toNat

def sliceList (items : List α) (start? stop? : Option Int) (step : Int) : List α :=
  let items := items.toArray
  (slicePlaces items.size start? stop? step).filterMap fun i => items[i]?

/-- A bound of a slice: a whole number or nothing. -/
def sliceBound (v : Value) : Except Trouble (Option Int) :=
  match v, v.int? with
  | .none, _ => .ok none
  | _, some n => .ok (some n)
  | .undefined why _, none => .error (.missing why)
  | _, none =>
      .error (.wrongType
        "slice indices must be integers or None or have an __index__ method")

/-- The bounds and the step of a slice. -/
def sliceBounds (start stop step : Value) : Except Trouble (Option Int × Option Int × Int) := do
  let step ← sliceBound step
  if step = some 0 then .error (.wrongValue "slice step cannot be zero")
  let start ← sliceBound start
  let stop ← sliceBound stop
  return (start, stop, step.getD 1)

/-- The part of a value between two bounds. -/
def sliceValue (object start stop step : Value) : Except Trouble Value :=
  match object with
  | .undefined why _ => .error (.missing why)
  | .text s => do
      let (a, b, c) ← sliceBounds start stop step
      return .text (String.ofList (sliceList s.toList a b c))
  | .markup s => do
      let (a, b, c) ← sliceBounds start stop step
      return .markup (String.ofList (sliceList s.toList a b c))
  | .list items => do
      let (a, b, c) ← sliceBounds start stop step
      return .list (sliceList items a b c)
  | .tuple items => do
      let (a, b, c) ← sliceBounds start stop step
      return .tuple (sliceList items a b c)
  | .range first last stride => do
      let (a, b, c) ← sliceBounds start stop step
      let length := Value.rangeLength first last stride
      let forward : Bool := 0 < c
      let low := match a with
        | some a => clampBound length forward a
        | none => if forward then 0 else (length : Int) - 1
      let high := match b with
        | some b => clampBound length forward b
        | none => if forward then (length : Int) else -1
      return .range (first + low * stride) (first + high * stride) (stride * c)
  | .dict _ => .error (.wrongType "unhashable type: 'slice'")
  | v => .error (.wrongType s!"'{v.typeName}' object is not subscriptable")

/-- The element that an index or a key selects, if the value has it. -/
def element? (object index : Value) : Except Trouble (Option Value) :=
  match object, index.int? with
  | .undefined why _, _ => .error (.missing why)
  | .text s, some i =>
      let chars := s.toList
      .ok (((placeOf? chars.length i).bind fun p => chars[p]?).map fun c =>
        .text (String.singleton c))
  | .markup s, some i =>
      let chars := s.toList
      .ok (((placeOf? chars.length i).bind fun p => chars[p]?).map fun c =>
        .markup (String.singleton c))
  | .list items, some i | .tuple items, some i =>
      .ok ((placeOf? items.length i).bind fun p => items[p]?)
  | .range a b c, some i =>
      .ok ((placeOf? (Value.rangeLength a b c) i).map fun p => .int (a + p * c))
  | .dict entries, _ =>
    match index.keyFault? with
    | some (.missing why) => .error (.missing why)
    | some _ => .ok none
    | none => .ok (Value.findKey? index entries)
  | _, _ => .ok none

/-- What there is in place of an element that a value does not have. -/
def missingElement (object index : Value) : Value :=
  match index with
  | .text name | .markup name => .undefined (.member object.ownerName name) true
  | index => .undefined (.element object.ownerName index.literal) true

end Scaffold.Template
