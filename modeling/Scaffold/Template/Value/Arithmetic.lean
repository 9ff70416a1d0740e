import Scaffold.Template.Value.Order

/-!
# Arithmetic of template values

Whole numbers are exact; with a floating-point number on one side the other becomes one.  Texts,
lists and tuples are joined by `+` and repeated by `*`.
-/

namespace Scaffold.Template

namespace Value

/-- A number as a floating-point number. -/
def toFloat (v : Value) : Except Trouble Float :=
  match v, v.int? with
  | undefined why _, _ => .error (.missing why)
  | float x, _ => .ok x
  | _, some n =>
      let x := Number.ofInt n
      if x.isInf then .error (.fault .overflow "int too large to convert to float") else .ok x
  | _, Option.none => .error (.wrongType s!"must be real number, not {v.typeName}")

def unsupported (op : BinaryOp) (a b : Value) : Trouble :=
  .wrongType (s!"unsupported operand type(s) for {op.sign}: '{a.typeName}' and '{b.typeName}'")

/-- An operation on two numbers: exact on whole numbers, else on floating-point numbers. -/
def onNumbers (op : BinaryOp) (whole : Int → Int → Except Trouble Value)
    (real : Float → Float → Except Trouble Value) (a b : Value) : Except Trouble Value := do
  if a.isNumber && b.isNumber then
    match a.int?, b.int? with
    | some m, some n => whole m n
    | _, _ => real (← a.toFloat) (← b.toFloat)
  else .error (unsupported op a b)

/-- The characters that text for markup writes differently. -/
def escapeChar : Char → String
  | '&' => "&amp;"
  | '>' => "&gt;"
  | '<' => "&lt;"
  | '\'' => "&#39;"
  | '"' => "&#34;"
  | c => String.singleton c

def escapeText (s : String) : String := String.join (s.toList.map escapeChar)

/-- Text as it stands in markup. -/
def toMarkup : Value → String
  | markup s => s
  | text s => escapeText s
  | _ => ""

def cannotConcatenate (kind : String) (other : Value) : Trouble :=
  .wrongType s!"can only concatenate {kind} (not \"{other.typeName}\") to {kind}"

def add (a b : Value) : Except Trouble Value :=
  match a, b with
  | text s, text t => .ok (text (s ++ t))
  | text _, markup _ | markup _, text _ | markup _, markup _ =>
      .ok (markup (a.toMarkup ++ b.toMarkup))
  | text _, _ | markup _, _ => .error (cannotConcatenate "str" b)
  | list xs, list ys => .ok (list (xs ++ ys))
  | list _, _ => .error (cannotConcatenate "list" b)
  | tuple xs, tuple ys => .ok (tuple (xs ++ ys))
  | tuple _, _ => .error (cannotConcatenate "tuple" b)
  | _, _ => onNumbers .add (fun m n => .ok (int (m + n))) (fun x y => .ok (float (x + y))) a b

def repeatList (items : List α) (n : Int) : List α := (List.replicate n.toNat items).flatten

/-- A sequence that can be repeated. -/
def repeated? (v : Value) : Option (Int → Value) :=
  match v with
  | text s => some fun n => text (String.join (List.replicate n.toNat s))
  | markup s => some fun n => markup (String.join (List.replicate n.toNat s))
  | list items => some fun n => list (repeatList items n)
  | tuple items => some fun n => tuple (repeatList items n)
  | _ => Option.none

def cannotRepeat (other : Value) : Trouble :=
  .wrongType s!"can't multiply sequence by non-int of type '{other.typeName}'"

def mul (a b : Value) : Except Trouble Value :=
  match a.repeated?, b.repeated? with
  | some make, _ =>
    match b.int? with
    | some n => .ok (make n)
    | Option.none => .error (cannotRepeat b)
  | Option.none, some make =>
    match a.int? with
    | some n => .ok (make n)
    | Option.none => .error (cannotRepeat a)
  | Option.none, Option.none =>
    onNumbers .mul (fun m n => .ok (int (m * n))) (fun x y => .ok (float (x * y))) a b

def byZero (message : String) : Trouble := .fault .divisionByZero message

def divideInts (m n : Int) : Except Trouble Value :=
  if n = 0 then .error (byZero "division by zero")
  else
    let x := Number.divide m n
    if x.isInf then .error (.fault .overflow "integer division result too large for a float")
    else .ok (float x)

/-- The remainder with the sign of the divisor. -/
def floorMod (x y : Float) : Float :=
  let r := x - y * (x / y).floor
  if x.abs < y.abs then
    if x == 0 || (x < 0) == (y < 0) then x else x + y
  else if r == 0 then (if y < 0 then -0.0 else 0.0)
  else r

/-- The exact remainder of a division of two finite numbers, with the sign of the divisor. -/
def exactMod (x y : Float) : Float :=
  match Number.Binary.ofFloat? x, Number.Binary.ofFloat? y with
  | some a, some b =>
      let (p, q) := Number.scaled a.significand a.exponent
      let (r, s) := Number.scaled b.significand b.exponent
      let m : Int := (if a.negative then -(p : Int) else p) * s
      let n : Int := (if b.negative then -(r : Int) else r) * q
      let rest := m.fmod n
      if rest = 0 then (if b.negative then -0.0 else 0.0)
      else
        let size := Number.quotient rest.natAbs (q * s)
        if rest < 0 then -size else size
  | _, _ => floorMod x y

/-- The quotient rounded down. -/
def exactFloorDiv (x y : Float) : Float :=
  match Number.Binary.ofFloat? x, Number.Binary.ofFloat? y with
  | some a, some b =>
      let (p, q) := Number.scaled a.significand a.exponent
      let (r, s) := Number.scaled b.significand b.exponent
      let m : Int := (if a.negative then -(p : Int) else p) * s
      let n : Int := (if b.negative then -(r : Int) else r) * q
      let whole := m.fdiv n
      if whole = 0 then (if a.negative = b.negative then 0.0 else -0.0)
      else Number.ofInt whole
  | _, _ => (x / y).floor

def powInts (m n : Int) : Except Trouble Value :=
  if 0 ≤ n then .ok (int (Int.pow m n.toNat))
  else if m = 0 then .error (byZero "0.0 cannot be raised to a negative power")
  else do
    let x ← (int m).toFloat
    let y ← (int n).toFloat
    return float (x ^ y)

def powFloats (x y : Float) : Except Trouble Value :=
  if x == 0 && y < 0 then .error (byZero "0.0 cannot be raised to a negative power")
  else
    let z := x ^ y
    if z.isInf && !x.isInf && !y.isInf then
      .error (.fault .overflow "(34, 'Numerical result out of range')")
    else .ok (float z)

/-- The operators but `%` on text. -/
def operate (op : BinaryOp) (a b : Value) : Except Trouble Value :=
  match a, b with
  | undefined why _, _ => .error (.missing why)
  | _, undefined why _ => .error (.missing why)
  | a, b =>
    match op with
    | .add => add a b
    | .mul => mul a b
    | .sub =>
        onNumbers op (fun m n => .ok (int (m - n))) (fun x y => .ok (float (x - y))) a b
    | .div =>
        onNumbers op divideInts (fun x y =>
          if y == 0 then .error (byZero "float division by zero") else .ok (float (x / y))) a b
    | .floorDiv =>
        onNumbers op
          (fun m n =>
            if n = 0 then .error (byZero "integer division or modulo by zero")
            else .ok (int (m.fdiv n)))
          (fun x y =>
            if y == 0 then .error (byZero "float floor division by zero")
            else .ok (float (exactFloorDiv x y))) a b
    | .mod =>
        onNumbers op
          (fun m n =>
            if n = 0 then .error (byZero "integer modulo by zero") else .ok (int (m.fmod n)))
          (fun x y =>
            if y == 0 then .error (byZero "float modulo") else .ok (float (exactMod x y))) a b
    | .pow => onNumbers op powInts powFloats a b

/-- The keys or the entries of a dictionary. -/
def isKeyed : Value → Bool
  | view .keys _ | view .items _ => true
  | _ => false

/-- A difference with keys or entries of a dictionary in it is a set.  Sets are left out: the order
of their items is not the same in every run. -/
def isSetDifference (op : BinaryOp) (a b : Value) : Bool :=
  match op with
  | .sub => a.isKeyed || b.isKeyed
  | _ => false

def badSign (sign : String) (v : Value) : Trouble :=
  .wrongType s!"bad operand type for unary {sign}: '{v.typeName}'"

def negate (v : Value) : Except Trouble Value :=
  match v, v.int? with
  | undefined why _, _ => .error (.missing why)
  | float x, _ => .ok (float (-x))
  | _, some n => .ok (int (-n))
  | _, Option.none => .error (badSign "-" v)

def affirm (v : Value) : Except Trouble Value :=
  match v, v.int? with
  | undefined why _, _ => .error (.missing why)
  | float x, _ => .ok (float x)
  | _, some n => .ok (int n)
  | _, Option.none => .error (badSign "+" v)

end Value

end Scaffold.Template
