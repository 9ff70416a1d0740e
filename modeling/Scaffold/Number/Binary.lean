/-!
# Binary fractions

A finite floating-point number is a whole number times a power of two.  This module takes such a
number apart, and rounds quotients of whole numbers to the nearest floating-point number.
-/

namespace Scaffold.Number

/-- The number `significand * 2 ^ exponent`, with the sign kept apart. -/
structure Binary where
  negative : Bool
  significand : Nat
  exponent : Int
  /-- The next smaller number is only half a step away. -/
  atPower : Bool
  deriving DecidableEq, Repr

/-- The exact value of a finite floating-point number. -/
def Binary.ofFloat? (x : Float) : Option Binary :=
  let bits := x.toBits.toNat
  let negative := bits / Nat.pow 2 63 == 1
  let field : Nat := bits / Nat.pow 2 52 % 2048
  let fraction : Nat := bits % Nat.pow 2 52
  if field = 2047 then none
  else if field = 0 then some ⟨negative, fraction, -1074, false⟩
  else some ⟨negative, Nat.pow 2 52 + fraction, (field : Int) - 1075, fraction == 0 && 1 < field⟩

/-- `n * 2 ^ e` as numerator and denominator. -/
def scaled (n : Nat) (e : Int) : Nat × Nat :=
  (n * Nat.pow 2 e.toNat, Nat.pow 2 (-e).toNat)

/-- A positive quotient rounded to the nearest floating-point number, ties to the even one.
Two bits below the last place, the second of them set if anything is left over, decide. -/
def quotient (num den : Nat) : Float :=
  let shift : Int := 57 + (den.log2 : Int) - (num.log2 : Int)
  let top := num * Nat.pow 2 shift.toNat
  let bottom := den * Nat.pow 2 (-shift).toNat
  let whole := top / bottom
  let sticky := if top % bottom = 0 then 0 else 1
  (Float.ofNat (2 * whole + sticky)).scaleB (-shift - 1)

/-- A whole number as the nearest floating-point number. -/
def ofInt (n : Int) : Float :=
  if n < 0 then -(Float.ofNat n.natAbs) else Float.ofNat n.natAbs

/-- The quotient of two whole numbers, the second not zero. -/
def divide (a b : Int) : Float :=
  if a = 0 then (if b < 0 then -0.0 else 0.0)
  else
    let q := quotient a.natAbs b.natAbs
    if (a < 0) = (b < 0) then q else -q

/-- The whole part of a finite number, cut toward zero. -/
def truncate? (x : Float) : Option Int :=
  (Binary.ofFloat? x).map fun b =>
    let (num, den) := scaled b.significand b.exponent
    if b.negative then -((num / den : Nat) : Int) else ((num / den : Nat) : Int)

/-- The number is finite and whole. -/
def isWhole (x : Float) : Bool :=
  match Binary.ofFloat? x with
  | some b =>
    let (num, den) := scaled b.significand b.exponent
    num % den = 0
  | none => false

end Scaffold.Number
