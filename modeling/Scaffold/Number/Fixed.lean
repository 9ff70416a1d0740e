import Scaffold.Number.Shortest

/-!
# Decimals of a given precision

Decimal texts with a fixed number of places or digits, correctly rounded with ties to even, and
the rounding of numbers to decimal places.
-/

namespace Scaffold.Number

/-- A quotient rounded to the nearest whole number, ties to the even one. -/
def roundHalfEven (num den : Nat) : Nat :=
  let whole := num / den
  let rest := num % den
  if 2 * rest < den then whole
  else if den < 2 * rest then whole + 1
  else if whole % 2 = 0 then whole
  else whole + 1

/-- `num / den * 10 ^ places`, rounded. -/
def scaledDigits (num den : Nat) (places : Int) : Nat :=
  roundHalfEven (num * Nat.pow 10 places.toNat) (den * Nat.pow 10 (-places).toNat)

/-- Digits with a point before the last `places` of them. -/
def withPoint (digits places : Nat) (keepPoint : Bool) : String :=
  let text := (padDigits (places + 1) digits).toList
  let whole := text.take (text.length - places)
  let fraction := text.drop (text.length - places)
  String.ofList (if fraction.isEmpty && !keepPoint then whole else whole ++ '.' :: fraction)

/-- A fixed number of places. -/
def fixedText (num den places : Nat) (keepPoint : Bool) : String :=
  withPoint (scaledDigits num den places) places keepPoint

/-- The digits and the exponent of a quotient in exponent form with so many places. -/
def exponentForm (num den places : Nat) : Nat × Int :=
  if num = 0 then (0, 0)
  else
    let lead := leadingExponent num den
    let digits := scaledDigits num den (places - lead)
    if Nat.pow 10 (places + 1) ≤ digits then (digits / 10, lead + 1) else (digits, lead)

def exponentFixedText (num den places : Nat) (keepPoint : Bool) : String :=
  let (digits, e) := exponentForm num den places
  withPoint digits places keepPoint ++ exponentText plainStyle e

/-- Without zeros at the end of the fraction and without a point that ends the text. -/
def dropFractionZeros (text : String) : String :=
  if text.toList.contains '.' then
    let kept := dropTrailingZeros text.toList
    String.ofList (if kept.getLast? = some '.' then kept.dropLast else kept)
  else text

/-- So many digits, in the shorter of the two forms. -/
def generalText (num den digits : Nat) (keepZeros : Bool) : String :=
  let digits := max digits 1
  let (_, e) := exponentForm num den (digits - 1)
  if -4 ≤ e ∧ e < digits then
    let text := fixedText num den (digits - 1 - e).toNat keepZeros
    if keepZeros then text else dropFractionZeros text
  else
    let (kept, e) := exponentForm num den (digits - 1)
    let mantissa := withPoint kept (digits - 1) keepZeros
    (if keepZeros then mantissa else dropFractionZeros mantissa) ++ exponentText plainStyle e

/-- A number rounded to decimal places, ties to the even digit. -/
def roundPlaces (x : Float) (places : Int) : Float :=
  match Binary.ofFloat? x with
  | none => x
  | some b =>
      let (num, den) := scaled b.significand b.exponent
      let digits := scaledDigits num den places
      let size :=
        if digits = 0 then 0.0
        else quotient (digits * Nat.pow 10 (-places).toNat) (Nat.pow 10 places.toNat)
      if b.negative then -size else size

end Scaffold.Number
