import Scaffold.Number.Binary

/-!
# Shortest decimals

The decimal text of a floating-point number: the fewest digits that read back as that number, and
of those the nearest to it.
-/

namespace Scaffold.Number

/-- The decimal `digits * 10 ^ exponent`. -/
structure Decimal where
  digits : Nat
  exponent : Int
  deriving DecidableEq, Repr

/-- The order of `c * 10 ^ k` and `num / den`. -/
def compareDecimal (c : Nat) (k : Int) (num den : Nat) : Ordering :=
  compare (c * Nat.pow 10 k.toNat * den) (num * Nat.pow 10 (-k).toNat)

/-- The numbers that round to a given one: the ends, as multiples of a quarter of its last place,
and whether the ends belong to it. -/
structure Interval where
  low : Nat × Nat
  high : Nat × Nat
  closed : Bool

def Binary.interval (b : Binary) : Interval where
  low := scaled (4 * b.significand - if b.atPower then 1 else 2) (b.exponent - 2)
  high := scaled (4 * b.significand + 2) (b.exponent - 2)
  closed := b.significand % 2 = 0

def Interval.contains (i : Interval) (c : Nat) (k : Int) : Bool :=
  match compareDecimal c k i.low.1 i.low.2, compareDecimal c k i.high.1 i.high.2 with
  | .gt, .lt => true
  | .eq, .lt | .gt, .eq | .eq, .eq => i.closed
  | _, _ => false

/-- The exponent of the leading decimal digit of a positive quotient. -/
def leadingExponent (num den : Nat) : Int :=
  let guess : Int := ((Nat.toDigits 10 num).length : Int) - (Nat.toDigits 10 den).length
  if compareDecimal 1 guess num den == .gt then guess - 1 else guess

/-- Of the two neighbours on the grid of `10 ^ k`, the one that reads back and lies nearer; of two
equally near ones the even one. -/
def onGrid? (num den : Nat) (i : Interval) (k : Int) : Option Decimal :=
  let top := num * Nat.pow 10 (-k).toNat
  let bottom := den * Nat.pow 10 k.toNat
  let below := top / bottom
  let rest := top % bottom
  let lower := i.contains below k
  let upper := i.contains (below + 1) k
  let nearer := 2 * rest < bottom || (2 * rest == bottom && below % 2 == 0)
  if lower && (nearer || !upper) then some ⟨below, k⟩
  else if upper then some ⟨below + 1, k⟩
  else none

/-- The first grid, from `count` digits on, that has a decimal which reads back. -/
def shortestFrom (num den : Nat) (i : Interval) (lead : Int) : Nat → Nat → Decimal
  | _, 0 => ⟨num * Nat.pow 10 20 / den, -20⟩
  | count, tries + 1 =>
      match onGrid? num den i (lead - count + 1) with
      | some d => d
      | none => shortestFrom num den i lead (count + 1) tries

/-- The shortest decimal of a positive number. -/
def Binary.shortest (b : Binary) : Decimal :=
  let (num, den) := scaled b.significand b.exponent
  shortestFrom num den b.interval (leadingExponent num den) 1 20

/-- How a decimal is written: which exponents of the leading digit are written without exponent
mark, the mark, and the least number of exponent digits. -/
structure DecimalStyle where
  least : Int
  most : Int
  mark : String
  width : Nat

/-- Positional from `1e-4` to below `1e16`; an exponent has a sign and at least two digits. -/
def plainStyle : DecimalStyle := ⟨-4, 15, "e", 2⟩

/-- Without zeros at the end. -/
def dropTrailingZeros (digits : List Char) : List Char :=
  (digits.reverse.dropWhile (· == '0')).reverse

/-- A whole number of at least `width` digits. -/
def padDigits (width n : Nat) : String :=
  let digits := Nat.toDigits 10 n
  String.ofList (List.replicate (width - digits.length) '0' ++ digits)

/-- The exponent part of a decimal. -/
def exponentText (style : DecimalStyle) (e : Int) : String :=
  style.mark ++ (if e < 0 then "-" else "+") ++ padDigits style.width e.natAbs

/-- A positive decimal; a whole number keeps one place after the point. -/
def DecimalStyle.write (style : DecimalStyle) (d : Decimal) : String :=
  let digits := Nat.toDigits 10 d.digits
  let lead := d.exponent + digits.length - 1
  let digits := dropTrailingZeros digits
  if lead < style.least ∨ style.most < lead then
    let (first, rest) := digits.splitAt 1
    let fraction := if rest.isEmpty then [] else '.' :: rest
    String.ofList (first ++ fraction) ++ exponentText style lead
  else if lead < 0 then
    String.ofList ('0' :: '.' :: List.replicate (-lead - 1).toNat '0' ++ digits)
  else
    let whole := digits.take (lead.toNat + 1)
    let whole := whole ++ List.replicate (lead.toNat + 1 - whole.length) '0'
    let fraction := digits.drop (lead.toNat + 1)
    String.ofList (whole ++ '.' :: if fraction.isEmpty then ['0'] else fraction)

/-- The text of a floating-point number. -/
def floatText (x : Float) : String :=
  match Binary.ofFloat? x with
  | none => if x.isNaN then "nan" else if x < 0 then "-inf" else "inf"
  | some b =>
    let text := if b.significand = 0 then "0.0" else plainStyle.write b.shortest
    if b.negative then "-" ++ text else text

end Scaffold.Number
