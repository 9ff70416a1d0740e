import Scaffold.Number.Shortest
import Scaffold.Text.Classes

/-!
# Reading numbers

Numbers as people write them: with blanks around, a sign, digits of any script, and single
underscores between digits.
-/

namespace Scaffold.Number

open Text

/-- The value of a digit or a letter in bases up to thirty-six. -/
def anyDigit? (c : Char) : Option Nat :=
  match digitValue? c with
  | some n => some n
  | none =>
      if 'a' ≤ c ∧ c ≤ 'z' then some (c.toNat - 'a'.toNat + 10)
      else if 'A' ≤ c ∧ c ≤ 'Z' then some (c.toNat - 'A'.toNat + 10)
      else none

/-- Digits of a base with single underscores between them; `between` says that one may follow. -/
def digitsFrom (base : Nat) (value : Nat) (between : Bool) : List Char → Option Nat
  | [] => if between then some value else none
  | '_' :: rest => if between then digitsFrom base value false rest else none
  | c :: rest => do
      let digit ← anyDigit? c
      if digit < base then digitsFrom base (value * base + digit) true rest else none

/-- A sign and what follows it. -/
def readSign : List Char → Bool × List Char
  | '-' :: rest => (true, rest)
  | '+' :: rest => (false, rest)
  | text => (false, text)

/-- The base that the letter behind a zero names. -/
def markedBase? : Char → Option Nat
  | 'b' | 'B' => some 2
  | 'o' | 'O' => some 8
  | 'x' | 'X' => some 16
  | _ => none

/-- The digits of a number and their base; base zero asks for the one that is marked. -/
def dropBaseMark (base : Nat) (text : List Char) : Nat × List Char :=
  match text with
  | '0' :: letter :: rest =>
    match markedBase? letter with
    | some marked =>
      if base = 0 ∨ base = marked then
        (marked, match rest with
          | '_' :: more => more
          | rest => rest)
      else (base, text)
    | none => (if base = 0 then 10 else base, text)
  | text => (if base = 0 then 10 else base, text)

/-- A whole number in a base. -/
def readInt? (base : Nat) (text : List Char) : Option Int := do
  let (negative, digits) := readSign (strip text)
  let (base, digits) := dropBaseMark base digits
  let n ← digitsFrom base 0 false digits
  return if negative then -(n : Int) else n

/-- Digits with single underscores between them: the digits alone, and what follows. -/
def takeDigits : List Char → List Char × List Char
  | c :: '_' :: d :: rest =>
      if (digitValue? c).isSome then
        if (digitValue? d).isSome then
          let (digits, after) := takeDigits (d :: rest)
          (c :: digits, after)
        else ([c], '_' :: d :: rest)
      else ([], c :: '_' :: d :: rest)
  | c :: rest =>
      if (digitValue? c).isSome then
        let (digits, after) := takeDigits rest
        (c :: digits, after)
      else ([], c :: rest)
  | [] => ([], [])

def digitsNumber (digits : List Char) : Nat :=
  digits.foldl (fun n c => n * 10 + (digitValue? c).getD 0) 0

/-- The fraction behind a point, if there is one. -/
def takeFraction : List Char → List Char × List Char
  | '.' :: rest => takeDigits rest
  | rest => ([], rest)

/-- The exponent behind its mark, if there is one. -/
def takeExponent : List Char → Option (Int × List Char)
  | c :: rest =>
      if c = 'e' ∨ c = 'E' then
        let (negative, rest) := readSign rest
        let (digits, rest) := takeDigits rest
        if digits.isEmpty then none
        else
          let size := min (digitsNumber digits) 100000
          some (if negative then -(size : Int) else size, rest)
      else some (0, c :: rest)
  | [] => some (0, [])

/-- The number `digits * 10 ^ exponent`, rounded to the nearest. -/
def ofDecimal (digits : Nat) (exponent : Int) : Float :=
  if 0 ≤ exponent then Float.ofScientific digits false exponent.toNat
  else Float.ofScientific digits true (-exponent).toNat

/-- A floating-point number. -/
def readFloat? (text : List Char) : Option Float := do
  let (negative, body) := readSign (strip text)
  let word := String.ofList (body.map Char.toLower)
  let size ←
    if word = "inf" ∨ word = "infinity" then some (1.0 / 0.0)
    else if word = "nan" then some (0.0 / 0.0)
    else
      let (whole, rest) := takeDigits body
      let (fraction, rest) := takeFraction rest
      if whole.isEmpty && fraction.isEmpty then none
      else
        match takeExponent rest with
        | some (exponent, []) =>
            some (ofDecimal (digitsNumber (whole ++ fraction)) (exponent - fraction.length))
        | _ => none
  return if negative then -size else size

end Scaffold.Number
