import Scaffold.Text.Classes
import Scaffold.Text.Quoted

/-!
# Literals in tags

The longest number at the beginning of a text, and the value of a quoted text with its escapes.
-/

namespace Scaffold.Template

open Text

def isDigit (c : Char) : Bool := (digitValue? c).isSome

/-- Digits in one run, and the text after them. -/
def digitRun (text : List Char) : List Char × List Char := text.span isDigit

/-- Runs of digits joined by single underscores: the number of characters they take.  The first
argument bounds the number of runs. -/
def digitGroups : Nat → List Char → Nat
  | 0, _ => 0
  | fuel + 1, text =>
      let (run, rest) := digitRun text
      if run.isEmpty then 0
      else
        match rest with
        | '_' :: more =>
          let next := digitGroups fuel more
          if next = 0 then run.length else run.length + 1 + next
        | _ => run.length

/-- The characters of `digitGroups`. -/
def groupLength (text : List Char) : Nat := digitGroups text.length text

/-- The length of a point with digits behind it, or zero. -/
def fractionLength : List Char → Nat
  | '.' :: rest => let n := groupLength rest; if n = 0 then 0 else n + 1
  | _ => 0

/-- The length of an exponent, or zero. -/
def exponentLength : List Char → Nat
  | c :: rest =>
      if c = 'e' ∨ c = 'E' then
        match rest with
        | '+' :: more | '-' :: more => let n := groupLength more; if n = 0 then 0 else n + 2
        | _ => let n := groupLength rest; if n = 0 then 0 else n + 1
      else 0
  | [] => 0

/-- The length of the number with a point or an exponent at the beginning of the text. -/
def floatLength? (text : List Char) : Option Nat :=
  let whole := groupLength text
  if whole = 0 then none
  else
    let rest := text.drop whole
    let fraction := fractionLength rest
    let exponent := exponentLength (rest.drop fraction)
    if fraction = 0 && exponent = 0 then none else some (whole + fraction + exponent)

/-- Single characters of a class, each with an underscore before it or not. -/
def markedRun (p : Char → Bool) : List Char → Nat
  | '_' :: c :: rest => if p c then 2 + markedRun p rest else 0
  | c :: rest => if p c then 1 + markedRun p rest else 0
  | [] => 0

/-- A number in a base other than ten: its letter, its base and its digits. -/
def bases : List (Char × Nat × (Char → Bool)) :=
  [('b', 2, fun c => c = '0' || c = '1'),
    ('o', 8, fun c => '0' ≤ c && c ≤ '7'),
    ('x', 16, fun c => isDigit c || ('a' ≤ c.toLower && c.toLower ≤ 'f'))]

/-- The length and the base of the whole number at the beginning of the text. -/
def intLength? (text : List Char) : Option (Nat × Nat) :=
  match text with
  | '0' :: rest =>
      let marked := match rest with
        | letter :: more =>
          match bases.find? fun b => b.1 = letter.toLower with
          | some (_, base, p) =>
            let n := markedRun p more
            if n = 0 then none else some (n + 2, base)
          | none => none
        | [] => none
      match marked with
      | some found => some found
      | none => some (1 + markedRun (· = '0') rest, 10)
  | c :: rest => if '1' ≤ c && c ≤ '9' then some (1 + markedRun isDigit rest, 10) else none
  | [] => none

/-- The value of a digit in any base up to sixteen. -/
def anyDigit (c : Char) : Nat :=
  match digitValue? c with
  | some n => n
  | none => c.toLower.toNat - 'a'.toNat + 10

/-- The whole number that digits of a base write; underscores do not count. -/
def digitsValue (base : Nat) (digits : List Char) : Nat :=
  (digits.filter (· ≠ '_')).foldl (fun n c => n * base + anyDigit c) 0

def intValue (base : Nat) (literal : List Char) : Nat :=
  digitsValue base (if base = 10 then literal else literal.drop 2)

/-- The number that digits with point and exponent write. -/
def floatValue (literal : List Char) : Float :=
  let literal := literal.filter (· ≠ '_')
  let (mantissa, exponent) := literal.span fun c => c ≠ 'e' && c ≠ 'E'
  let (whole, fraction) := mantissa.span (· ≠ '.')
  let fraction := fraction.drop 1
  let exponent := exponent.drop 1
  let size : Int := digitsValue 10 (exponent.filter isDigit)
  let size := min size 100000
  let shift : Int := (if exponent.head? = some '-' then -size else size) - fraction.length
  let digits := digitsValue 10 (whole ++ fraction)
  if 0 ≤ shift then Float.ofScientific digits false shift.toNat
  else Float.ofScientific digits true (-shift).toNat

/-- The length of the quoted text at the beginning, with its quotes.  A backslash takes the next
character with it. -/
def closingQuote? (quote : Char) : List Char → Option Nat
  | [] => none
  | '\\' :: _ :: rest => (closingQuote? quote rest).map (· + 2)
  | '\\' :: [] => none
  | c :: rest => if c = quote then some 1 else (closingQuote? quote rest).map (· + 1)

def textLength? : List Char → Option Nat
  | c :: rest => if c = '\'' ∨ c = '"' then (closingQuote? c rest).map (· + 1) else none
  | [] => none

def isHexDigit (c : Char) : Bool :=
  ('0' ≤ c && c ≤ '9') || ('a' ≤ c && c ≤ 'f') || ('A' ≤ c && c ≤ 'F')

def isOctalDigit (c : Char) : Bool := '0' ≤ c && c ≤ '7'

/-- Escapes of one letter. -/
def letterEscape? : Char → Option (List Char)
  | '\n' => some []
  | '\\' => some ['\\']
  | '\'' => some ['\'']
  | '"' => some ['"']
  | 'b' => some ['\x08']
  | 'f' => some ['\x0c']
  | 't' => some ['\t']
  | 'n' => some ['\n']
  | 'r' => some ['\r']
  | 'v' => some ['\x0b']
  | 'a' => some ['\x07']
  | _ => none

/-- How many hexadecimal digits follow the letter of an escape. -/
def hexEscape? : Char → Option Nat
  | 'x' => some 2
  | 'u' => some 4
  | 'U' => some 8
  | _ => none

def shortEscape : Char → String
  | 'x' => "truncated \\xXX escape"
  | 'u' => "truncated \\uXXXX escape"
  | _ => "truncated \\UXXXXXXXX escape"

/-- The text that escapes stand for; an unknown escape stands for itself.  The first argument
bounds the number of characters. -/
def unescapeFrom : Nat → List Char → Except String (List Char)
  | 0, _ | _, [] => .ok []
  | fuel + 1, '\\' :: c :: rest =>
      match letterEscape? c, hexEscape? c with
      | some chars, _ => return chars ++ (← unescapeFrom fuel rest)
      | none, some width =>
        let digits := (rest.take width).takeWhile isHexDigit
        if digits.length < width then .error (shortEscape c)
        else
          let code := digitsValue 16 digits
          if 0x10ffff < code then .error "illegal Unicode character"
          else return Char.ofNat code :: (← unescapeFrom fuel (rest.drop width))
      | none, none =>
        if isOctalDigit c then
          let digits := ((c :: rest).take 3).takeWhile isOctalDigit
          return Char.ofNat (digitsValue 8 digits)
            :: (← unescapeFrom fuel ((c :: rest).drop digits.length))
        else if c = 'N' then
          .error (if rest.head? = some '\x7b' then "unknown Unicode character name"
            else "malformed \\N character escape")
        else return '\\' :: c :: (← unescapeFrom fuel rest)
  | fuel + 1, c :: rest => return c :: (← unescapeFrom fuel rest)

/-- The value of the inside of a quoted text.  Characters beyond ASCII count as their escapes. -/
def unescape (inside : List Char) : Except String (List Char) :=
  let plain := inside.flatMap fun c => if c.toNat < 0x80 then [c] else codeEscape c.toNat
  unescapeFrom plain.length plain

end Scaffold.Template
