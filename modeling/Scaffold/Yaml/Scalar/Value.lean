import Scaffold.Number.Reading
import Scaffold.Text.Base64
import Scaffold.Text.Case
import Scaffold.Yaml.Node
import Scaffold.Yaml.Timestamp

/-!
# Values of scalars

The data that the text of a scalar means under its tag.
-/

namespace Scaffold.Yaml.Scalar

/-- The truth values by their words in lower case. -/
def truths : List (List Char × Bool) :=
  [("yes".toList, true), ("no".toList, false), ("true".toList, true), ("false".toList, false),
    ("on".toList, true), ("off".toList, false)]

def truth (text : List Char) : Except Trouble Datum :=
  let word := Text.lower text
  match truths.lookup word with
  | some b => .ok (.bool b)
  | none => .error (.noTruth (String.ofList word))

def withoutLines (text : List Char) : List Char := text.filter (· ≠ '_')

/-- The number of digits at the beginning of a number. -/
def leadingDigits (text : List Char) : Nat :=
  (((Number.readSign (Text.strip text)).2).takeWhile fun c => (Text.digitValue? c).isSome).length

/-- A whole number in a base. -/
def wholeIn (base : Nat) (text : List Char) : Except Trouble Int :=
  if base = 10 ∧ digitLimit < leadingDigits text then .error (.tooLong (leadingDigits text))
  else
    match Number.readInt? base text with
    | some n => .ok n
    | none => .error (.notWhole base (String.ofList text))

/-- The number whose digits to base sixty are given. -/
def base60 (digits : List Int) : Int := digits.foldl (fun n d => n * 60 + d) 0

/-- A whole number without a sign.  A leading zero marks the base. -/
def unsignedWhole (text : List Char) : Except Trouble Int :=
  match text with
  | [] => .error .emptyNumber
  | ['0'] => .ok 0
  | '0' :: 'b' :: rest => wholeIn 2 rest
  | '0' :: 'x' :: rest => wholeIn 16 rest
  | '0' :: _ => wholeIn 8 text
  | _ =>
      if text.contains ':' then base60 <$> (text.splitOn ':').mapM (wholeIn 10)
      else wholeIn 10 text

def whole (text : List Char) : Except Trouble Datum :=
  match withoutLines text with
  | [] => .error .emptyNumber
  | text => do
      let (negative, digits) := Number.readSign text
      let n ← unsignedWhole digits
      return .int (if negative then -n else n)

def realOf (text : List Char) : Except Trouble Float :=
  match Number.readFloat? text with
  | some x => .ok x
  | none => .error (.notReal (String.ofList text))

/-- The sum of digits to base sixty, taken from the right. -/
def base60Sum (value : Float) (base : Nat) : List Float → Float
  | [] => value
  | digit :: rest => base60Sum (value + digit * Number.ofInt base) (base * 60) rest

def unsignedReal (text : List Char) : Except Trouble Float :=
  if text.contains ':' then do
    let digits ← (text.splitOn ':').mapM realOf
    return base60Sum 0.0 1 digits.reverse
  else realOf text

def real (text : List Char) : Except Trouble Datum :=
  match Text.lower (withoutLines text) with
  | [] => .error .emptyNumber
  | text => do
      let (negative, digits) := Number.readSign text
      let word := String.ofList digits
      if word = ".nan" then return .float (0.0 / 0.0)
      else
        let x ← if word = ".inf" then pure (1.0 / 0.0) else unsignedReal digits
        return .float (if negative then -x else x)

/-- The bytes that a text of characters up to 127 encodes. -/
def binary (text : List Char) : Except Trouble Datum :=
  if text.all fun c => c.toNat < 128 then
    match Text.decodeBase64 text with
    | some bytes => .ok (.bytes bytes)
    | none => .error .malformed
  else .error .malformed

/-- A timestamp, with a line end behind it or none. -/
def timestamp (text : List Char) : Except Trouble Datum :=
  let text := if text.getLast? = some '\n' then text.dropLast else text
  match Timestamp.read? text with
  | some t => t.value.mapError .calendar
  | none => .error .notTimestamp

/-- The data of a scalar whose tag is one of scalars. -/
def value (tag : Tag) (text : List Char) : Except Trouble Datum :=
  match tag with
  | .null => .ok .null
  | .bool => truth text
  | .int => whole text
  | .float => real text
  | .binary => binary text
  | .timestamp => timestamp text
  | .str => .ok (.text (String.ofList text))
  | _ => .error .malformed

end Scaffold.Yaml.Scalar
