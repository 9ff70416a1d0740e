import Scaffold.Yaml.Node
import Scaffold.Yaml.Timestamp

/-!
# Resolution

The kind of data that a plain scalar is of its own accord: a truth value, a number, nothing, a
timestamp, or else text.
-/

namespace Scaffold.Yaml

def truthWords : List String :=
  ["yes", "Yes", "YES", "no", "No", "NO", "true", "True", "TRUE", "false", "False", "FALSE",
    "on", "On", "ON", "off", "Off", "OFF"]

def nullWords : List String := ["~", "null", "Null", "NULL", ""]

namespace Written

/-- Without a sign. -/
def unsigned : List Char → List Char
  | '-' :: rest | '+' :: rest => rest
  | text => text

def isDigitOrLine (c : Char) : Bool := isDigit c || c = '_'

/-- One digit or more of a class. -/
def areDigits (p : Char → Bool) (text : List Char) : Bool := !text.isEmpty && text.all p

/-- A digit with digits and underscores behind it, and the rest. -/
def digitsAndLines? : List Char → Option (List Char)
  | c :: rest => if isDigit c then some (rest.dropWhile isDigitOrLine) else none
  | [] => none

/-- A number below sixty of one or two digits behind each colon. -/
def isBase60 (part : List Char) : Bool :=
  match part with
  | [d] => isDigit d
  | [c, d] => '0' ≤ c && c ≤ '5' && isDigit d
  | _ => false

/-- Groups behind a first number, with a colon before each of them. -/
def areGroups : List Char → Bool
  | ':' :: rest => (rest.splitOn ':').all isBase60
  | _ => false

def isInt (text : List Char) : Bool :=
  match unsigned text with
  | ['0'] => true
  | '0' :: 'b' :: digits => areDigits (· ∈ ['0', '1', '_']) digits
  | '0' :: 'x' :: digits => areDigits (fun c => (hexValue? c).isSome || c = '_') digits
  | '0' :: digits => areDigits (fun c => ('0' ≤ c && c ≤ '7') || c = '_') digits
  | text =>
    match digitsAndLines? text with
    | some [] => true
    | some rest => areGroups rest
    | none => false

/-- An exponent with its sign, or nothing. -/
def isExponent : List Char → Bool
  | [] => true
  | mark :: sign :: digits =>
      (mark = 'e' || mark = 'E') && (sign = '+' || sign = '-') && areDigits isDigit digits
  | _ => false

/-- Digits behind a point, with an exponent. -/
def isFraction (text : List Char) : Bool := isExponent (text.dropWhile isDigitOrLine)

/-- Digits, groups and a point with digits behind it. -/
def isGroupsWithPoint (text : List Char) : Bool :=
  let groups := text.takeWhile (· ≠ '.')
  match text.dropWhile (· ≠ '.') with
  | '.' :: digits => areGroups groups && digits.all isDigitOrLine
  | _ => false

def isFloat (text : List Char) : Bool :=
  let word := String.ofList text
  let plain := unsigned text
  let number := match digitsAndLines? plain with
    | some ('.' :: rest) => isFraction rest
    | some rest => isGroupsWithPoint rest
    | none => false
  let fraction := match text with
    | '.' :: c :: rest => isDigit c && isFraction rest
    | _ => false
  number || fraction || String.ofList plain ∈ [".inf", ".Inf", ".INF"]
    || word ∈ [".nan", ".NaN", ".NAN"]

end Written

/-- The kind of a scalar without a tag. -/
def Tag.ofEvidence (text : List Char) : Tag :=
  let word := String.ofList text
  if truthWords.contains word then .bool
  else if Written.isFloat text then .float
  else if Written.isInt text then .int
  else if word = "<<" then .merge
  else if nullWords.contains word then .null
  else if ((Timestamp.read? text).map Timestamp.isEvident).getD false then .timestamp
  else if word = "=" then .value
  else if word = "!" ∨ word = "&" ∨ word = "*" then .unknown
  else .str

/-- The kind of a plain scalar; a line end behind what is evident does not matter. -/
def Tag.ofPlain (text : List Char) : Tag :=
  let body := text.dropLast
  if text.getLast? = some '\n' && !body.isEmpty then .ofEvidence body else .ofEvidence text

end Scaffold.Yaml
