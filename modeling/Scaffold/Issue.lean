import Scaffold.Datum
import Scaffold.Text.Utf8

/-!
# Issues

What is wrong with single fields of a record, and the reading of fields.
-/

namespace Scaffold

inductive IssueCause where
  | missing
  | notText
  | notUnicode
  | tooShort
  | unreadableBool
  | notBool
  | unexpected
  | frozen
  | noSuchField (name : String)
  | notMapping
  | keyNotText
  deriving DecidableEq, Repr

namespace IssueCause

/-- The short name of the cause. -/
def code : IssueCause → String
  | missing => "missing"
  | notText => "string_type"
  | notUnicode => "string_unicode"
  | tooShort => "string_too_short"
  | unreadableBool => "bool_parsing"
  | notBool => "bool_type"
  | unexpected => "extra_forbidden"
  | frozen => "frozen_instance"
  | noSuchField _ => "no_such_attribute"
  | notMapping => "model_type"
  | keyNotText => "invalid_key"

def message : IssueCause → String
  | missing => "Field required"
  | notText => "Input should be a valid string"
  | notUnicode => "Input should be a valid string, unable to parse raw data as a unicode string"
  | tooShort => "String should have at least 1 character"
  | unreadableBool => "Input should be a valid boolean, unable to interpret input"
  | notBool => "Input should be a valid boolean"
  | unexpected => "Extra inputs are not permitted"
  | frozen => "Instance is frozen"
  | noSuchField name => s!"Object has no attribute '{name}'"
  | notMapping => "Input should be a valid dictionary or instance of GeneratorSettings"
  | keyNotText => "Keys should be strings"

end IssueCause

/-- A whole number fits into sixty-four bits; beyond that it is neither a truth value nor a place. -/
def isWord (n : Int) : Bool := -9223372036854775808 ≤ n && n < 9223372036854775808

/-- A cause with the key of the field that it concerns, if it concerns one. -/
structure Issue where
  key? : Option Datum
  cause : IssueCause

namespace Issue

def ofField (name : String) (cause : IssueCause) : Issue := ⟨some (.text name), cause⟩

/-- Where an issue is: a number or a text.  Keys of other kinds are shown in their literal form. -/
def place? (issue : Issue) : Option (Int ⊕ String) :=
  issue.key?.map fun
    | .bool b => .inl (if b then 1 else 0)
    | .int n => if isWord n then .inl n else .inr s!"{n}"
    | key => .inr key.display

end Issue

/-- Fields in the order in which they were given. -/
abbrev Fields := List (String × Datum)

namespace Fields

/-- Text, or bytes that are text. -/
def readText : Datum → Except IssueCause String
  | .text s => .ok s
  | .bytes b =>
    match Text.decodeUtf8 b with
    | .ok s => .ok s
    | .error _ => .error .notUnicode
  | _ => .error .notText

def trueWords : List String := ["true", "yes", "on", "t", "y", "1"]

def falseWords : List String := ["false", "no", "off", "f", "n", "0"]

/-- The truth value that a word says, whatever its case. -/
def boolOfWord? (word : String) : Option Bool :=
  let word := String.ofList (word.toList.map Char.toLower)
  if trueWords.contains word then some true
  else if falseWords.contains word then some false
  else none

/-- The truth value of one and zero. -/
def boolOfInt? (n : Int) : Option Bool :=
  if n = 1 then some true else if n = 0 then some false else none

/-- A truth value, a word for one, or the number one or zero. -/
def readBool : Datum → Except IssueCause Bool
  | .bool b => .ok b
  | .text s => orUnreadable (boolOfWord? s)
  | .bytes b =>
    match Text.decodeUtf8 b with
    | .ok s => orUnreadable (boolOfWord? s)
    | .error _ => .error .notBool
  | .int n => if isWord n then orUnreadable (boolOfInt? n) else .error .notBool
  | .float x =>
    match Number.truncate? x with
    | some n =>
        if Number.isWhole x && isWord n then orUnreadable (boolOfInt? n) else .error .notBool
    | none => .error .notBool
  | _ => .error .notBool
where
  orUnreadable : Option Bool → Except IssueCause Bool
    | some b => .ok b
    | none => .error .unreadableBool

/-- A field that may be left out. -/
def optional (fields : Fields) (name : String) (read : Datum → Except IssueCause α)
    (default : α) : Except Issue α :=
  match fields.lookup name with
  | some d => (read d).mapError (Issue.ofField name)
  | none => .ok default

/-- A field that must be given. -/
def required (fields : Fields) (name : String) (read : Datum → Except IssueCause α) :
    Except Issue α :=
  match fields.lookup name with
  | some d => (read d).mapError (Issue.ofField name)
  | none => .error (.ofField name .missing)

/-- The issue of a field, if it has one. -/
def issues : Except Issue α → List Issue
  | .ok _ => []
  | .error issue => [issue]

/-- An issue for each field that is not among the known ones. -/
def unexpected (fields : Fields) (known : List String) : List Issue :=
  (fields.filter fun f => !known.contains f.1).map fun f => .ofField f.1 .unexpected

end Fields

end Scaffold
