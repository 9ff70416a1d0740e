import Scaffold.Datum

/-!
# Trouble with YAML

Why a text gives no data.  Most texts that do not are malformed; the other causes concern single
scalars whose tag promises more than they hold.
-/

namespace Scaffold.Yaml

inductive CalendarCause where
  | year (year : Nat)
  | month
  | day
  | hour
  | minute
  | second
  | offset (minutes : Int)
  deriving DecidableEq, Repr

inductive Trouble where
  /-- No YAML, or YAML that is no plain data. -/
  | malformed
  /-- The escape of a number that no character has. -/
  | noCharacter (code : Nat)
  /-- A word that is no truth value. -/
  | noTruth (word : String)
  | emptyNumber
  | notWhole (base : Nat) (text : String)
  | tooLong (digits : Nat)
  | notReal (text : String)
  | notTimestamp
  /-- A timestamp whose text is the value that stands for a whole mapping. -/
  | standingTimestamp
  | calendar (cause : CalendarCause)
  deriving DecidableEq, Repr

def CalendarCause.message : CalendarCause → String
  | year y => s!"year {y} is out of range"
  | month => "month must be in 1..12"
  | day => "day is out of range for month"
  | hour => "hour must be in 0..23"
  | minute => "minute must be in 0..59"
  | second => "second must be in 0..59"
  | offset minutes =>
      "offset must be a timedelta strictly between -timedelta(hours=24) and "
        ++ s!"timedelta(hours=24), not {Datum.showSpan minutes}."

/-- The number of digits that a decimal number may have. -/
def digitLimit : Nat := 4300

/-- The largest number that the escape of a character is taken for at all. -/
def codeLimit : Nat := Nat.pow 2 31

/-- The literal form of a text, cut where it is long. -/
def briefly (text : String) : String := String.ofList ((Text.quoted text.toList).take 200)

def Trouble.message : Trouble → String
  | malformed => "malformed"
  | noCharacter code =>
      if code < codeLimit then "chr() arg not in range(0x110000)"
      else "Python int too large to convert to C int"
  | noTruth word => Text.quote word
  | emptyNumber => "string index out of range"
  | notWhole base text => s!"invalid literal for int() with base {base}: {briefly text}"
  | tooLong digits =>
      s!"Exceeds the limit ({digitLimit} digits) for integer string conversion: value has "
        ++ s!"{digits} digits; use sys.set_int_max_str_digits() to increase the limit"
  | notReal text => s!"could not convert string to float: {Text.quote text}"
  | notTimestamp => "'NoneType' object has no attribute 'groupdict'"
  | standingTimestamp => "expected string or bytes-like object, got 'list'"
  | calendar cause => cause.message

/-- What is not there makes a text malformed. -/
def orMalformed (result : Option α) : Except Trouble α :=
  match result with
  | some a => .ok a
  | none => .error .malformed

end Scaffold.Yaml
