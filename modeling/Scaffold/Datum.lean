import Scaffold.Number.Shortest
import Scaffold.Text.Quoted

/-!
# Data

Plain data as requests and settings files carry it, and the form in which messages show it.
-/

namespace Scaffold

/-- A calendar day. -/
structure Day where
  year : Nat
  month : Nat
  day : Nat
  deriving DecidableEq, Repr

/-- A time of day; `offset` is minutes east of Greenwich, if known. -/
structure Clock where
  hour : Nat
  minute : Nat
  second : Nat
  microsecond : Nat
  offset : Option Int
  deriving DecidableEq, Repr

inductive Datum where
  | null
  | bool (b : Bool)
  | int (n : Int)
  | float (x : Float)
  | text (s : String)
  | bytes (b : ByteArray)
  | date (d : Day)
  | time (d : Day) (t : Clock)
  | list (items : List Datum)
  | pair (first second : Datum)
  | dict (entries : List (Datum × Datum))
  | set (items : List Datum)

namespace Datum

/-- The name of the kind of data. -/
def typeName : Datum → String
  | null => "NoneType"
  | bool _ => "bool"
  | int _ => "int"
  | float _ => "float"
  | text _ => "str"
  | bytes _ => "bytes"
  | date _ => "date"
  | time _ _ => "datetime"
  | list _ => "list"
  | pair _ _ => "tuple"
  | dict _ => "dict"
  | set _ => "set"

/-- Null, zero, and whatever is empty. -/
def isFalsy : Datum → Bool
  | null => true
  | bool b => !b
  | int n => n == 0
  | float x => x == 0
  | text s => s.isEmpty
  | bytes b => b.isEmpty
  | list items => items.isEmpty
  | dict entries => entries.isEmpty
  | set items => items.isEmpty
  | date _ | time _ _ | pair _ _ => false

/-- Data that may be a key: everything but lists, dictionaries and sets. -/
def isHashable : Datum → Bool
  | list _ | dict _ | set _ => false
  | pair a b => a.isHashable && b.isHashable
  | _ => true

def showDay (d : Day) : String := s!"datetime.date({d.year}, {d.month}, {d.day})"

/-- A span of minutes in days and seconds. -/
def showSpan (minutes : Int) : String :=
  let seconds := minutes * 60
  let days := seconds.fdiv 86400
  let rest := seconds.fmod 86400
  let parts :=
    if days = 0 then s!"seconds={rest}"
    else if rest = 0 then s!"days={days}"
    else s!"days={days}, seconds={rest}"
  s!"datetime.timedelta({parts})"

/-- An offset from Greenwich. -/
def showOffset (minutes : Int) : String :=
  if minutes = 0 then "datetime.timezone.utc" else s!"datetime.timezone({showSpan minutes})"

/-- Seconds are left out if they are zero, and so on to the right end. -/
def showTime (d : Day) (t : Clock) : String :=
  let seconds :=
    if t.microsecond ≠ 0 then s!", {t.second}, {t.microsecond}"
    else if t.second ≠ 0 then s!", {t.second}"
    else ""
  let zone := match t.offset with
    | none => ""
    | some minutes => s!", tzinfo={showOffset minutes}"
  s!"datetime.datetime({d.year}, {d.month}, {d.day}, {t.hour}, {t.minute}{seconds}{zone})"

mutual
/-- The literal form of data. -/
def literal : Datum → String
  | null => "None"
  | bool b => if b then "True" else "False"
  | int n => s!"{n}"
  | float x => Number.floatText x
  | text s => Text.quote s
  | bytes b => Text.quoteBytes b
  | date d => showDay d
  | time d t => showTime d t
  | list items => "[" ++ ", ".intercalate (literals items) ++ "]"
  | pair a b => "(" ++ a.literal ++ ", " ++ b.literal ++ ")"
  | dict entries => "\x7b" ++ ", ".intercalate (entryLiterals entries) ++ "\x7d"
  | set items =>
      if items.isEmpty then "set()"
      else "\x7b" ++ ", ".intercalate (literals items) ++ "\x7d"

def literals : List Datum → List String
  | [] => []
  | item :: rest => item.literal :: literals rest

def entryLiterals : List (Datum × Datum) → List String
  | [] => []
  | (key, value) :: rest => (key.literal ++ ": " ++ value.literal) :: entryLiterals rest
end

/-- The form of data in running text: text stands for itself. -/
def display : Datum → String
  | text s => s
  | other => other.literal

/-- The value of a key. -/
def lookup? (key : String) : List (Datum × Datum) → Option Datum
  | [] => none
  | (text k, value) :: rest => if k = key then some value else lookup? key rest
  | _ :: rest => lookup? key rest

end Datum

end Scaffold
