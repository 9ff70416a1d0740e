import Scaffold.Yaml.Token.Property
import Scaffold.Yaml.Trouble

/-!
# Timestamps

Days, and times on days, as YAML writes them.
-/

namespace Scaffold.Yaml

/-- A time of day as it is written; the offset is in minutes. -/
structure WrittenTime where
  hour : Nat
  minute : Nat
  second : Nat
  fraction : List Char
  offset : Option Int

/-- A timestamp as it is written. -/
structure Timestamp where
  year : Nat
  month : List Char
  day : List Char
  time : Option WrittenTime

namespace Timestamp

/-- From `least` up to `most` digits, as many as there are, and the rest. -/
def digits? (least most : Nat) (text : List Char) : Option (List Char × List Char) :=
  let found := (text.take most).takeWhile isDigit
  if least ≤ found.length then some (found, text.drop found.length) else none

def number? (least most : Nat) (text : List Char) : Option (Nat × List Char) :=
  (digits? least most text).map fun (digits, rest) => (digitsValue digits, rest)

/-- The rest behind a character. -/
def behind? (c : Char) : List Char → Option (List Char)
  | d :: rest => if c = d then some rest else none
  | [] => none

/-- What separates a day from a time. -/
def behindSeparator? : List Char → Option (List Char)
  | 'T' :: rest | 't' :: rest => some rest
  | text =>
      let rest := text.dropWhile isSpaceOrTab
      if rest.length < text.length then some rest else none

/-- Minutes of an offset behind a colon, if there is one. -/
def offsetMinutes? : List Char → Option Nat
  | [] => some 0
  | text => do
      let rest ← behind? ':' text
      let (minutes, rest) ← number? 2 2 rest
      if rest.isEmpty then some minutes else none

/-- The offset at the end of a time, if there is one. -/
def offset? (text : List Char) : Option (Option Int) :=
  if text.isEmpty then some none
  else
    match text.dropWhile isSpaceOrTab with
    | ['Z'] => some (some 0)
    | sign :: rest => do
        if sign ≠ '+' ∧ sign ≠ '-' then none
        else
          let (hours, rest) ← number? 1 2 rest
          let minutes ← offsetMinutes? rest
          let size : Int := hours * 60 + minutes
          return some (if sign = '-' then -size else size)
    | [] => none

/-- The digits of a fraction, and the rest. -/
def takeFraction : List Char → List Char × List Char
  | '.' :: rest => (rest.takeWhile isDigit, rest.dropWhile isDigit)
  | rest => ([], rest)

def time? (text : List Char) : Option WrittenTime := do
  let (hour, rest) ← number? 1 2 text
  let (minute, rest) ← number? 2 2 (← behind? ':' rest)
  let (second, rest) ← number? 2 2 (← behind? ':' rest)
  let (fraction, rest) := takeFraction rest
  return ⟨hour, minute, second, fraction, ← offset? rest⟩

/-- A timestamp, which is all of the text. -/
def read? (text : List Char) : Option Timestamp := do
  let (year, rest) ← number? 4 4 text
  let (month, rest) ← digits? 1 2 (← behind? '-' rest)
  let (day, rest) ← digits? 1 2 (← behind? '-' rest)
  if rest.isEmpty then return ⟨year, month, day, none⟩
  else return ⟨year, month, day, some (← time? (← behindSeparator? rest))⟩

/-- A text is taken for a timestamp of its own accord: a day alone has two digits for the month and
for the day. -/
def isEvident (t : Timestamp) : Bool :=
  t.time.isSome || (t.month.length = 2 && t.day.length = 2)

/-! ## The calendar -/

def isLeap (year : Nat) : Bool := year % 4 = 0 && (year % 100 ≠ 0 || year % 400 = 0)

def daysIn (year month : Nat) : Nat :=
  if month = 2 then (if isLeap year then 29 else 28)
  else if month ∈ [4, 6, 9, 11] then 30
  else 31

def checkDay (d : Day) : Except CalendarCause Day :=
  if d.year = 0 then .error (.year d.year)
  else if d.month = 0 ∨ 12 < d.month then .error .month
  else if d.day = 0 ∨ daysIn d.year d.month < d.day then .error .day
  else .ok d

def checkOffset (offset : Option Int) : Except CalendarCause Unit :=
  match offset with
  | some minutes => if 1440 ≤ minutes.natAbs then .error (.offset minutes) else .ok ()
  | none => .ok ()

/-- The microseconds that the first six digits of a fraction say. -/
def microseconds (fraction : List Char) : Nat :=
  digitsValue ((fraction ++ List.replicate 6 '0').take 6)

def checkTime (t : WrittenTime) : Except CalendarCause Clock :=
  if 24 ≤ t.hour then .error .hour
  else if 60 ≤ t.minute then .error .minute
  else if 60 ≤ t.second then .error .second
  else .ok ⟨t.hour, t.minute, t.second, microseconds t.fraction, t.offset⟩

/-- The day, or the time on it, that a timestamp means. -/
def value (t : Timestamp) : Except CalendarCause Datum := do
  let day : Day := ⟨t.year, digitsValue t.month, digitsValue t.day⟩
  match t.time with
  | none => return .date (← checkDay day)
  | some time => do
      checkOffset time.offset
      let day ← checkDay day
      return .time day (← checkTime time)

end Timestamp

end Scaffold.Yaml
