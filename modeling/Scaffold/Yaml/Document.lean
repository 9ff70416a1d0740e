import Scaffold.Yaml.Node.Reader
import Scaffold.Yaml.Scalar.Value
import Scaffold.Yaml.Token.Lexer

/-!
# Documents

The data of a YAML document.  Collections are filled level by level, so of several troubles the one
nearest to the root is met first, and of those of one level the leftmost.
-/

namespace Scaffold.Yaml

/-- A trouble and the level of collections at which it is met. -/
structure Setback where
  level : Nat
  trouble : Trouble

/-- Data, or the first trouble met on the way to it. -/
abbrev Outcome (α : Type) := Except Setback α

namespace Outcome

def malformed (level : Nat) : Outcome α := .error ⟨level, .malformed⟩

/-- Both outcomes; of two setbacks the one met first. -/
def both (a : Outcome α) (b : Outcome β) : Outcome (α × β) :=
  match a, b with
  | .ok a, .ok b => .ok (a, b)
  | .ok _, .error b => .error b
  | .error a, .ok _ => .error a
  | .error a, .error b => .error (if a.level ≤ b.level then a else b)

/-- All outcomes, or the setback met first. -/
def all : List (Outcome α) → Outcome (List α)
  | [] => .ok []
  | a :: rest => (both a (all rest)).map fun (a, rest) => a :: rest

/-- One level further down. -/
def below (a : Outcome α) : Outcome α :=
  a.mapError fun setback => { setback with level := setback.level + 1 }

end Outcome

/-! ## Keys -/

/-- A number that may equal numbers of other kinds. -/
def wholeNumber? : Datum → Option Int
  | .bool b => some (if b then 1 else 0)
  | .int n => some n
  | .float x => if Number.isWhole x then Number.truncate? x else none
  | _ => none

/-- The days before a year, a month and a day. -/
def dayNumber (d : Day) : Nat :=
  let past := d.year - 1
  let months := (List.range (d.month - 1)).map fun m => Timestamp.daysIn d.year (m + 1)
  past * 365 + past / 4 - past / 100 + past / 400 + months.foldl (· + ·) 0 + d.day

/-- The microsecond that a time with an offset means. -/
def instant (d : Day) (t : Clock) (offset : Int) : Int :=
  let minutes : Int := (dayNumber d * 24 + t.hour) * 60 + t.minute - offset
  (minutes * 60 + t.second) * 1000000 + t.microsecond

/-- Two keys are the same key. -/
def isSameKey (a b : Datum) : Bool :=
  match a, b with
  | .null, .null => true
  | .text s, .text t => s == t
  | .bytes a, .bytes b => a == b
  | .date a, .date b => a == b
  | .time d s, .time e t =>
    match s.offset, t.offset with
    | none, none => d == e && s == t
    | some o, some p => instant d s o == instant e t p
    | _, _ => false
  | .float x, .float y => x == y || (x.isNaN && y.isNaN)
  | a, b =>
    match wholeNumber? a, wholeNumber? b with
    | some m, some n => m == n
    | _, _ => false

/-- Entries with one more; a key that is there keeps its place. -/
def putEntry (entries : List (Datum × Datum)) (key value : Datum) : List (Datum × Datum) :=
  if entries.any fun e => isSameKey e.1 key then
    entries.map fun e => if isSameKey e.1 key then (e.1, value) else e
  else entries ++ [(key, value)]

def ofEntries (entries : List (Datum × Datum)) : List (Datum × Datum) :=
  entries.foldl (fun known e => putEntry known e.1 e.2) []

/-! ## Collections -/

/-- The key and the value of an entry. -/
abbrev Entry := Outcome Datum × Outcome Datum

/-- A key that can be one.  It is judged before what it holds is made: a collection can be none. -/
def checkKey (key : Outcome Datum) : Outcome Datum :=
  match key with
  | .ok key => if key.isHashable then .ok key else Outcome.malformed 0
  | .error setback => if setback.level = 0 then .error setback else Outcome.malformed 0

def checkEntry (e : Entry) : Outcome (Datum × Datum) := Outcome.both (checkKey e.1) e.2

/-- The entries of a mapping in their order. -/
def collect (entries : List Entry) : Outcome (List (Datum × Datum)) :=
  ofEntries <$> Outcome.all (entries.map checkEntry)

/-- Entries that other mappings give, and those of the mapping itself.  None if what is to be merged
is no mapping. -/
abbrev Merged := Option (List Entry × List Entry)

def Merged.entries (m : Merged) : Option (List Entry) := m.map fun (given, own) => given ++ own

namespace Node

mutual

/-- The text of a scalar, or of the value that stands for a whole mapping. -/
def text? : Node → Option (List Char)
  | scalar _ text => some text
  | sequence _ _ => none
  | mapping _ entries => standing? entries

/-- The text of the first value that stands for a whole mapping. -/
def standing? : List (Node × Node) → Option (List Char)
  | [] => none
  | (key, value) :: rest => if key.tag = .value then value.text? else standing? rest

end

def scalarOutcome (tag : Tag) (text? : Option (List Char)) : Outcome Datum :=
  match text? with
  | some text => (Scalar.value tag text).mapError fun trouble => ⟨0, trouble⟩
  | none => Outcome.malformed 0

/-- The key that stands for a whole mapping is text in a mapping that does not ask for it. -/
def keyTag (tag : Tag) : Tag := if tag = .value then .str else tag

/-- A mapping that has to be there for its entries. -/
def merged (entries : Merged) : Outcome (List Entry) :=
  match entries.entries with
  | some entries => .ok entries
  | none => Outcome.malformed 0

mutual

/-- The data of a node under a tag. -/
def outcome (tag : Tag) : Node → Outcome Datum
  | scalar _ text =>
    match tag with
    | .seq | .map | .set | .omap | .pairs => Outcome.malformed 1
    | tag => scalarOutcome tag (some text)
  | sequence _ items =>
    match tag with
    | .seq => (Datum.list <$> Outcome.all (outcomes items)).below
    | .omap | .pairs => (Datum.list <$> Outcome.all (pairOutcomes items)).below
    | .map | .set => Outcome.malformed 1
    | _ => Outcome.malformed 0
  | mapping _ entries =>
    match tag with
    | .map => (Datum.dict <$> (merged (mergedEntries entries) >>= collect)).below
    | .set =>
        ((fun entries => Datum.set (entries.map (·.1))) <$>
          (merged (mergedEntries entries) >>= collect)).below
    | .seq | .omap | .pairs => Outcome.malformed 1
    | .timestamp =>
      match standing? entries with
      | some _ => .error ⟨0, .standingTimestamp⟩
      | none => Outcome.malformed 0
    | tag => scalarOutcome tag (standing? entries)

def outcomes : List Node → List (Outcome Datum)
  | [] => []
  | node :: rest => node.outcome node.tag :: outcomes rest

/-- The items of a list of pairs, each of which is written as a mapping of one entry. -/
def pairOutcomes : List Node → List (Outcome Datum)
  | [] => []
  | mapping _ [(key, value)] :: rest =>
      (Outcome.both (key.outcome key.tag) (value.outcome value.tag)).map
        (fun (key, value) => Datum.pair key value) :: pairOutcomes rest
  | _ :: rest => Outcome.malformed 0 :: pairOutcomes rest

/-- The entries that mappings to be merged give, and the other ones. -/
def mergedEntries : List (Node × Node) → Merged
  | [] => some ([], [])
  | (key, value) :: rest => do
      if key.tag = .merge then
        let here ← givenEntries value
        let (given, own) ← mergedEntries rest
        return (here ++ given, own)
      else
        let (given, own) ← mergedEntries rest
        return (given, (key.outcome (keyTag key.tag), value.outcome value.tag) :: own)

/-- The entries that the value of a merging key gives. -/
def givenEntries : Node → Option (List Entry)
  | mapping _ entries => (mergedEntries entries).entries
  | sequence _ items => listedEntries items
  | scalar _ _ => none

/-- The entries that listed mappings give: earlier mappings come last, so that they win. -/
def listedEntries : List Node → Option (List Entry)
  | [] => some []
  | mapping _ entries :: rest => do
      let here ← (mergedEntries entries).entries
      return (← listedEntries rest) ++ here
  | _ :: _ => none

end

/-- The data of a node. -/
def toDatum (node : Node) : Except Trouble Datum :=
  (node.outcome node.tag).mapError (·.trouble)

end Node

/-- The data of the only document of a text; a text without documents is null.

Three things are left out.  Nesting has no limit.  Half a character in an escape is replaced, where
it should make a text that no setting can be.  And a token that cannot stand where it stands is
refused at once, also in front of one that is broken in a way of its own and should be met first by
looking ahead. -/
def read (text : List Char) : Except Trouble Datum := do
  match ← Node.ofTokens (Token.ofText text) with
  | some node => node.toDatum
  | none => return .null

end Scaffold.Yaml
