import Scaffold.Yaml.Character

/-!
# Block scalars

Scalars of whole lines, marked by their indentation: literal ones keep their line ends, folded ones
join lines.
-/

namespace Scaffold.Yaml.Block

/-- What becomes of the line ends at the end of the scalar. -/
inductive Chomping where
  | clip
  | strip
  | keep
  deriving DecidableEq, Repr

structure Header where
  chomping : Chomping
  /-- The indentation beyond that of the parent, if it is given. -/
  increment : Option Nat

def chomping? : Char → Option Chomping
  | '+' => some .keep
  | '-' => some .strip
  | _ => none

/-- A digit that gives an indentation; zero is none. -/
def increment? (c : Char) : Option Nat :=
  if '1' ≤ c ∧ c ≤ '9' then some (c.toNat - '0'.toNat) else none

/-- The chomping at the beginning of a text, if it is given there. -/
def takeChomping : List Char → Option Chomping × List Char
  | c :: rest =>
    match chomping? c with
    | some chomping => (some chomping, rest)
    | none => (none, c :: rest)
  | [] => (none, [])

def takeIncrement : List Char → Option Nat × List Char
  | c :: rest =>
    match increment? c with
    | some increment => (some increment, rest)
    | none => (none, c :: rest)
  | [] => (none, [])

/-- The indicators behind the mark of a block scalar, in any order, and the rest. -/
def indicators (text : List Char) : Header × List Char :=
  match takeChomping text with
  | (some chomping, rest) =>
      let (increment, rest) := takeIncrement rest
      (⟨chomping, increment⟩, rest)
  | (none, text) =>
      let (increment, rest) := takeIncrement text
      if increment.isSome then
        let (chomping, rest) := takeChomping rest
        (⟨chomping.getD .clip, increment⟩, rest)
      else (⟨.clip, none⟩, rest)

/-- The header behind the mark, and the lines below it. -/
def header? (text : List Char) : Option (Header × List Char) :=
  let (header, rest) := indicators text
  if atSpace rest then
    let rest := dropComment rest
    if atLineEnd rest then some (header, (takeBreak rest).2) else none
  else none

/-- Empty lines, the column where the text behind them begins, and that text. -/
structure Blank where
  breaks : List Char
  column : Nat
  /-- The largest column that was reached. -/
  widest : Nat
  rest : List Char

/-- Empty lines of any indentation. -/
def anyBlank (column widest : Nat) : List Char → Blank
  | [] => ⟨[], column, widest, []⟩
  | c :: rest =>
      if c = ' ' then anyBlank (column + 1) (max widest (column + 1)) rest
      else if isBreak c then
        let blank := anyBlank 0 widest rest
        { blank with breaks := breakValue c :: blank.breaks }
      else ⟨[], column, widest, c :: rest⟩

/-- Empty lines, with no more indentation than given. -/
def blank (indent column : Nat) : List Char → Blank
  | [] => ⟨[], column, 0, []⟩
  | c :: rest =>
      if c = ' ' && column < indent then blank indent (column + 1) rest
      else if isBreak c then
        let more := blank indent 0 rest
        { more with breaks := breakValue c :: more.breaks }
      else ⟨[], column, 0, c :: rest⟩

/-- The content of a scalar: its text without the last line end, that line end, the empty lines
behind it, and the rest. -/
structure Content where
  text : List Char
  lineEnd : List Char
  breaks : List Char
  rest : List Char

/-- The text goes on at this place. -/
def Blank.continues (b : Blank) (indent : Nat) : Bool := b.column = indent && !b.rest.isEmpty

def startsBlank (text : List Char) : Bool := (text.head?.map isSpaceOrTab).getD false

/-- A line end between two lines.  Folding turns it into a space unless a line begins with a blank
or empty lines follow. -/
def joint (folded : Bool) (line lineEnd breaks next : List Char) : List Char :=
  if folded && lineEnd = ['\n'] && !startsBlank line && !startsBlank next then
    if breaks.isEmpty then [' '] else []
  else lineEnd

/-- The lines from here on, of which at most so many are read. -/
def lines (folded : Bool) (indent : Nat) : Nat → List Char → Content
  | 0, text => ⟨[], [], [], text⟩
  | n + 1, text =>
      let line := text.takeWhile (!isBreak ·)
      let (lineEnd, after) := takeBreak (dropLine text)
      let next := blank indent 0 after
      if next.continues indent then
        let more := lines folded indent n next.rest
        let joint := joint folded text lineEnd next.breaks next.rest
        { more with text := line ++ joint ++ next.breaks ++ more.text }
      else ⟨line, lineEnd, next.breaks, next.rest⟩

def Content.chomped (c : Content) : Chomping → List Char
  | .strip => c.text
  | .clip => c.text ++ c.lineEnd
  | .keep => c.text ++ c.lineEnd ++ c.breaks

/-- The scalar behind its mark, and the rest.  The margin is the least indentation that it may
have. -/
def read? (folded : Bool) (margin : Nat) (text : List Char) : Option (List Char × List Char) := do
  let (header, below) ← header? text
  let least := max 1 margin
  let (indent, first) := match header.increment with
    | some increment =>
        let indent := least + increment - 1
        (indent, blank indent 0 below)
    | none =>
        let first := anyBlank 0 0 below
        (max least first.widest, first)
  let content :=
    if first.continues indent then
      let content := lines folded indent below.length first.rest
      { content with text := first.breaks ++ content.text }
    else ⟨[], [], first.breaks, first.rest⟩
  return (content.chomped header.chomping, content.rest)

end Scaffold.Yaml.Block
