import Scaffold.Yaml.Character

/-!
# Plain scalars

Scalars without quotes.  They end at what could be taken for structure, at a comment, and where a
later line is not indented enough.
-/

namespace Scaffold.Yaml.Plain

/-- Characters that end a plain scalar inside brackets. -/
def isFlowSign (c : Char) : Bool := c ∈ [',', '?', '[', ']', '\x7b', '\x7d']

/-- A colon before this text is no part of a plain scalar. -/
def endsKey (flow : Bool) (rest : List Char) : Bool :=
  atGap rest ||
    (flow && (rest.head?.map fun c => decide (c ∈ [',', '[', ']', '\x7b', '\x7d'])).getD false)

/-- One word: up to a space, a line end, or a sign of structure. -/
def word (flow : Bool) : List Char → List Char × List Char
  | [] => ([], [])
  | c :: rest =>
      if isSpaceOrTab c || isBreak c || (c = ':' && endsKey flow rest) || (flow && isFlowSign c)
      then ([], c :: rest)
      else
        let (more, rest) := word flow rest
        (c :: more, rest)

/-- What stands between two words. -/
structure Gap where
  text : List Char
  /-- Lines end in the gap. -/
  broken : Bool
  /-- The gap ends at a document marker. -/
  halted : Bool
  /-- The column behind the gap, if lines end in it. -/
  column : Nat
  rest : List Char

/-- Spaces and line ends behind a line end, up to a document marker. -/
def lines (column : Nat) : List Char → Gap
  | [] => ⟨[], true, false, column, []⟩
  | c :: rest =>
      if c = ' ' then lines (column + 1) rest
      else if isBreak c then
        if atMarker rest then ⟨[breakValue c], true, true, 0, rest⟩
        else
          let gap := lines 0 rest
          { gap with text := breakValue c :: gap.text }
      else ⟨[], true, false, column, c :: rest⟩

/-- The gap behind a word.  A single line end counts as a space, more of them as one less. -/
def gap (text : List Char) : Gap :=
  let spaces := text.takeWhile (· = ' ')
  match text.dropWhile (· = ' ') with
  | [] => ⟨spaces, false, false, 0, []⟩
  | c :: rest =>
      if isBreak c then
        if atMarker rest then ⟨[], true, true, 0, rest⟩
        else
          let gap := lines 0 rest
          let first := breakValue c
          let text :=
            if first ≠ '\n' then first :: gap.text
            else if gap.text.isEmpty then [' ']
            else gap.text
          { gap with text := text }
      else ⟨spaces, false, false, 0, c :: rest⟩

/-- No word of the same scalar can follow the gap. -/
def Gap.closes (gap : Gap) (flow : Bool) (margin : Nat) : Bool :=
  gap.halted || gap.text.isEmpty || gap.rest.head? = some '#'
    || (!flow && gap.broken && gap.column < margin)

/-- A plain scalar, and whether what follows begins a line of its own. -/
structure Result where
  text : List Char
  broken : Bool
  rest : List Char

/-- The words from here on, of which at most so many are read. -/
def words (flow : Bool) (margin : Nat) : Nat → List Char → Result
  | 0, rest => ⟨[], false, rest⟩
  | n + 1, text =>
      let (first, after) := word flow text
      let gap := gap after
      if gap.closes flow margin then ⟨first, gap.broken, gap.rest⟩
      else if (word flow gap.rest).1.isEmpty then ⟨first, gap.broken, gap.rest⟩
      else
        let more := words flow margin n gap.rest
        { more with text := first ++ gap.text ++ more.text }

/-- The plain scalar at the beginning of a text; later lines of it reach the margin. -/
def read (flow : Bool) (margin : Nat) (text : List Char) : Result :=
  words flow margin text.length text

end Scaffold.Yaml.Plain
