import Scaffold.Yaml.Scalar.Block
import Scaffold.Yaml.Scalar.Plain
import Scaffold.Yaml.Scalar.Quoted
import Scaffold.Yaml.Token.Property

/-!
# The lexer

From characters to tokens.  A token may turn out to be the key of a mapping only when the colon
behind it is met; until then its place is remembered, and the key token is put before it afterwards.
-/

namespace Scaffold.Yaml

/-- A place in a text. -/
structure Place where
  index : Nat := 0
  line : Nat := 0
  column : Nat := 0
  deriving DecidableEq, Repr

/-- The place behind a character. -/
def Place.after (p : Place) (c : Char) : Place :=
  if isBreak c then ⟨p.index + 1, p.line + 1, 0⟩
  else if c = byteOrderMark then ⟨p.index + 1, p.line, p.column⟩
  else ⟨p.index + 1, p.line, p.column + 1⟩

/-- A token that may be a key: how many tokens come before it, and where it begins. -/
structure Candidate where
  before : Nat
  /-- Nothing but a key can stand there. -/
  required : Bool
  place : Place

/-- A key is no longer than this. -/
def keyLimit : Nat := 1024

/-- A key has ended by the given place. -/
def Candidate.isStale (c : Candidate) (here : Place) : Bool :=
  c.place.line ≠ here.line || keyLimit < here.index - c.place.index

structure Lexer where
  rest : List Char
  place : Place
  /-- The columns of the open block collections, innermost first. -/
  blocks : List Nat
  /-- A key may begin here. -/
  keyAllowed : Bool
  candidate : Option Candidate
  /-- The candidates outside of each open bracket, innermost first. -/
  outer : List (Option Candidate)
  /-- The tokens so far, the last one first. -/
  tokens : List Token

namespace Lexer

def start (text : List Char) : Lexer := ⟨text, {}, [], true, none, [], []⟩

/-- The text is inside brackets. -/
def flow (l : Lexer) : Bool := !l.outer.isEmpty

/-- The least column that belongs to the innermost block collection. -/
def margin (l : Lexer) : Nat :=
  match l.blocks with
  | [] => 0
  | column :: _ => column + 1

/-- Go on to a rest of the text. -/
def moveTo (l : Lexer) (rest : List Char) : Lexer :=
  let passed := l.rest.take (l.rest.length - rest.length)
  { l with rest := rest, place := passed.foldl Place.after l.place }

def skip (l : Lexer) (n : Nat) : Lexer := l.moveTo (l.rest.drop n)

def emit (l : Lexer) (t : Token) : Lexer := { l with tokens := t :: l.tokens }

/-- Put tokens before the ones that follow the first `before` tokens; the new ones are given last
first. -/
def insert (l : Lexer) (before : Nat) (new : List Token) : Lexer :=
  let later := l.tokens.length - before
  { l with tokens := l.tokens.take later ++ new ++ l.tokens.drop later }

/-! ## Keys -/

/-- A candidate that is given up; one that is required cannot be. -/
def giveUp : Option Candidate → Except Trouble Unit
  | some c => if c.required then .error .malformed else .ok ()
  | none => .ok ()

/-- What is left of a candidate at a place. -/
def refresh (here : Place) (candidate : Option Candidate) : Except Trouble (Option Candidate) := do
  match candidate with
  | some c =>
    if c.isStale here then do
      giveUp candidate
      return none
    else return candidate
  | none => return none

/-- Give up the candidates that have ended. -/
def dropStale (l : Lexer) : Except Trouble Lexer := do
  let candidate ← refresh l.place l.candidate
  let outer ← l.outer.mapM (refresh l.place)
  return { l with candidate := candidate, outer := outer }

/-- Give up the candidate, whether it has ended or not. -/
def dropCandidate (l : Lexer) : Except Trouble Lexer := do
  giveUp l.candidate
  return { l with candidate := none }

/-- Remember the next token as a candidate, where keys are allowed. -/
def saveCandidate (l : Lexer) : Except Trouble Lexer := do
  if l.keyAllowed then
    giveUp l.candidate
    let required := !l.flow && l.margin = l.place.column + 1
    return { l with candidate := some ⟨l.tokens.length, required, l.place⟩ }
  else return l

def allowKey (l : Lexer) (allowed : Bool) : Lexer := { l with keyAllowed := allowed }

/-! ## Indentation -/

/-- Close the block collections to the right of a column. -/
def closeBlocks (l : Lexer) (column : Nat) : Lexer :=
  if l.flow then l
  else
    let closed := l.blocks.takeWhile (column < ·)
    { l with
      blocks := l.blocks.dropWhile (column < ·)
      tokens := List.replicate closed.length .blockEnd ++ l.tokens }

/-- Close all block collections. -/
def closeAll (l : Lexer) : Lexer :=
  if l.flow then l
  else { l with blocks := [], tokens := List.replicate l.blocks.length .blockEnd ++ l.tokens }

/-- A block collection may begin at the column: the lexer with it, if it does. -/
def openBlock? (l : Lexer) (column : Nat) : Option Lexer :=
  if l.margin ≤ column then some { l with blocks := column :: l.blocks } else none

/-- Open a block collection here, unless it is open. -/
def openHere (l : Lexer) (opening : Token) : Lexer :=
  match l.openBlock? l.place.column with
  | some l => l.emit opening
  | none => l

/-! ## Between tokens -/

/-- Pass spaces, comments and line ends, of which at most so many; outside of brackets a new line
may begin with a key. -/
def toNext : Nat → Lexer → Lexer
  | 0, l => l
  | n + 1, l =>
      let rest := dropComment l.rest
      match rest with
      | c :: more =>
          if isBreak c then toNext n ((l.moveTo more).allowKey (l.keyAllowed || !l.flow))
          else l.moveTo rest
      | [] => l.moveTo []

/-- The mark before the text is passed over. -/
def dropMark (l : Lexer) : Lexer :=
  if l.place.index = 0 && l.rest.head? = some byteOrderMark then l.skip 1 else l

/-! ## Tokens -/

/-- Leave all block collections, before a document or a directive. -/
def leave (l : Lexer) : Except Trouble Lexer := do
  return (← l.closeAll.dropCandidate).allowKey false

def documentMarker (l : Lexer) (token : Token) : Except Trouble Lexer := do
  return ((← l.leave).skip 3).emit token

def directive (l : Lexer) : Except Trouble Lexer := do
  let l ← l.leave
  let (d, rest) ← readDirective (l.rest.drop 1)
  return (l.moveTo rest).emit (.directive d)

def openBracket (l : Lexer) (token : Token) : Except Trouble Lexer := do
  let l ← l.saveCandidate
  let inner := { l with candidate := none, outer := l.candidate :: l.outer }
  return ((inner.allowKey true).skip 1).emit token

def closeBracket (l : Lexer) (token : Token) : Except Trouble Lexer := do
  let l ← l.dropCandidate
  let closed := { l with candidate := l.outer.head?.getD none, outer := l.outer.drop 1 }
  return ((closed.allowKey false).skip 1).emit token

def flowEntry (l : Lexer) : Except Trouble Lexer := do
  return ((← (l.allowKey true).dropCandidate).skip 1).emit .flowEntry

def blockEntry (l : Lexer) : Except Trouble Lexer := do
  if !l.flow && !l.keyAllowed then throw .malformed
  let l := if l.flow then l else l.openHere .blockSequenceStart
  return ((← (l.allowKey true).dropCandidate).skip 1).emit .blockEntry

def key (l : Lexer) : Except Trouble Lexer := do
  if !l.flow && !l.keyAllowed then throw .malformed
  let l := if l.flow then l else l.openHere .blockMappingStart
  return ((← (l.allowKey !l.flow).dropCandidate).skip 1).emit .key

/-- The candidate is a key, which may be the first one of a block mapping. -/
def acceptKey (l : Lexer) (c : Candidate) : Lexer :=
  let l := { l with candidate := none }
  let l :=
    if l.flow then l.insert c.before [.key]
    else
      match l.openBlock? c.place.column with
      | some l => l.insert c.before [.key, .blockMappingStart]
      | none => l.insert c.before [.key]
  l.allowKey false

def value (l : Lexer) : Except Trouble Lexer := do
  match l.candidate with
  | some c => return ((l.acceptKey c).skip 1).emit .value
  | none =>
    if !l.flow && !l.keyAllowed then throw .malformed
    let l := if l.flow then l else l.openHere .blockMappingStart
    return ((l.allowKey !l.flow).skip 1).emit .value

/-- Offer the next token as a key: an alias, an anchor, a tag or a scalar of one line. -/
def offered (l : Lexer) : Except Trouble Lexer := do
  return (← l.saveCandidate).allowKey false

def anchor (l : Lexer) (token : List Char → Token) : Except Trouble Lexer := do
  let l ← l.offered
  let (name, rest) ← orMalformed (readAnchor? (l.rest.drop 1))
  return (l.moveTo rest).emit (token name)

def tag (l : Lexer) : Except Trouble Lexer := do
  let l ← l.offered
  let (tag, rest) ← orMalformed (readTag? (l.rest.drop 1))
  return (l.moveTo rest).emit (.tag tag)

def quoted (l : Lexer) (style : Quoted.Style) : Except Trouble Lexer := do
  let l ← l.offered
  let (text, rest) ← Quoted.read style (l.rest.drop 1)
  return (l.moveTo rest).emit (.scalar false text)

def plain (l : Lexer) : Except Trouble Lexer := do
  let l ← l.offered
  let result := Plain.read l.flow l.margin l.rest
  return ((l.moveTo result.rest).emit (.scalar true result.text)).allowKey result.broken

def block (l : Lexer) (folded : Bool) : Except Trouble Lexer := do
  let l ← (l.allowKey true).dropCandidate
  let (text, rest) ← orMalformed (Block.read? folded l.margin (l.rest.drop 1))
  return (l.moveTo rest).emit (.scalar false text)

/-- Signs that cannot begin a plain scalar. -/
def isIndicator (c : Char) : Bool := "-?:,[]\x7b\x7d#&*!|>'\"%@\x60".toList.contains c

/-- A plain scalar begins here; some signs may begin one if they stand before a character. -/
def startsPlain (flow : Bool) : List Char → Bool
  | [] => false
  | c :: rest =>
      !(isSpaceOrTab c || isBreak c || isIndicator c)
        || (!atGap rest && (c = '-' || (!flow && (c = '?' || c = ':'))))

/-- The next token of a text that does not end here. -/
def token (l : Lexer) (c : Char) (after : List Char) : Except Trouble Lexer :=
  let atStart := l.place.column = 0
  if c = '%' && atStart then l.directive
  else if c = '-' && atStart && atMarker l.rest then l.documentMarker .documentStart
  else if c = '.' && atStart && atMarker l.rest then l.documentMarker .documentEnd
  else if c = '[' then l.openBracket .flowSequenceStart
  else if c = '\x7b' then l.openBracket .flowMappingStart
  else if c = ']' then l.closeBracket .flowSequenceEnd
  else if c = '\x7d' then l.closeBracket .flowMappingEnd
  else if c = ',' then l.flowEntry
  else if c = '-' && atGap after then l.blockEntry
  else if c = '?' && (l.flow || atGap after) then l.key
  else if c = ':' && (l.flow || atGap after) then l.value
  else if c = '*' then l.anchor .alias
  else if c = '&' then l.anchor .anchor
  else if c = '!' then l.tag
  else if c = '|' && !l.flow then l.block false
  else if c = '>' && !l.flow then l.block true
  else if c = '\'' then l.quoted .single
  else if c = '"' then l.quoted .double
  else if startsPlain l.flow l.rest then l.plain
  else .error .malformed

/-- The lexer in front of the next token, with everything closed that ends before it. -/
def approach (l : Lexer) : Except Trouble Lexer := do
  let l ← (toNext (l.rest.length + 1) l.dropMark).dropStale
  return l.closeBlocks l.place.column

/-- All tokens from here on, of which at most so many are read. -/
def run : Nat → Lexer → List Token
  | 0, l => (Token.broken .malformed :: l.tokens).reverse
  | n + 1, l =>
    match l.approach with
    | .error trouble => (Token.broken trouble :: l.tokens).reverse
    | .ok l =>
      match l.rest with
      | [] =>
        match l.leave with
        | .error trouble => (Token.broken trouble :: l.tokens).reverse
        | .ok l => (Token.streamEnd :: l.tokens).reverse
      | c :: after =>
        match l.token c after with
        | .error trouble => (Token.broken trouble :: l.tokens).reverse
        | .ok l => run n l

end Lexer

/-- The tokens of a text. -/
def Token.ofText (text : List Char) : List Token :=
  if text.all isAllowed then Lexer.run (text.length + 1) (.start text)
  else [.broken .malformed]

end Scaffold.Yaml
