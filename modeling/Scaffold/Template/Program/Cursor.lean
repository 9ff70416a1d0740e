import Scaffold.Template.Program
import Scaffold.Text.Quoted

/-!
# Reading tokens

A cursor into the tokens of a template, and the steps that readers are built from.  The place
where the tokens break off is felt as soon as the cursor would come to stand there.
-/

namespace Scaffold.Template

open Text

/-- The tokens not yet read; `last` is the line of the last one that was read. -/
structure Cursor where
  last : Nat
  tokens : List (Nat × Token)
  fault? : Option Refusal

abbrev Reader := StateT Cursor (Except Refusal)

/-- What a reader can ask the next token to be. -/
inductive Pattern where
  | anyName
  | word (word : String)
  | sign (sign : String)
  | variableEnd
  | blockEnd
  deriving DecidableEq, Repr

namespace Pattern

def describe : Pattern → String
  | anyName => "name"
  | word w => w
  | sign s => s
  | variableEnd => Token.variableEnd.describe
  | blockEnd => Token.blockEnd.describe

def holds : Pattern → Token → Bool
  | anyName, .name _ => true
  | word w, .name n => w = n
  | sign s, .op o => s = o
  | variableEnd, .variableEnd => true
  | blockEnd, .blockEnd => true
  | _, _ => false

end Pattern

namespace Cursor

/-- The line of the next token; at the end, that of the last one. -/
def line (c : Cursor) : Nat :=
  match c.tokens with
  | (line, _) :: _ => line
  | [] => c.last

/-- The cursor if it stands at a token or at the end of the template. -/
def settle (c : Cursor) : Except Refusal Cursor :=
  match c.tokens, c.fault? with
  | [], some fault => .error fault
  | _, _ => .ok c

def ofStream (stream : TokenStream) : Except Refusal Cursor :=
  settle ⟨1, stream.tokens, stream.fault?⟩

def advance (c : Cursor) : Except Refusal Cursor :=
  settle { c with last := c.line, tokens := c.tokens.tail }

end Cursor

namespace Reader

def failAt (line : Nat) (message : String) : Reader α := throw (.fault ⟨line, message⟩)

/-- The calls of the readers are nested too deep. -/
def tooDeep : Reader α := throw (.escape .tooDeep)

def line : Reader Nat := return (← get).line

def fail (message : String) : Reader α := do failAt (← line) message

/-- The next token; none at the end of the template. -/
def peek : Reader (Option Token) := return (← get).tokens.head?.map (·.2)

def advance : Reader Unit := fun c => return ((), ← c.advance)

/-- The token after the next one. -/
def lookAhead : Reader (Option Token) := fun c => do
  let ahead ← c.advance
  return (ahead.tokens.head?.map (·.2), c)

/-- What a message calls the next token. -/
def describeNext : Reader String := do
  match ← peek with
  | some token => pure token.describe
  | none => pure "end of template"

def isAt (p : Pattern) : Reader Bool := do
  match ← peek with
  | some token => pure (p.holds token)
  | none => pure false

/-- Pass over the next token if it is as asked. -/
def skip (p : Pattern) : Reader Bool := do
  if ← isAt p then
    advance
    pure true
  else pure false

/-- The message for a token that is not as asked. -/
def mismatch (p : Pattern) : Reader α := do
  match ← peek with
  | some token => fail s!"expected token {quote p.describe}, got {quote token.describe}"
  | none => fail s!"unexpected end of template, expected {quote p.describe}."

def expect (p : Pattern) : Reader Unit := do
  if ← isAt p then advance else mismatch p

/-- The next token, which must be a name. -/
def expectName : Reader String := do
  match ← peek with
  | some (.name n) =>
      advance
      pure n
  | _ => mismatch .anyName

/-- Repeat a step until it has nothing to add, at most `n` times. -/
def foldWhile (step : α → Reader (Option α)) : Nat → α → Reader α
  | 0, a => pure a
  | n + 1, a => do
      match ← step a with
      | none => pure a
      | some b => foldWhile step n b

/-- Repeat a step that reads a token until it has nothing to add; the step is tried once more
than there are tokens, so that one of the trials says so. -/
def repeatWhile (step : α → Reader (Option α)) (a : α) : Reader α := do
  foldWhile step ((← get).tokens.length + 1) a

end Reader

end Scaffold.Template
