import Scaffold.Yaml.Character
import Scaffold.Yaml.Trouble

/-!
# Quoted scalars

Scalars in single or double quotes.  Line ends in them are folded; double quotes also allow escapes.
-/

namespace Scaffold.Yaml.Quoted

inductive Style where
  | single
  | double
  deriving DecidableEq, Repr

def Style.mark : Style → Char
  | single => '\''
  | double => '"'

/-- The character that a letter behind a backslash stands for. -/
def escapes : List (Char × Char) :=
  [('0', '\x00'), ('a', '\x07'), ('b', '\x08'), ('t', '\t'), ('\t', '\t'), ('n', '\n'),
    ('v', '\x0b'), ('f', '\x0c'), ('r', '\r'), ('e', '\x1b'), (' ', ' '), ('"', '"'),
    ('\\', '\\'), ('/', '/'), ('N', '\u0085'), ('_', '\u00a0'), ('L', '\u2028'),
    ('P', '\u2029')]

/-- The number of hexadecimal digits behind a letter behind a backslash. -/
def codeWidth? : Char → Option Nat
  | 'x' => some 2
  | 'u' => some 4
  | 'U' => some 8
  | _ => none

/-- The line ends behind a line end inside quotes, and the text behind them with its leading blanks
taken away.  A document marker is refused. -/
def lines (start : Bool) : List Char → Except Trouble (List Char × List Char)
  | [] => .ok ([], [])
  | c :: rest =>
      if start && atMarker (c :: rest) then .error .malformed
      else if isSpaceOrTab c then lines false rest
      else if isBreak c then do
        let (breaks, rest) ← lines true rest
        return (breakValue c :: breaks, rest)
      else .ok ([], c :: rest)

/-- The text behind blanks, if they are followed by a line end. -/
def breakBehindBlanks? (text : List Char) : Option (Char × List Char) :=
  match text.dropWhile isSpaceOrTab with
  | c :: rest => if isBreak c then some (breakValue c, rest) else none
  | [] => none

/-- A line end with what it is folded with: alone it counts as a space, more of them as one less. -/
def fold (first : Char) (rest : List Char) : Except Trouble (List Char × List Char) := do
  let (breaks, rest) ← lines true rest
  if first ≠ '\n' then return (first :: breaks, rest)
  else if breaks.isEmpty then return ([' '], rest)
  else return (breaks, rest)

/-- The character of a number; halves of characters are replaced. -/
def ofCode (code : Nat) : Except Trouble Char :=
  if 0xd800 ≤ code ∧ code < 0xe000 then .ok '\ufffd'
  else if code < 0x110000 then .ok (Char.ofNat code)
  else .error (.noCharacter code)

/-- What stands behind a backslash. -/
def escape : List Char → Except Trouble (List Char × List Char)
  | [] => .error .malformed
  | c :: rest =>
    match escapes.lookup c with
    | some value => .ok ([value], rest)
    | none =>
      match codeWidth? c with
      | some width =>
        match takeHex? 0 width rest with
        | some (code, rest) => return ([← ofCode code], rest)
        | none => .error .malformed
      | none => if isBreak c then lines true rest else .error .malformed

/-- The text up to the closing quote; at most so many steps are made. -/
def body (style : Style) : Nat → List Char → Except Trouble (List Char × List Char)
  | 0, _ | _, [] => .error .malformed
  | n + 1, c :: rest =>
      if c = style.mark then
        if style = .single && rest.head? = some c then do
          let (more, rest) ← body style n (rest.drop 1)
          return (c :: more, rest)
        else .ok ([], rest)
      else if c = '\\' && style = .double then do
        let (text, rest) ← escape rest
        let (more, rest) ← body style n rest
        return (text ++ more, rest)
      else
        match breakBehindBlanks? (c :: rest) with
        | some (first, rest) => do
            let (text, rest) ← fold first rest
            let (more, rest) ← body style n rest
            return (text ++ more, rest)
        | none => do
            let (more, rest) ← body style n rest
            return (c :: more, rest)

/-- The scalar behind an opening quote, and the rest behind the closing one. -/
def read (style : Style) (text : List Char) : Except Trouble (List Char × List Char) :=
  body style (text.length + 1) text

end Scaffold.Yaml.Quoted
