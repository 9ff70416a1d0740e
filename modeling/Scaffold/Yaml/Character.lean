/-!
# Characters of YAML

The characters that YAML tells apart, and what can be seen at the beginning of a text.  Line ends
are line feeds; three further characters end a line too.
-/

namespace Scaffold.Yaml

/-- Characters that may stand in a YAML text. -/
def isAllowed (c : Char) : Bool :=
  let n := c.toNat
  n = 0x09 || n = 0x0a || (0x20 ≤ n && n ≤ 0x7e) || n = 0x85 || (0xa0 ≤ n && n ≤ 0xd7ff)
    || (0xe000 ≤ n && n ≤ 0xfffd) || 0x10000 ≤ n

/-- The mark that may stand before a text and takes no column. -/
def byteOrderMark : Char := '\ufeff'

def isBreak (c : Char) : Bool := c = '\n' || c = '\u0085' || c = '\u2028' || c = '\u2029'

/-- The line end that a line end is read as. -/
def breakValue (c : Char) : Char := if c = '\u0085' then '\n' else c

def isSpaceOrTab (c : Char) : Bool := c = ' ' || c = '\t'

/-- The text begins with a line end, or there is none. -/
def atLineEnd : List Char → Bool
  | [] => true
  | c :: _ => isBreak c

/-- The text begins with a space or a line end, or there is none. -/
def atSpace : List Char → Bool
  | [] => true
  | c :: _ => c = ' ' || isBreak c

/-- The text begins with a space, a tab or a line end, or there is none. -/
def atGap : List Char → Bool
  | [] => true
  | c :: _ => isSpaceOrTab c || isBreak c

/-- Three hyphens or three points that stand alone. -/
def atMarker : List Char → Bool
  | '-' :: '-' :: '-' :: rest => atGap rest
  | '.' :: '.' :: '.' :: rest => atGap rest
  | _ => false

/-- The line end that a text begins with, and the rest. -/
def takeBreak : List Char → List Char × List Char
  | [] => ([], [])
  | c :: rest => if isBreak c then ([breakValue c], rest) else ([], c :: rest)

def dropLine (text : List Char) : List Char := text.dropWhile (!isBreak ·)

def dropSpaces (text : List Char) : List Char := text.dropWhile (· = ' ')

/-- Without spaces and a comment behind them. -/
def dropComment (text : List Char) : List Char :=
  let text := dropSpaces text
  if text.head? = some '#' then dropLine text else text

/-- Characters of the names of anchors, directives and tag handles. -/
def isNameChar (c : Char) : Bool :=
  ('0' ≤ c && c ≤ '9') || ('A' ≤ c && c ≤ 'Z') || ('a' ≤ c && c ≤ 'z') || c = '-' || c = '_'

def hexValue? (c : Char) : Option Nat :=
  if '0' ≤ c ∧ c ≤ '9' then some (c.toNat - '0'.toNat)
  else if 'a' ≤ c ∧ c ≤ 'f' then some (c.toNat - 'a'.toNat + 10)
  else if 'A' ≤ c ∧ c ≤ 'F' then some (c.toNat - 'A'.toNat + 10)
  else none

/-- The number that so many hexadecimal digits at the beginning of a text say, and the rest. -/
def takeHex? (value : Nat) : Nat → List Char → Option (Nat × List Char)
  | 0, rest => some (value, rest)
  | n + 1, c :: rest => do takeHex? (value * 16 + (← hexValue? c)) n rest
  | _ + 1, [] => none

end Scaffold.Yaml
