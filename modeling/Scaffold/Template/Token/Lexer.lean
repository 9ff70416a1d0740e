import Scaffold.Template.Token
import Scaffold.Template.Token.Literal
import Scaffold.Text.Lines

/-!
# Reading template tokens

Outside tags the text runs up to the next opening delimiter.  A sign at a delimiter controls the
white space beside it: `-` strips it, `+` keeps it, and without a sign a tag that is not a
placeholder takes the blanks before it on its line and the line end after it.
-/

namespace Scaffold.Template

open Text

/-- The kinds of tag, by the second character of their opening delimiter. -/
inductive TagKind where
  | variable
  | block
  | comment
  deriving DecidableEq, Repr

def TagKind.ofChar? : Char → Option TagKind
  | '\x7b' => some .variable
  | '%' => some .block
  | '#' => some .comment
  | _ => none

/-- The text before the first opening delimiter, the kind of tag and what follows the delimiter. -/
def splitAtTag : List Char → Option (List Char × TagKind × List Char)
  | '\x7b' :: c :: rest =>
      match TagKind.ofChar? c with
      | some kind => some ([], kind, rest)
      | none => (splitAtTag (c :: rest)).map fun (before, found) => ('\x7b' :: before, found)
  | c :: rest => (splitAtTag rest).map fun (before, found) => (c :: before, found)
  | [] => none

/-- The sign behind an opening delimiter. -/
inductive Sign where
  | strip
  | keep
  | plain
  deriving DecidableEq, Repr

/-- The characters that a sign takes. -/
def Sign.width : Sign → Nat
  | strip | keep => 1
  | plain => 0

def Sign.read : List Char → Sign × List Char
  | '-' :: rest => (.strip, rest)
  | '+' :: rest => (.keep, rest)
  | rest => (.plain, rest)

/-- The text after its last line end. -/
def lastLine (text : List Char) : List Char :=
  (text.reverse.takeWhile (· ≠ '\n')).reverse

def countNewlines (text : List Char) : Nat := text.count '\n'

/-- The text before a tag, as the sign of the tag leaves it.  `lineStart` says that the text
begins on a new line. -/
def trimBefore (sign : Sign) (kind : TagKind) (lineStart : Bool) (text : List Char) :
    List Char :=
  match sign, kind with
  | .strip, _ => dropTrailing isBlank text
  | .keep, _ | .plain, .variable => text
  | .plain, _ =>
      let line := lastLine text
      if (line.length < text.length || lineStart) && line.all isBlank then
        text.take (text.length - line.length)
      else text

/-- What stands behind the closing delimiter of a block, raw text or comment, past its white
space, with the number of characters that the delimiter took.  `mark` is its first character. -/
def closeBlock? (mark : Char) : List Char → Option (Nat × List Char)
  | '+' :: c :: '\x7d' :: rest => if c = mark then some (3, rest) else none
  | '-' :: c :: '\x7d' :: rest =>
      if c = mark then
        some (3 + (rest.takeWhile isBlank).length, rest.dropWhile isBlank)
      else none
  | c :: '\x7d' :: rest =>
      if c = mark then
        match rest with
        | '\n' :: after => some (3, after)
        | _ => some (2, rest)
      else none
  | _ => none

/-- What stands behind the closing delimiter of a placeholder. -/
def closeVariable? : List Char → Option (Nat × List Char)
  | '-' :: '\x7d' :: '\x7d' :: rest =>
      some (3 + (rest.takeWhile isBlank).length, rest.dropWhile isBlank)
  | '\x7d' :: '\x7d' :: rest => some (2, rest)
  | _ => none

/-- The inside of a comment is skipped: how many characters it takes with its end. -/
def skipComment : List Char → Option (Nat × List Char)
  | [] => none
  | c :: rest =>
      match closeBlock? '#' (c :: rest) with
      | some found => some found
      | none => (skipComment rest).map fun (n, after) => (n + 1, after)

/-- Behind an opening delimiter and its sign: the directive that starts raw text. -/
def startRaw? (text : List Char) : Option (Nat × List Char) :=
  match text.dropWhile isBlank with
  | 'r' :: 'a' :: 'w' :: rest =>
    match rest.dropWhile isBlank with
    | '%' :: '\x7d' :: after => some (text.length - after.length, after)
    | '-' :: '%' :: '\x7d' :: after =>
        let after := after.dropWhile isBlank
        some (text.length - after.length, after)
    | _ => none
  | _ => none

/-- Behind an opening delimiter and its sign: the directive that ends raw text. -/
def endRaw? (text : List Char) : Option (Nat × List Char) :=
  match text.dropWhile isBlank with
  | 'e' :: 'n' :: 'd' :: 'r' :: 'a' :: 'w' :: rest =>
      let rest := rest.dropWhile isBlank
      (closeBlock? '%' rest).map fun (_, after) => (text.length - after.length, after)
  | _ => none

/-- Raw text, the sign of the tag that ends it, the characters of that tag and what follows. -/
def splitRaw : List Char → Option (List Char × Sign × Nat × List Char)
  | [] => none
  | '\x7b' :: '%' :: rest =>
      let (sign, inside) := Sign.read rest
      match endRaw? inside with
      | some (n, after) => some ([], sign, n + 2 + sign.width, after)
      | none => (splitRaw ('%' :: rest)).map fun (raw, found) => ('\x7b' :: raw, found)
  | c :: rest => (splitRaw rest).map fun (raw, found) => (c :: raw, found)

/-- Operators, the longer ones first. -/
def operators : List String :=
  ["//", "**", "==", "!=", ">=", "<=", "+", "-", "/", "*", "%", "~", "[", "]", "(", ")",
    "\x7b", "\x7d", ">", "<", "=", ".", ":", "|", ",", ";"]

def operator? (text : List Char) : Option String :=
  operators.find? fun op => op.toList.isPrefixOf text

/-- The bracket that closes an opening one. -/
def closing? : String → Option String
  | "\x7b" => some "\x7d"
  | "(" => some ")"
  | "[" => some "]"
  | _ => none

def isClosing (op : String) : Bool := op = "\x7d" || op = ")" || op = "]"

/-- One token inside a tag: the token if it is one, the characters it takes, the brackets that are
open after it; or what is wrong. -/
inductive Lexeme where
  | skip (length : Nat)
  | token (token : Token) (length : Nat) (brackets : List String)
  | fault (message : String)
  | escape (cause : Escape)

/-- A whole number, unless it is too long to be read. -/
def Lexeme.ofDigits (base : Nat) (digits : List Char) (brackets : List String) : Lexeme :=
  let count := (digits.filter (· ≠ '_')).length
  if base = 10 && digitLimit < count then .escape (.longNumber (some count))
  else .token (.int (intValue base digits)) digits.length brackets

/-- The operator with its effect on the open brackets. -/
def Lexeme.ofOperator (op : String) (brackets : List String) : Lexeme :=
  match closing? op with
  | some close => .token (.op op) op.length (close :: brackets)
  | none =>
    if isClosing op then
      match brackets with
      | [] => .fault s!"unexpected '{op}'"
      | expected :: rest =>
        if expected = op then .token (.op op) op.length rest
        else .fault s!"unexpected '{op}', expected '{expected}'"
    else .token (.op op) op.length brackets

/-- The token at the beginning of the inside of a tag.  `afterPoint` says that a point stands
directly before it, `position` counts the characters before it. -/
def Lexeme.read (afterPoint : Bool) (position : Nat) (brackets : List String)
    (text : List Char) : Lexeme :=
  let blanks := (text.takeWhile isBlank).length
  let word := text.takeWhile isNamePart
  if blanks ≠ 0 then .skip blanks
  else
    match if afterPoint then none else floatLength? text with
    | some n => .token (.float (floatValue (text.take n))) n brackets
    | none =>
      match intLength? text with
      | some (n, base) => .ofDigits base (text.take n) brackets
      | none =>
        if !word.isEmpty then
          if isIdentifier word then .token (.name (String.ofList word)) word.length brackets
          else .fault "Invalid character in identifier"
        else
          match textLength? text with
          | some n =>
            match unescape ((text.take (n - 1)).drop 1) with
            | .ok chars => .token (.text (String.ofList chars)) n brackets
            | .error message => .fault message
          | none =>
            match operator? text, text.head? with
            | some op, _ => .ofOperator op brackets
            | none, some c =>
              .fault s!"unexpected char {quote (String.singleton c)} at {position}"
            | none, none => .skip 0

/-- Where the reader is: outside tags, or inside one with these brackets open. -/
inductive LexMode where
  | outside (lineStart : Bool)
  | inside (kind : TagKind) (brackets : List String) (afterPoint : Bool)

def TagKind.closeToken : TagKind → Token
  | .variable => .variableEnd
  | _ => .blockEnd

def TagKind.openToken : TagKind → Token
  | .variable => .variableBegin
  | _ => .blockBegin

def TagKind.close? : TagKind → List Char → Option (Nat × List Char)
  | .variable => closeVariable?
  | _ => closeBlock? '%'

/-- The last of the first `n` characters is a line end. -/
def endsLine (n : Nat) (text : List Char) : Bool := (text.take n).getLast? = some '\n'

/-- A piece of text as a token, unless it is empty. -/
def consData (line : Nat) (text : List Char) (stream : TokenStream) : TokenStream :=
  if text.isEmpty then stream else stream.cons line (.data (String.ofList text))

/-- The tokens of the text from a position on.  The first argument bounds the number of steps, each
of which takes at least one character. -/
def lexFrom : Nat → LexMode → Nat → Nat → List Char → TokenStream
  | 0, _, _, _, _ | _, _, _, _, [] => .ended
  | fuel + 1, .outside lineStart, line, position, text =>
      match splitAtTag text with
      | none => consData line text .ended
      | some (before, kind, afterOpen) =>
        let (sign, inside) := Sign.read afterOpen
        let shown := trimBefore sign kind lineStart before
        let line' := line + countNewlines before
        let position' := position + before.length + 2 + sign.width
        consData line shown <|
          match kind, if kind = .block then startRaw? inside else none with
          | .comment, _ =>
            match inside, skipComment inside with
            | [], _ => .ended
            | _, none => .broken line' "Missing end of comment tag"
            | _, some (n, after) =>
              lexFrom fuel (.outside (endsLine n inside))
                (line' + countNewlines (inside.take n)) (position' + n) after
          | _, some (n, raw) =>
            let line' := line' + countNewlines (inside.take n)
            match raw, splitRaw raw with
            | [], _ => .ended
            | _, none => .broken line' "Missing end of raw directive"
            | _, some (content, sign, m, after) =>
              let shown := trimBefore sign .block (endsLine n inside) content
              let taken := content.length + m
              consData line' shown <|
                lexFrom fuel (.outside (endsLine taken raw))
                  (line' + countNewlines (raw.take taken)) (position' + n + taken) after
          | _, none =>
            .cons line' kind.openToken <|
              lexFrom fuel (.inside kind [] false) line' position' inside
  | fuel + 1, .inside kind brackets afterPoint, line, position, text =>
      match if brackets.isEmpty then kind.close? text else none with
      | some (n, after) =>
        .cons line kind.closeToken <|
          lexFrom fuel (.outside (endsLine n text)) (line + countNewlines (text.take n))
            (position + n) after
      | none =>
        match Lexeme.read afterPoint position brackets text with
        | .fault message => .broken line message
        | .escape cause => .escaped cause
        | .skip n =>
          lexFrom fuel (.inside kind brackets false) (line + countNewlines (text.take n))
            (position + n) (text.drop n)
        | .token token n brackets =>
          .cons line token <|
            lexFrom fuel (.inside kind brackets (endsPoint token))
              (line + countNewlines (text.take n)) (position + n) (text.drop n)
where
  endsPoint : Token → Bool
    | .op "." => true
    | _ => false

/-- The tokens of a template. -/
def lex (source : String) : TokenStream :=
  let text := normalizeNewlines source.toList
  lexFrom (text.length + 1) (.outside true) 1 0 text

end Scaffold.Template
