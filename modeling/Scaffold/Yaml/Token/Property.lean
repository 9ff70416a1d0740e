import Scaffold.Text.Utf8
import Scaffold.Yaml.Character
import Scaffold.Yaml.Token

/-!
# Names, tags and directives

The tokens that say something about nodes and documents.
-/

namespace Scaffold.Yaml

/-- The name of an anchor and the rest. -/
def readAnchor? (text : List Char) : Option (List Char × List Char) :=
  let name := text.takeWhile isNameChar
  let rest := text.dropWhile isNameChar
  let closed := atGap rest ||
    (rest.head?.map fun c =>
      decide (c ∈ ['?', ':', ',', ']', '\x7d', '%', '@', '\x60'])).getD false
  if name.isEmpty || !closed then none else some (name, rest)

/-! ## Tags -/

def isUriChar (c : Char) : Bool :=
  isNameChar c || "-;/?:@&=+$,_.!~*'()[]%".toList.contains c

/-- The bytes that percent signs with two hexadecimal digits stand for, and the rest. -/
def percentBytes? : List Char → Option (List UInt8 × List Char)
  | '%' :: a :: b :: rest => do
      let high ← hexValue? a
      let low ← hexValue? b
      let (bytes, rest) ← percentBytes? rest
      return ((high * 16 + low).toUInt8 :: bytes, rest)
  | '%' :: _ => none
  | rest => some ([], rest)

/-- The characters of a tag, of which at most so many parts are read. -/
def uriParts? : Nat → List Char → Option (List Char × List Char)
  | 0, rest => some ([], rest)
  | n + 1, '%' :: rest => do
      let (bytes, rest) ← percentBytes? ('%' :: rest)
      let text ← (Text.decodeUtf8 ⟨bytes.toArray⟩).toOption
      let (more, rest) ← uriParts? n rest
      return (text.toList ++ more, rest)
  | n + 1, c :: rest =>
      if isUriChar c then do
        let (more, rest) ← uriParts? n rest
        return (c :: more, rest)
      else some ([], c :: rest)
  | _ + 1, [] => some ([], [])

/-- The characters of a tag, which are one at least. -/
def readUri? (text : List Char) : Option (List Char × List Char) := do
  let (uri, rest) ← uriParts? text.length text
  if rest.length = text.length then none else some (uri, rest)

/-- A name between exclamation marks. -/
def readHandle? : List Char → Option (List Char × List Char)
  | '!' :: ' ' :: rest => some (['!'], ' ' :: rest)
  | '!' :: text =>
    match text.dropWhile isNameChar with
    | '!' :: rest => some ('!' :: text.takeWhile isNameChar ++ ['!'], rest)
    | _ => none
  | _ => none

/-- An exclamation mark stands before the next space. -/
def hasHandle (text : List Char) : Bool :=
  (text.takeWhile fun c => !(c = ' ' || isBreak c)).contains '!'

/-- The tag behind an exclamation mark, and the rest. -/
def readTagText? (text : List Char) : Option (TagText × List Char) :=
  match text with
  | '<' :: text => do
      let (uri, rest) ← readUri? text
      if rest.head? = some '>' then some (⟨none, uri⟩, rest.drop 1) else none
  | text =>
      if atGap text then some (⟨none, ['!']⟩, text)
      else if hasHandle text then do
        let (handle, rest) ← readHandle? ('!' :: text)
        let (suffix, rest) ← readUri? rest
        return (⟨some handle, suffix⟩, rest)
      else do
        let (suffix, rest) ← readUri? text
        return (⟨some ['!'], suffix⟩, rest)

/-- A tag that is followed by a space. -/
def readTag? (text : List Char) : Option (TagText × List Char) := do
  let (tag, rest) ← readTagText? text
  if atSpace rest then some (tag, rest) else none

/-! ## Directives -/

def isDigit (c : Char) : Bool := '0' ≤ c && c ≤ '9'

def digitsValue (digits : List Char) : Nat :=
  digits.foldl (fun n c => n * 10 + (c.toNat - '0'.toNat)) 0

/-- A number of a version, and the rest. -/
def readNumber (text : List Char) : Except Trouble (Nat × List Char) :=
  let digits := text.takeWhile isDigit
  if digits.isEmpty then .error .malformed
  else if digitLimit < digits.length then .error (.tooLong digits.length)
  else .ok (digitsValue digits, text.dropWhile isDigit)

/-- The two numbers of a version. -/
def readVersion (text : List Char) : Except Trouble (Directive × List Char) := do
  let (major, rest) ← readNumber (dropSpaces text)
  if rest.head? ≠ some '.' then throw .malformed
  let (_, rest) ← readNumber (rest.drop 1)
  if !atSpace rest then throw .malformed
  return (.version major, rest)

/-- A handle and what it abbreviates. -/
def readAbbreviation? (text : List Char) : Option (Directive × List Char) := do
  let (name, rest) ← readHandle? (dropSpaces text)
  if rest.head? ≠ some ' ' then none
  else
    let (uri, rest) ← readUri? (dropSpaces rest)
    if atSpace rest then some (.handle name uri, rest) else none

/-- The directive behind a percent sign, and the rest behind its line. -/
def readDirective (text : List Char) : Except Trouble (Directive × List Char) := do
  let name := text.takeWhile isNameChar
  let rest := text.dropWhile isNameChar
  if name.isEmpty || !atSpace rest then throw .malformed
  let (directive, rest) ←
    if name = "YAML".toList then readVersion rest
    else if name = "TAG".toList then orMalformed (readAbbreviation? rest)
    else pure (.other, dropLine rest)
  let rest := dropComment rest
  if !atLineEnd rest then throw .malformed
  return (directive, (takeBreak rest).2)

end Scaffold.Yaml
