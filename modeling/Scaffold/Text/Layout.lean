import Scaffold.Text.Case
import Scaffold.Text.Classes
import Scaffold.Text.Lines

/-!
# Cutting and laying out text

Searching, replacing and splitting text, and placing it in fields.
-/

namespace Scaffold.Text

/-- The text before and after the first occurrence of a part. -/
def breakAt? (part : List Char) : List Char → Option (List Char × List Char)
  | [] => if part.isEmpty then some ([], []) else none
  | c :: rest =>
      if part.isPrefixOf (c :: rest) then some ([], (c :: rest).drop part.length)
      else (breakAt? part rest).map fun (before, after) => (c :: before, after)

/-- The text before and after the last occurrence of a part. -/
def breakAtLast? (part text : List Char) : Option (List Char × List Char) :=
  (breakAt? part.reverse text.reverse).map fun (after, before) => (before.reverse, after.reverse)

/-- The pieces between at most `count` occurrences of a part that is not empty. -/
def splitAtPart (part : List Char) : Nat → List Char → List (List Char)
  | 0, text => [text]
  | count + 1, text =>
      match breakAt? part text with
      | some (before, after) => before :: splitAtPart part count after
      | none => [text]

/-- New text before each of the first `count` characters, and at the end if the count allows. -/
def interleave (new : List Char) : Nat → List Char → List Char
  | 0, text => text
  | _ + 1, [] => new
  | count + 1, c :: rest => new ++ c :: interleave new count rest

/-- The first `count` occurrences of a part replaced; an empty part occurs between all
characters. -/
def replacePart (part new : List Char) (count : Nat) (text : List Char) : List Char :=
  if part.isEmpty then interleave new count text
  else new.intercalate (splitAtPart part count text)

/-- The number of occurrences that do not overlap. -/
def countPart (part text : List Char) : Nat :=
  if part.isEmpty then text.length + 1 else (splitAtPart part text.length text).length - 1

/-- The words between white space, at most `count` of them cut off; the rest stays whole. -/
def splitBlanks : Nat → List Char → List (List Char)
  | count, text =>
      let text := text.dropWhile isBlank
      if text.isEmpty then []
      else
        match count with
        | 0 => [text]
        | count + 1 =>
          let word := text.takeWhile (!isBlank ·)
          word :: splitBlanks count (text.drop word.length)

def stripLeft (p : Char → Bool) (text : List Char) : List Char := text.dropWhile p

def stripBoth (p : Char → Bool) (text : List Char) : List Char :=
  dropTrailing p (text.dropWhile p)

/-- Text in the middle of a field; an odd blank goes to the left if the field is odd. -/
def center (width : Nat) (fill : Char) (text : List Char) : List Char :=
  let margin := width - text.length
  let left := margin / 2 + (if margin % 2 = 1 ∧ width % 2 = 1 then 1 else 0)
  List.replicate left fill ++ text ++ List.replicate (margin - left) fill

def alignLeft (width : Nat) (fill : Char) (text : List Char) : List Char :=
  text ++ List.replicate (width - text.length) fill

def alignRight (width : Nat) (fill : Char) (text : List Char) : List Char :=
  List.replicate (width - text.length) fill ++ text

/-- Characters at which words of a title begin anew. -/
def startsWord (c : Char) : Bool :=
  isBlank c || c = '-' || c = '(' || c = '\x7b' || c = '[' || c = '<'

/-- Runs of characters that agree on a property. -/
def runsOf (p : Char → Bool) : List Char → List (List Char)
  | [] => []
  | c :: rest =>
      match runsOf p rest with
      | (d :: run) :: more => if p c = p d then (c :: d :: run) :: more else [c] :: (d :: run) :: more
      | _ => [[c]]

/-- Each word with its first character in upper case and the others in lower case. -/
def titleWords (text : List Char) : List Char :=
  (runsOf startsWord text).flatMap fun
    | [] => []
    | c :: rest => upper [c] ++ lower rest

/-- The number of words. -/
def countWords (text : List Char) : Nat :=
  ((runsOf isNamePart text).filter fun run => run.any isNamePart).length

/-- Lines with an indentation before all but the first; empty lines get none unless asked for. -/
def indentLines (indent : List Char) (first blank : Bool) (text : List Char) : List Char :=
  let lines := displayLines (text ++ ['\n'])
  let laid :=
    if blank then ('\n' :: indent).intercalate lines
    else
      match lines with
      | [] => []
      | head :: rest =>
        head ++ rest.flatMap fun line => '\n' :: if line.isEmpty then [] else indent ++ line
  if first then indent ++ laid else laid

end Scaffold.Text
