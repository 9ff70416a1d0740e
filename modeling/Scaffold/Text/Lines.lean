/-!
# Lines

Line ends of text files, and the cutting of text into lines.
-/

namespace Scaffold.Text

/-- Every line end, whether carriage return, line feed or both, becomes one line feed. -/
def normalizeNewlines : List Char → List Char
  | [] => []
  | '\r' :: '\n' :: rest => '\n' :: normalizeNewlines rest
  | '\r' :: rest => '\n' :: normalizeNewlines rest
  | c :: rest => c :: normalizeNewlines rest

/-- Characters that end a line of displayed text. -/
def isLineBoundary (c : Char) : Bool :=
  c.toNat ∈ [0x0a, 0x0b, 0x0c, 0x0d, 0x1c, 0x1d, 0x1e, 0x85, 0x2028, 0x2029]

/-- The lines of displayed text without their ends; `line` is the begun line, reversed. -/
def displayLinesFrom (line : List Char) : List Char → List (List Char)
  | [] => if line.isEmpty then [] else [line.reverse]
  | '\r' :: '\n' :: rest => line.reverse :: displayLinesFrom [] rest
  | c :: rest =>
      if isLineBoundary c then line.reverse :: displayLinesFrom [] rest
      else displayLinesFrom (c :: line) rest

def displayLines (text : List Char) : List (List Char) := displayLinesFrom [] text

end Scaffold.Text
