import Scaffold.Text.CaseData

/-!
# Upper, lower and title case

Case conversion of text by the full mappings of Unicode 14.  The only mapping that looks at its
neighbours is the lower case of capital sigma, which takes its final form at the end of a word.
-/

namespace Scaffold.Text

open CaseData

/-- The full form of a character: its special form, else its offset form, else itself. -/
def mapped (specials : List (Nat × List Nat)) (runs : List ShiftRun) (c : Char) : List Char :=
  match specials.lookup c.toNat with
  | some codes => codes.map Char.ofNat
  | none =>
    match shiftIn? c.toNat runs with
    | some shift => [shiftChar c shift]
    | none => [c]

/-- Lower case of a character that stands alone. -/
def lowerChar (c : Char) : List Char := mapped lowerSpecials lowerRuns c

def upperChar (c : Char) : List Char := mapped upperSpecials upperRuns c

/-- Title case differs from upper case for digraphs and for letters without a title form. -/
def titleChar (c : Char) : List Char :=
  match titleSpecials.lookup c.toNat with
  | some codes => codes.map Char.ofNat
  | none =>
    match shiftIn? c.toNat titleRuns with
    | some shift => [shiftChar c shift]
    | none => upperChar c

def isCased (c : Char) : Bool := inRanges c.toNat casedRanges

def isCaseIgnorable (c : Char) : Bool := inRanges c.toNat caseIgnorableRanges

/-- No cased letter follows, marks and inner punctuation aside. -/
def endsWord (rest : List Char) : Bool :=
  match rest.dropWhile isCaseIgnorable with
  | [] => true
  | c :: _ => !isCased c

/-- The last character that is not case-ignorable is a cased letter; `before` says so of the text
in front of `c`. -/
def casedAfter (before : Bool) (c : Char) : Bool :=
  if isCaseIgnorable c then before else isCased c

/-- Lower case of a character in its place. -/
def lowerInPlace (before : Bool) (c : Char) (rest : List Char) : List Char :=
  if c = 'Σ' then [if before && endsWord rest then 'ς' else 'σ'] else lowerChar c

/-- Lower case of text that stands behind other text. -/
def lowerAfter (before : Bool) : List Char → List Char
  | [] => []
  | c :: rest => lowerInPlace before c rest ++ lowerAfter (casedAfter before c) rest

def lower (text : List Char) : List Char := lowerAfter false text

def upper (text : List Char) : List Char := text.flatMap upperChar

/-- The first character in title case, the others in lower case. -/
def capitalize : List Char → List Char
  | [] => []
  | c :: rest => titleChar c ++ lowerAfter (casedAfter false c) rest

/-- Title case for each letter that follows no cased letter directly. -/
def titleAfter (previous before : Bool) : List Char → List Char
  | [] => []
  | c :: rest =>
      (if previous then lowerInPlace before c rest else titleChar c)
        ++ titleAfter (isCased c) (casedAfter before c) rest

def title (text : List Char) : List Char := titleAfter false false text

/-- Lower case of a string. -/
def lowerString (s : String) : String := String.ofList (lower s.toList)

/-- Upper case of a string. -/
def upperString (s : String) : String := String.ofList (upper s.toList)

end Scaffold.Text
