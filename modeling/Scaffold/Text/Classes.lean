import Scaffold.Text.ClassData

/-!
# Character classes

White space, printable characters, decimal digits and identifiers.
-/

namespace Scaffold.Text

open ClassData

def isBlank (c : Char) : Bool := inRanges c.toNat blankRanges

def isPrintable (c : Char) : Bool := !inRanges c.toNat unprintableRanges

/-- The value of a decimal digit of any script. -/
def digitValue? (c : Char) : Option Nat :=
  (decimalZeros.find? fun base => base ≤ c.toNat && c.toNat < base + 10).map (c.toNat - ·)

def isIdentifierStart (c : Char) : Bool := inRanges c.toNat identifierStartRanges

def isIdentifierPart (c : Char) : Bool := inRanges c.toNat identifierRanges

/-- Characters of a run that is read as one name, whether or not it is an identifier. -/
def isNamePart (c : Char) : Bool :=
  isIdentifierPart c || inRanges c.toNat wordOnlyRanges

def isIdentifier : List Char → Bool
  | [] => false
  | c :: rest => isIdentifierStart c && rest.all isIdentifierPart

/-- Without the characters of the class at the end. -/
def dropTrailing (p : Char → Bool) (text : List Char) : List Char :=
  (text.reverse.dropWhile p).reverse

/-- Without white space at both ends. -/
def strip (text : List Char) : List Char :=
  dropTrailing isBlank (text.dropWhile isBlank)

end Scaffold.Text
