/-!
# Code point ranges

Sorted lists of code point ranges and of runs of characters that share an offset, with their
look-ups.  A look-up stops at the first range that begins after the code point.
-/

namespace Scaffold.Text

/-- Every `step`-th code point from `first` to `last`, moved by `shift`. -/
structure ShiftRun where
  first : Nat
  last : Nat
  step : Nat
  shift : Int
  deriving DecidableEq, Repr

/-- The code point belongs to one of the ranges. -/
def inRanges (code : Nat) : List (Nat × Nat) → Bool
  | [] => false
  | (first, last) :: rest => first ≤ code && (code ≤ last || inRanges code rest)

/-- The offset of the run that holds the code point. -/
def shiftIn? (code : Nat) : List ShiftRun → Option Int
  | [] => none
  | run :: rest =>
      if code < run.first then none
      else if code ≤ run.last ∧ (code - run.first) % run.step = 0 then some run.shift
      else shiftIn? code rest

/-- The character moved by an offset. -/
def shiftChar (c : Char) (shift : Int) : Char :=
  Char.ofNat (c.toNat + shift).toNat

end Scaffold.Text
