import Scaffold.Text.Quoted

/-!
# UTF-8 text

Reading bytes as UTF-8.  Where bytes are not UTF-8 the first fault is located: a byte that starts
no character, a character that breaks off at a byte that does not continue it, or at the end.
-/

namespace Scaffold.Text

inductive Utf8Cause where
  | startByte
  | continuationByte
  | endOfData
  deriving DecidableEq, Repr

/-- The first bytes that are not UTF-8: the first of them, its position and their number. -/
structure Utf8Fault where
  cause : Utf8Cause
  byte : UInt8
  position : Nat
  length : Nat
  deriving DecidableEq, Repr

def Utf8Cause.message : Utf8Cause → String
  | .startByte => "invalid start byte"
  | .continuationByte => "invalid continuation byte"
  | .endOfData => "unexpected end of data"

def Utf8Fault.message (fault : Utf8Fault) : String :=
  let place :=
    if fault.length = 1 then
      s!"byte 0x{String.ofList (hexDigits 2 fault.byte.toNat)} in position {fault.position}"
    else s!"bytes in position {fault.position}-{fault.position + fault.length - 1}"
  s!"'utf-8' codec can't decode {place}: {fault.cause.message}"

def isContinuation (b : UInt8) : Bool := 0x80 ≤ b && b < 0xc0

/-- The number of bytes of the character that a byte starts. -/
def utf8Length? (b : UInt8) : Option Nat :=
  if b < 0x80 then some 1
  else if b < 0xc2 then none
  else if b < 0xe0 then some 2
  else if b < 0xf0 then some 3
  else if b < 0xf5 then some 4
  else none

/-- The second byte of a character after the first one: some first bytes admit fewer values. -/
def isSecondByte (start b : UInt8) : Bool :=
  isContinuation b &&
    !(start == 0xe0 && b < 0xa0) && !(start == 0xed && 0xa0 ≤ b) &&
    !(start == 0xf0 && b < 0x90) && !(start == 0xf4 && 0x90 ≤ b)

/-- How many of the wanted continuation bytes are there, and whether the bytes end before. -/
def continuations : Nat → List UInt8 → Nat × Bool
  | 0, _ => (0, false)
  | _ + 1, [] => (0, true)
  | n + 1, b :: rest =>
      if isContinuation b then
        let (k, ended) := continuations n rest
        (k + 1, ended)
      else (0, false)

/-- The fault of the character that starts here, or its length. -/
def faultOrLength (start : UInt8) (position : Nat) (rest : List UInt8) : Utf8Fault ⊕ Nat :=
  match utf8Length? start with
  | none => .inl ⟨.startByte, start, position, 1⟩
  | some 1 => .inr 1
  | some n =>
    match rest with
    | [] => .inl ⟨.endOfData, start, position, 1⟩
    | second :: more =>
      if !isSecondByte start second then .inl ⟨.continuationByte, start, position, 1⟩
      else
        let (k, ended) := continuations (n - 2) more
        if ended then .inl ⟨.endOfData, start, position, k + 2⟩
        else if k < n - 2 then .inl ⟨.continuationByte, start, position, k + 2⟩
        else .inr n

/-- The first fault; the first argument bounds the number of characters. -/
def firstFault? : Nat → Nat → List UInt8 → Option Utf8Fault
  | 0, _, _ => none
  | _, _, [] => none
  | fuel + 1, position, b :: rest =>
      match faultOrLength b position rest with
      | .inl fault => some fault
      | .inr n => firstFault? fuel (position + n) (rest.drop (n - 1))

/-- The text of UTF-8 bytes, or where they fail to be UTF-8. -/
def decodeUtf8 (bytes : ByteArray) : Except Utf8Fault String :=
  match String.fromUTF8? bytes with
  | some text => .ok text
  | none =>
    match firstFault? bytes.size 0 bytes.toList with
    | some fault => .error fault
    | none => .error ⟨.endOfData, 0, bytes.size, 0⟩

end Scaffold.Text
