/-!
# Base 64

Bytes written with sixty-four characters, three bytes in four of them.  Other characters are passed
over, and a group that padding completes is the last one.
-/

namespace Scaffold.Text

/-- The six bits that a character stands for. -/
def sextet? (c : Char) : Option Nat :=
  if 'A' ≤ c ∧ c ≤ 'Z' then some (c.toNat - 'A'.toNat)
  else if 'a' ≤ c ∧ c ≤ 'z' then some (c.toNat - 'a'.toNat + 26)
  else if '0' ≤ c ∧ c ≤ '9' then some (c.toNat - '0'.toNat + 52)
  else if c = '+' then some 62
  else if c = '/' then some 63
  else none

/-- The byte that a character completes, with the bits left over, if it is the character of this
number in its group. -/
def joinSextet (number left bits : Nat) : List UInt8 × Nat :=
  match number with
  | 0 => ([], bits)
  | 1 => ([(left * 4 + bits / 16).toUInt8], bits % 16)
  | 2 => ([(left * 16 + bits / 4).toUInt8], bits % 4)
  | _ => ([(left * 64 + bits).toUInt8], 0)

/-- The bytes of a text of which `number` characters of a group, with the bits `left` over, and
`pads` padding characters came before.  A group that breaks off is refused. -/
def base64From (number left pads : Nat) : List Char → Option (List UInt8)
  | [] => if number = 0 then some [] else none
  | c :: rest =>
      if c = '=' then
        if 2 ≤ number then
          if 4 ≤ number + pads + 1 then some [] else base64From number left (pads + 1) rest
        else base64From number left pads rest
      else
        match sextet? c with
        | none => base64From number left pads rest
        | some bits =>
            let (bytes, left) := joinSextet number left bits
            (base64From ((number + 1) % 4) left 0 rest).map (bytes ++ ·)

def decodeBase64 (text : List Char) : Option ByteArray :=
  (base64From 0 0 0 text).map fun bytes => ⟨bytes.toArray⟩

end Scaffold.Text
