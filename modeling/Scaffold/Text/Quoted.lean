import Scaffold.Text.Classes

/-!
# Quoted text

The literal form in which messages show a piece of text: in single quotes, or in double quotes
when it holds single quotes only, with everything that would not be seen written as an escape.
-/

namespace Scaffold.Text

/-- Hexadecimal digits in lower case, padded with zeros to a width. -/
def hexDigits (width n : Nat) : List Char :=
  let digits := Nat.toDigits 16 n
  List.replicate (width - digits.length) '0' ++ digits

/-- The escape of a character by its code point, as short as its size allows. -/
def codeEscape (n : Nat) : List Char :=
  if n < 0x100 then '\\' :: 'x' :: hexDigits 2 n
  else if n < 0x10000 then '\\' :: 'u' :: hexDigits 4 n
  else '\\' :: 'U' :: hexDigits 8 n

/-- A character inside the given quotes. -/
def quotedChar (quote c : Char) : List Char :=
  if c = quote ∨ c = '\\' then ['\\', c]
  else if c = '\n' then ['\\', 'n']
  else if c = '\r' then ['\\', 'r']
  else if c = '\t' then ['\\', 't']
  else if isPrintable c then [c]
  else codeEscape c.toNat

/-- The quotes around a text. -/
def quoteFor (text : List Char) : Char :=
  if text.contains '\'' && !text.contains '"' then '"' else '\''

def quoted (text : List Char) : List Char :=
  let quote := quoteFor text
  quote :: text.flatMap (quotedChar quote) ++ [quote]

def quote (s : String) : String := String.ofList (quoted s.toList)

/-- A byte inside the given quotes. -/
def quotedByte (quote : Char) (b : UInt8) : List Char :=
  let c := Char.ofNat b.toNat
  if b < 0x80 then quotedChar quote c else codeEscape b.toNat

/-- The literal form of bytes. -/
def quoteBytes (bytes : ByteArray) : String :=
  let chars := bytes.toList.map fun b => Char.ofNat b.toNat
  let quote := quoteFor chars
  String.ofList ('b' :: quote :: bytes.toList.flatMap (quotedByte quote) ++ [quote])

end Scaffold.Text
