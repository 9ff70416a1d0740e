import Scaffold.Template.Value.Arithmetic
import Scaffold.Number.Fixed

/-!
# Format strings

A percent sign begins a directive: an optional key in parentheses, flags, a width, a precision and
the letter of the conversion.  Directives take the values one after the other, or by key.
-/

namespace Scaffold.Template

open Text

/-- How a directive wants its value. -/
structure Directive where
  left : Bool
  plus : Bool
  blank : Bool
  alternate : Bool
  zero : Bool
  width : Nat
  precision? : Option Nat
  deriving DecidableEq, Repr

namespace Directive

def plain : Directive := ⟨false, false, false, false, false, 0, none⟩

/-- A flag, if the character is one. -/
def flag? (d : Directive) : Char → Option Directive
  | '-' => some { d with left := true }
  | '+' => some { d with plus := true }
  | ' ' => some { d with blank := true }
  | '#' => some { d with alternate := true }
  | '0' => some { d with zero := true }
  | _ => none

/-- Text in a field of the width. -/
def pad (d : Directive) (text : String) : String :=
  let gap := String.ofList (List.replicate (d.width - text.length) ' ')
  if d.left then text ++ gap else gap ++ text

/-- Digits with sign and base mark in a field of the width. -/
def padNumber (d : Directive) (negative : Bool) (mark digits : String) : String :=
  let sign := if negative then "-" else if d.plus then "+" else if d.blank then " " else ""
  let size := sign.length + mark.length + digits.length
  if d.zero && !d.left then
    sign ++ mark ++ String.ofList (List.replicate (d.width - size) '0') ++ digits
  else d.pad (sign ++ mark ++ digits)

end Directive

/-- The values that are still to be taken. -/
structure FormatArgs where
  waiting : List Value
  /-- The value with the keys. -/
  mapping? : Option Value
  /-- A value of its own was given, which need not be used if it has keys. -/
  single : Bool

namespace FormatArgs

def ofValue : Value → FormatArgs
  | .tuple items => ⟨items, none, false⟩
  | .dict entries => ⟨[.dict entries], some (.dict entries), true⟩
  | .list items => ⟨[.list items], some (.list items), true⟩
  | v => ⟨[v], none, true⟩

def next (args : FormatArgs) : Except Trouble (Value × FormatArgs) :=
  match args.waiting with
  | v :: rest => .ok (v, { args with waiting := rest })
  | [] => .error (.wrongType "not enough arguments for format string")

/-- The value of a key becomes the next value. -/
def select (args : FormatArgs) (key : String) : Except Trouble FormatArgs :=
  match args.mapping? with
  | some (.dict entries) =>
    match Value.findKey? (.text key) entries with
    | some v => .ok { args with waiting := [v] }
    | none => .error (.fault .noKey (quote key))
  | some _ => .error (.wrongType "list indices must be integers or slices, not str")
  | none => .error (.wrongType "format requires a mapping")

/-- Nothing may be left over but a value with keys. -/
def finish (args : FormatArgs) : Except Trouble Unit :=
  if args.waiting.isEmpty || args.mapping?.isSome then .ok ()
  else .error (.wrongType "not all arguments converted during string formatting")

end FormatArgs

/-- The whole number that a conversion of whole numbers shows. -/
def wholeArgument (letter : Char) (v : Value) : Except Trouble Int :=
  match v, v.int? with
  | _, some n => .ok n
  | .float x, none =>
      if letter = 'x' ∨ letter = 'X' ∨ letter = 'o' then
        .error (.wrongType s!"%{letter} format: an integer is required, not float")
      else
        match Number.truncate? x with
        | some n => .ok n
        | none =>
          .error (if x.isNaN then .wrongValue "cannot convert float NaN to integer"
            else .fault .overflow "cannot convert float infinity to integer")
  | v, none =>
      let wanted :=
        if letter = 'x' ∨ letter = 'X' ∨ letter = 'o' then "an integer" else "a real number"
      .error (.wrongType s!"%{letter} format: {wanted} is required, not {v.typeName}")

def upperDigits (text : String) : String := text.map Char.toUpper

/-- A whole number with the base that the letter names. -/
def Directive.writeWhole (d : Directive) (letter : Char) (n : Int) : String :=
  let base := match letter with
    | 'o' => 8
    | 'x' | 'X' => 16
    | _ => 10
  let digits := Nat.toDigits base n.natAbs
  let digits := List.replicate ((d.precision?.getD 0) - digits.length) '0' ++ digits
  let digits := String.ofList digits
  let digits := if letter = 'X' then upperDigits digits else digits
  let mark :=
    if !d.alternate then ""
    else if letter = 'o' then "0o"
    else if letter = 'x' then "0x"
    else if letter = 'X' then "0X"
    else ""
  d.padNumber (n < 0) mark digits

/-- A floating-point number in the form that the letter names. -/
def Directive.writeReal (d : Directive) (letter : Char) (x : Float) : String :=
  let places := d.precision?.getD 6
  let digits := match Number.Binary.ofFloat? x with
    | none => if x.isNaN then "nan" else "inf"
    | some b =>
        let (num, den) := Number.scaled b.significand b.exponent
        match letter.toLower with
        | 'e' => Number.exponentFixedText num den places d.alternate
        | 'g' => Number.generalText num den places d.alternate
        | _ => Number.fixedText num den places d.alternate
  let negative := match Number.Binary.ofFloat? x with
    | some b => b.negative
    | none => x < 0
  d.padNumber negative "" (if letter.isUpper then upperDigits digits else digits)

/-- Without what is beyond the precision. -/
def Directive.cut (d : Directive) (text : String) : String :=
  match d.precision? with
  | some n => String.ofList (text.toList.take n)
  | none => text

/-- Characters beyond ASCII as escapes. -/
def asciiOnly (text : String) : String :=
  String.ofList (text.toList.flatMap fun c =>
    if c.toNat < 0x80 then [c] else codeEscape c.toNat)

def characterArgument (v : Value) : Except Trouble String :=
  match v.text?, v.int? with
  | some s, _ => if s.length = 1 then .ok s else .error (.wrongType "%c requires int or char")
  | none, some n =>
      if 0 ≤ n ∧ n < 0x110000 then .ok (String.singleton (Char.ofNat n.toNat))
      else .error (.fault .overflow "%c arg not in range(0x110000)")
  | none, none => .error (.wrongType "%c requires int or char")

/-- A value as the letter of its directive wants it. -/
def Directive.write (d : Directive) (letter : Char) (position : Nat) (v : Value) :
    Except Trouble String :=
  match letter with
  | 's' => return d.pad (d.cut (← v.display))
  | 'r' => return d.pad (d.cut v.literal)
  | 'a' => return d.pad (d.cut (asciiOnly v.literal))
  | 'd' | 'u' | 'x' | 'X' | 'o' => return d.writeWhole letter (← wholeArgument letter v)
  | 'i' => return d.writeWhole 'd' (← wholeArgument 'd' v)
  | 'e' | 'E' | 'f' | 'F' | 'g' | 'G' => return d.writeReal letter (← v.toFloat)
  | 'c' => return d.pad (← characterArgument v)
  | c =>
      let shown := if 31 ≤ c.toNat ∧ c.toNat ≤ 126 then c else '?'
      .error (.wrongValue (s!"unsupported format character '{shown}'"
        ++ s!" (0x{String.ofList (Nat.toDigits 16 c.toNat)}) at index {position}"))

/-- The flags at the beginning of a text. -/
def readFlags (d : Directive) : List Char → Directive × List Char
  | [] => (d, [])
  | c :: rest =>
      match d.flag? c with
      | some d => readFlags d rest
      | none => (d, c :: rest)

/-- A number written out, or taken from the values where a star stands. -/
def readCount (args : FormatArgs) (text : List Char) :
    Except Trouble (Int × List Char × FormatArgs) :=
  match text with
  | '*' :: rest => do
      let (v, args) ← args.next
      match v.int? with
      | some n => return (n, rest, args)
      | none => .error (.wrongType "* wants int")
  | _ =>
      let digits := text.takeWhile Char.isDigit
      .ok (digits.foldl (fun n c => n * 10 + (c.toNat - '0'.toNat : Nat)) 0,
        text.drop digits.length, args)

/-- The key in parentheses, which may hold parentheses, and what follows it. -/
def readKey (depth : Nat) : List Char → Option (List Char × List Char)
  | [] => none
  | ')' :: rest =>
      if depth = 0 then some ([], rest)
      else (readKey (depth - 1) rest).map fun (key, after) => (')' :: key, after)
  | c :: rest =>
      (readKey (if c = '(' then depth + 1 else depth) rest).map fun (key, after) =>
        (c :: key, after)

/-- Length marks say nothing. -/
def skipLengthMark : List Char → List Char
  | 'h' :: rest | 'l' :: rest | 'L' :: rest => rest
  | text => text

/-- The text of a directive behind its percent sign, with what follows it. -/
def formatDirective (size : Nat) (args : FormatArgs) (text : List Char) :
    Except Trouble (String × List Char × FormatArgs) := do
  let (args, text) ← match text with
    | '(' :: rest =>
      match args.mapping?, readKey 0 rest with
      | none, _ => .error (.wrongType "format requires a mapping")
      | some _, some (key, after) => pure (← args.select (String.ofList key), after)
      | some _, none => .error (.wrongValue "incomplete format key")
    | text => pure (args, text)
  let (d, text) := readFlags .plain text
  let (width, text, args) ← readCount args text
  let d := { d with left := d.left || width < 0, width := width.natAbs }
  let (d, text, args) ← match text with
    | '.' :: rest => do
        let (precision, rest, args) ← readCount args rest
        pure ({ d with precision? := some precision.toNat }, rest, args)
    | text => pure (d, text, args)
  match skipLengthMark text with
  | [] => .error (.wrongValue "incomplete format")
  | '%' :: rest => return ("%", rest, args)
  | letter :: rest => do
      let (v, args) ← args.next
      return (← d.write letter (size - rest.length - 1) v, rest, args)

/-- The text with its directives replaced; the first argument bounds their number. -/
def formatFrom (size : Nat) : Nat → FormatArgs → List Char → Except Trouble String
  | 0, args, _ => do
      args.finish
      return ""
  | fuel + 1, args, text => do
      let before := text.takeWhile (· ≠ '%')
      match text.drop before.length with
      | [] =>
          args.finish
          return String.ofList before
      | _ :: rest =>
          let (shown, rest, args) ← formatDirective size args rest
          return String.ofList before ++ shown ++ (← formatFrom size fuel args rest)

/-- A text whose directives take a value, or the elements of a tuple. -/
def formatText (text : String) (value : Value) : Except Trouble String :=
  let chars := text.toList
  formatFrom chars.length (chars.length + 1) (.ofValue value) chars

/-- Texts inside a value as they stand in markup. -/
def Value.escapeParts : Value → Value
  | .text s => .text (Value.escapeText s)
  | .tuple items => .tuple (items.map fun
      | .text s => .text (Value.escapeText s)
      | v => v)
  | v => v

/-- All operators; `%` behind a text fills in its directives. -/
def Value.operator (op : BinaryOp) (a b : Value) : Except Trouble Value :=
  match op, a with
  | .mod, .text s => (formatText s b).map .text
  | .mod, .markup s => (formatText s b.escapeParts).map .markup
  | op, a => Value.operate op a b

end Scaffold.Template
