import Scaffold.Template.Arguments
import Scaffold.Template.Subscript
import Scaffold.Text.Layout

/-!
# Methods

The callable members of texts, lists, tuples and dictionaries.
-/

namespace Scaffold.Template

open Text

namespace Method

def textMethods : List String :=
  ["capitalize", "casefold", "center", "count", "encode", "endswith", "expandtabs", "find",
    "format", "format_map", "index", "isalnum", "isalpha", "isascii", "isdecimal", "isdigit",
    "isidentifier", "islower", "isnumeric", "isprintable", "isspace", "istitle", "isupper",
    "join", "ljust", "lower", "lstrip", "maketrans", "partition", "removeprefix",
    "removesuffix", "replace", "rfind", "rindex", "rjust", "rpartition", "rsplit", "rstrip",
    "split", "splitlines", "startswith", "strip", "swapcase", "title", "translate", "upper",
    "zfill"]

def dictMethods : List String :=
  ["clear", "copy", "fromkeys", "get", "items", "keys", "pop", "popitem", "setdefault",
    "update", "values"]

def listMethods : List String :=
  ["append", "clear", "copy", "count", "extend", "index", "insert", "pop", "remove", "reverse",
    "sort"]

def tupleMethods : List String := ["count", "index"]

/-- The names of the methods of a value. -/
def namesOf : Value → List String
  | .text _ | .markup _ => textMethods
  | .dict _ => dictMethods
  | .list _ => listMethods
  | .tuple _ | .range _ _ _ => tupleMethods
  | _ => []

/-- The number of arguments that a function takes by position. -/
def checkCount (name : String) (least most : Nat) (args : List Value) (named : Arguments)
    (owner : String) : Except Trouble Unit :=
  let word (n : Nat) := if n = 1 then "argument" else "arguments"
  if !named.isEmpty then .error (.wrongType s!"{owner}.{name}() takes no keyword arguments")
  else if args.length < least then
    .error (.wrongType
      s!"{name} expected at least {least} {word least}, got {args.length}")
  else if most < args.length then
    .error (.wrongType s!"{name} expected at most {most} {word most}, got {args.length}")
  else .ok ()

def needText (v : Value) : Except Trouble (List Char) :=
  match v.text? with
  | some s => .ok s.toList
  | none => .error (.wrongType s!"must be str, not {v.typeName}")

/-! ## Methods of texts -/

/-- The text from an optional start to an optional end, and the place of its start. -/
def window (text : List Char) (bounds : List Value) :
    Except Trouble (List Char × Nat) := do
  let bound (v : Value) : Except Trouble (Option Int) :=
    match v, v.int? with
    | .none, _ => .ok none
    | _, some n => .ok (some n)
    | _, none => .error (.wrongType
        "slice indices must be integers or None or have an __index__ method")
  let start ← bound (bounds.head?.getD .none)
  let stop ← bound (bounds[1]?.getD .none)
  let first := (clampBound text.length true (start.getD 0)).toNat
  let last := (clampBound text.length true (stop.getD text.length)).toNat
  return ((text.take last).drop first, first)

/-- Search for a part; the place is counted from the beginning of the whole text. -/
def search (name : String) (last : Bool) (text : List Char) (args : List Value) :
    Except Trouble (Option Nat) :=
  match args with
  | [] => .error (.wrongType s!"{name}() takes at least 1 argument (0 given)")
  | part :: bounds => do
      let part ← needText part
      let (inside, start) ← window text bounds
      let found := if last then breakAtLast? part inside else breakAt? part inside
      return found.map fun (before, _) => start + before.length

/-- The text begins or ends with one of the parts. -/
def affixed (name : String) (test : List Char → List Char → Bool) (text : List Char)
    (args : List Value) : Except Trouble Bool := do
  let wrong (v : Value) : Trouble :=
    .wrongType s!"{name} first arg must be str or a tuple of str, not {v.typeName}"
  match args with
  | [] => .error (.wrongType s!"{name}() takes at least 1 argument (0 given)")
  | parts :: bounds =>
      let (inside, _) ← window text bounds
      match parts with
      | .tuple items =>
          return items.any fun v => (v.text?.map fun s => test s.toList inside).getD false
      | v =>
        match v.text? with
        | some s => return test s.toList inside
        | none => .error (wrong v)

/-- The width of a field and the character that fills it. -/
def field (name : String) (args : List Value) (named : Arguments) :
    Except Trouble (Nat × Char) := do
  checkCount name 1 2 args named "str"
  let width ← asIndex (args.head?.getD .none)
  match args[1]? with
  | none => return (width.toNat, ' ')
  | some v =>
    match v.text? with
    | some s =>
      match s.toList with
      | [c] => return (width.toNat, c)
      | _ => .error (.wrongType "The fill character must be exactly one character long")
    | none =>
      .error (.wrongType
        s!"The fill character must be a unicode character, not {v.typeName}")

/-- The characters to strip. -/
def stripped (name : String) (args : List Value) (named : Arguments) :
    Except Trouble (Char → Bool) := do
  checkCount name 0 1 args named "str"
  match args.head?.getD .none with
  | .none => return isBlank
  | v =>
    match v.text? with
    | some s => return fun c => s.toList.contains c
    | none => .error (.wrongType s!"{name} arg must be None or str")

/-- The separator and the greatest number of cuts. -/
def cuts (name : String) (args : List Value) (named : Arguments) (length : Nat) :
    Except Trouble (Option (List Char) × Nat) := do
  if 2 < args.length then
    .error (.wrongType s!"{name}() takes at most 2 arguments ({args.length} given)")
  for (key, _) in named do
    if key ≠ "sep" ∧ key ≠ "maxsplit" then
      .error (.wrongType s!"{quote key} is an invalid keyword argument for {name}()")
  let separator := (args.head?.or (named.lookup "sep")).getD .none
  let count ← match args[1]?.or (named.lookup "maxsplit") with
    | some v => asIndex v
    | none => .ok (-1)
  let count := if count < 0 then length else count.toNat
  match separator, separator.text? with
  | .none, _ => return (none, count)
  | _, some "" => .error (.wrongValue "empty separator")
  | _, some s => return (some s.toList, count)
  | v, none => .error (.wrongType s!"must be str or None, not {v.typeName}")

def pieces (parts : List (List Char)) : Value :=
  .list (parts.map fun part => .text (String.ofList part))

/-- Pieces cut from the right. -/
def fromRight (cut : List Char → List (List Char)) (text : List Char) : List (List Char) :=
  ((cut text.reverse).map List.reverse).reverse

def joined (separator : List Char) (items : List Value) : Except Trouble Value := do
  let texts ← items.zipIdx.mapM fun (v, i) =>
    match v.text? with
    | some s => .ok s
    | none => .error (.wrongType
        s!"sequence item {i}: expected str instance, {v.typeName} found")
  return .text ((String.ofList separator).intercalate texts)

/-- Every character has the property, and there is one. -/
def allOf (p : Char → Bool) (text : List Char) : Value := .bool (!text.isEmpty && text.all p)

def isLetter (c : Char) : Bool := isIdentifierStart c && c ≠ '_'

def isAlphanumeric (c : Char) : Bool := isNamePart c && c ≠ '_'

/-- There are cased characters, and all of them are in one case. -/
def inCase (text changed : List Char) : Value :=
  .bool (text.any (fun c => upperChar c ≠ [c] || lowerChar c ≠ [c]) && text = changed)

def swapCase (text : List Char) : List Char :=
  text.flatMap fun c => if upperChar c ≠ [c] then upperChar c else lowerChar c

/-- Zeros behind the sign. -/
def fillZeros (width : Nat) : List Char → List Char
  | '-' :: rest => '-' :: alignRight (width - 1) '0' rest
  | '+' :: rest => '+' :: alignRight (width - 1) '0' rest
  | text => alignRight width '0' text

/-- A method that takes no arguments. -/
def plain (name : String) (args : List Value) (named : Arguments) (result : Value) :
    Except Trouble Value := do
  noArguments s!"str.{name}" args named
  return result

/-- Stands for what the methods that are left out come to: those that change their owner, those of
texts that answer bytes or read tables (`encode`, `expandtabs`, `format_map`, `maketrans`,
`translate`), and `format` with fields that say more than a name and a conversion. -/
def unavailable (name : String) : Trouble := .refused s!"{name} is not available"

def onText (name : String) (s : String) (args : List Value) (named : Arguments) :
    Except Trouble Value := do
  let text := s.toList
  let ofChars (cs : List Char) : Value := .text (String.ofList cs)
  match name with
  | "upper" => plain name args named (ofChars (upper text))
  | "lower" | "casefold" => plain name args named (ofChars (lower text))
  | "title" => plain name args named (ofChars (title text))
  | "capitalize" => plain name args named (ofChars (capitalize text))
  | "swapcase" => plain name args named (ofChars (swapCase text))
  | "isdigit" | "isdecimal" | "isnumeric" =>
      plain name args named (allOf (fun c => (digitValue? c).isSome) text)
  | "isalpha" => plain name args named (allOf isLetter text)
  | "isalnum" => plain name args named (allOf isAlphanumeric text)
  | "isspace" => plain name args named (allOf isBlank text)
  | "isascii" => plain name args named (.bool (text.all fun c => c.toNat < 0x80))
  | "isprintable" => plain name args named (.bool (text.all isPrintable))
  | "isidentifier" => plain name args named (.bool (isIdentifier text))
  | "isupper" => plain name args named (inCase text (upper text))
  | "islower" => plain name args named (inCase text (lower text))
  | "istitle" => plain name args named (inCase text (title text))
  | "strip" => return ofChars (stripBoth (← stripped name args named) text)
  | "lstrip" => return ofChars (stripLeft (← stripped name args named) text)
  | "rstrip" => return ofChars (dropTrailing (← stripped name args named) text)
  | "center" => do
      let (width, fill) ← field name args named
      return ofChars (center width fill text)
  | "ljust" => do
      let (width, fill) ← field name args named
      return ofChars (alignLeft width fill text)
  | "rjust" => do
      let (width, fill) ← field name args named
      return ofChars (alignRight width fill text)
  | "zfill" => return ofChars (fillZeros
      (← asIndex (← soleArgument "str.zfill" args named)).toNat text)
  | "startswith" => return .bool (← affixed name List.isPrefixOf text args)
  | "endswith" => return .bool (← affixed name List.isSuffixOf text args)
  | "find" | "rfind" =>
    match ← search name (name = "rfind") text args with
    | some i => return .int i
    | none => return .int (-1)
  | "index" | "rindex" =>
    match ← search name (name = "rindex") text args with
    | some i => return .int i
    | none => .error (.wrongValue "substring not found")
  | "count" =>
    match args with
    | [] => .error (.wrongType "count() takes at least 1 argument (0 given)")
    | part :: bounds => do
        let part ← needText part
        let (inside, _) ← window text bounds
        return .int (countPart part inside)
  | "replace" => do
      checkCount name 2 3 args named "str"
      let part (i : Nat) : Except Trouble (List Char) :=
        let v := args[i]?.getD .none
        match v.text? with
        | some s => .ok s.toList
        | none => .error (.wrongType
            s!"replace() argument {i + 1} must be str, not {v.typeName}")
      let old ← part 0
      let new ← part 1
      let count ← match args[2]? with
        | some v => asIndex v
        | none => .ok (-1)
      let count := if count < 0 then text.length + 1 else count.toNat
      return ofChars (replacePart old new count text)
  | "split" => do
      let (separator?, count) ← cuts name args named (text.length + 1)
      match separator? with
      | some separator => return pieces (splitAtPart separator count text)
      | none => return pieces (splitBlanks count text)
  | "rsplit" => do
      let (separator?, count) ← cuts name args named (text.length + 1)
      match separator? with
      | some separator => return pieces (fromRight (splitAtPart separator.reverse count) text)
      | none => return pieces (fromRight (splitBlanks count) text)
  | "splitlines" => return pieces (displayLines text)
  | "partition" => do
      let part ← needText (← soleArgument "str.partition" args named)
      if part.isEmpty then .error (.wrongValue "empty separator")
      match breakAt? part text with
      | some (before, after) => return .tuple [ofChars before, ofChars part, ofChars after]
      | none => return .tuple [ofChars text, ofChars [], ofChars []]
  | "rpartition" => do
      let part ← needText (← soleArgument "str.rpartition" args named)
      if part.isEmpty then .error (.wrongValue "empty separator")
      match breakAtLast? part text with
      | some (before, after) => return .tuple [ofChars before, ofChars part, ofChars after]
      | none => return .tuple [ofChars [], ofChars [], ofChars text]
  | "removeprefix" | "removesuffix" => do
      let v ← soleArgument s!"str.{name}" args named
      match v.text? with
      | none => .error (.wrongType s!"{name}() argument must be str, not {v.typeName}")
      | some part =>
        let part := part.toList
        if name = "removeprefix" then
          return ofChars (if part.isPrefixOf text then text.drop part.length else text)
        else
          return ofChars (if part.isSuffixOf text then text.take (text.length - part.length)
            else text)
  | _ => .error (unavailable name)

/-- The name of a field of a template text, and whether its argument is shown as a literal.  Fields
that say more (a member, an item, a width, another conversion) are left out. -/
def fieldParts? (field : List Char) : Option (List Char × Bool) :=
  let name := field.takeWhile (· ≠ '!')
  if name.any ['.', '[', ':', '\x7b'].contains then none
  else
    match field.drop name.length with
    | [] | ['!', 's'] => some (name, false)
    | ['!', 'r'] => some (name, true)
    | _ => none

/-- The argument that a field names, and the number of the next unnamed field. -/
def fieldValue (args : List Value) (named : Arguments) (next : Nat) (name : List Char) :
    Except Trouble (Value × Nat) :=
  let at? (i : Nat) : Except Trouble Value :=
    match args[i]? with
    | some v => .ok v
    | none => .error (.fault .noIndex
        s!"Replacement index {i} out of range for positional args tuple")
  if name.isEmpty then (at? next).map fun v => (v, next + 1)
  else if name.all Char.isDigit then
    (at? (name.foldl (fun n c => n * 10 + (c.toNat - '0'.toNat)) 0)).map fun v => (v, next)
  else
    match named.lookup (String.ofList name) with
    | some v => .ok (v, next)
    | none => .error (.fault .noKey (quote (String.ofList name)))

/-- Fields in braces replaced by arguments; the first argument bounds their number. -/
def fillFields (args : List Value) (named : Arguments) :
    Nat → Nat → List Char → Except Trouble String
  | 0, _, _ => .ok ""
  | _ + 1, _, [] => .ok ""
  | fuel + 1, next, '\x7b' :: '\x7b' :: rest =>
      return "\x7b" ++ (← fillFields args named fuel next rest)
  | fuel + 1, next, '\x7d' :: '\x7d' :: rest =>
      return "\x7d" ++ (← fillFields args named fuel next rest)
  | _ + 1, _, ['\x7b'] =>
      .error (.wrongValue "Single '\x7b' encountered in format string")
  | _ + 1, _, '\x7d' :: _ =>
      .error (.wrongValue "Single '\x7d' encountered in format string")
  | fuel + 1, next, '\x7b' :: rest => do
      let inside := rest.takeWhile (· ≠ '\x7d')
      match rest.drop inside.length with
      | [] => .error (.wrongValue "expected '\x7d' before end of string")
      | _ :: after =>
        match fieldParts? inside with
        | none => .error (unavailable "format")
        | some (name, literally) =>
          let (v, next) ← fieldValue args named next name
          let shown ← if literally then .ok v.literal else v.display
          return shown ++ (← fillFields args named fuel next after)
  | fuel + 1, next, c :: rest =>
      return String.singleton c ++ (← fillFields args named fuel next rest)

/-! ## Methods of collections -/

def onDict (name : String) (entries : List (Value × Value)) (args : List Value)
    (named : Arguments) : Except Trouble Value :=
  match name with
  | "items" => do
      noArguments "dict.items" args named
      return .view .items entries
  | "keys" => do
      noArguments "dict.keys" args named
      return .view .keys entries
  | "values" => do
      noArguments "dict.values" args named
      return .view .values entries
  | "copy" => do
      noArguments "dict.copy" args named
      return .dict entries
  | "get" => do
      checkCount name 1 2 args named "dict"
      let key := args.head?.getD .none
      match key.keyFault? with
      | some fault => .error fault
      | none => return (Value.findKey? key entries).getD (args[1]?.getD .none)
  | _ => .error (unavailable name)

/-- The place of the first element that is equal to a value. -/
def placeOfValue (v : Value) : List Value → Nat → Except Trouble (Option Nat)
  | [], _ => .ok none
  | item :: rest, i => do
      if ← Value.equal item v then return some i else placeOfValue v rest (i + 1)

def onItems (name : String) (items : List Value) (tuple : Bool) (args : List Value)
    (named : Arguments) : Except Trouble Value :=
  match name with
  | "index" => do
      checkCount name 1 3 args named (if tuple then "tuple" else "list")
      let v := args.head?.getD .none
      match ← placeOfValue v items 0 with
      | some i => return .int i
      | none =>
        .error (.wrongValue
          (if tuple then "tuple.index(x): x not in tuple" else s!"{v.literal} is not in list"))
  | "count" => do
      let v ← soleArgument (if tuple then "tuple.count" else "list.count") args named
      let found ← items.filterM fun item => Value.equal item v
      return .int found.length
  | "copy" => do
      noArguments "list.copy" args named
      return .list items
  | _ => .error (unavailable name)

/-- The result of a method, unless it is left out. -/
def described (name : String) (result : Except Trouble Value) : Run Value :=
  match result with
  | .ok v => pure v
  | .error trouble => if trouble = unavailable name then Run.undescribed name else throw trouble

/-- The result of a method; that of a method of markup is markup. -/
def call (object : Value) (name : String) (args : List Value) (named : Arguments) :
    Run Value := do
  match object, name with
  | .text s, "join" | .markup s, "join" =>
      let v ← soleArgument "str.join" args named
      let items ← match v, Run.elements? v with
        | .undefined why true, _ => Run.stop (.missing why)
        | .stream _, _ => Run.elements v
        | _, some items => pure items
        | _, none => Run.wrongType "can only join an iterable"
      joined s.toList items
  | .text s, "format" =>
      described name (.text <$> fillFields args named (s.length + 1) 0 s.toList)
  | .text s, _ => described name (onText name s args named)
  | .markup _, "format" => Run.undescribed name
  | .markup s, _ =>
      match ← described name (onText name s args named) with
      | .text t => pure (.markup t)
      | v => pure v
  | .dict entries, _ => described name (onDict name entries args named)
  | .list items, _ => described name (onItems name items false args named)
  | .tuple items, _ => described name (onItems name items true args named)
  | .range a b c, _ => described name (onItems name (Value.rangeItems a b c) true args named)
  | v, _ => Run.wrongType s!"'{v.typeName}' object is not callable"

end Method

end Scaffold.Template
