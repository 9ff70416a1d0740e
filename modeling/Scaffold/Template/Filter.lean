import Scaffold.Template.Member
import Scaffold.Template.Test
import Scaffold.Naming
import Scaffold.Number.Reading

/-!
# Filters

Functions that a template applies to a value.  Filters over the elements of a value give a
stream: what is wrong with an element shows when the stream comes to it.
-/

namespace Scaffold.Template

open Text

namespace Filter

/-! ## Keys of elements -/

/-- The steps of a path to a part of an element: names between points, or one index. -/
def pathOf (attribute? : Option Value) : List Value :=
  match attribute? with
  | none => []
  | some v =>
    match v.text? with
    | some s => (s.toList.splitOn '.').map fun part =>
        if !part.isEmpty && part.all Char.isDigit then
          .int (part.foldl (fun n c => n * 10 + (c.toNat - '0'.toNat)) 0)
        else .text (String.ofList part)
    | none => [v]

def follow (path : List Value) (v : Value) : Run Value := path.foldlM Run.item v

/-- Texts in lower case, so that case does not count. -/
def foldCase : Value → Value
  | .text s => .text (lowerString s)
  | .markup s => .markup (lowerString s)
  | v => v

def keyOf (path : List Value) (caseCounts : Bool) (v : Value) : Run Value := do
  let key ← follow path v
  pure (if caseCounts then key else foldCase key)

/-! ## Sorting -/

/-- An element with its key. -/
abbrev Keyed := Value × Value

abbrev Less := Value → Value → Except Trouble Bool

/-- The place of a key among sorted elements, behind its equals, found by halving. -/
def placeIn (less : Less) (key : Value) (sorted : Array Keyed) :
    Nat → Nat → Nat → Except Trouble Nat
  | 0, low, _ => .ok low
  | fuel + 1, low, high =>
      if high ≤ low then .ok low
      else do
        let middle := low + (high - low) / 2
        let there := (sorted[middle]?.map (·.1)).getD .none
        if ← less key there then placeIn less key sorted fuel low middle
        else placeIn less key sorted fuel (middle + 1) high

def insertAll (less : Less) (sorted : Array Keyed) : List Keyed → Except Trouble (Array Keyed)
  | [] => .ok sorted
  | e :: rest => do
      let place ← placeIn less e.1 sorted (sorted.size + 1) 0 sorted.size
      insertAll less (sorted.toList.insertIdx place e).toArray rest

/-- The elements at the beginning that are in falling or else in rising order, and the others.
`last` is the key of the element before. -/
def risingFrom (less : Less) (falling : Bool) (last : Value) :
    List Keyed → Except Trouble (List Keyed × List Keyed)
  | [] => .ok ([], [])
  | e :: rest => do
      if (← less e.1 last) = falling then
        let (run, others) ← risingFrom less falling e.1 rest
        return (e :: run, others)
      else return ([], e :: rest)

/-- Elements in the order of their keys; elements with equal keys keep their order. -/
def sortKeyed (less : Less) (items : List Keyed) : Except Trouble (List Keyed) :=
  match items with
  | [] => .ok []
  | [e] => .ok [e]
  | first :: second :: rest => do
      let falling ← less second.1 first.1
      let (run, others) ← risingFrom less falling second.1 rest
      let run := first :: second :: run
      return (← insertAll less (if falling then run.reverse else run).toArray others).toList

def sortWith (less : Less) (backward : Bool) (items : List Keyed) :
    Except Trouble (List Value) := do
  if backward then return ((← sortKeyed less items.reverse).map (·.2)).reverse
  else return (← sortKeyed less items).map (·.2)

def lessThan : Less := Value.ordered .less

/-! ## Shapes of filters -/

/-- The value as text. -/
def asText (v : Value) : Run (List Char) := return (← Run.display v).toList

/-- A function of text; that of markup is markup. -/
def onText (f : List Char → List Char) (v : Value) : Run Value := do
  let text := String.ofList (f (← asText v))
  match v with
  | .markup _ => pure (.markup text)
  | _ => pure (.text text)

/-- The parameters of a filter that is named for what it does. -/
def plain (function : String) (required optional : List String) : Parameters :=
  ⟨function, 0, required, optional⟩

/-- The parameters of a filter that also has one argument from its surroundings. -/
def situated (function : String) (required optional : List String) : Parameters :=
  ⟨function, 1, required, optional⟩

/-- Results of a function for elements, up to the first trouble. -/
def collect (f : Value → Run (List Value)) : List Value → Run (List Value × Option Trouble)
  | [] => pure ([], none)
  | v :: rest => do
      let found ← tryCatch (Except.ok <$> f v) fun trouble => pure (.error trouble)
      match found with
      | .error trouble => pure ([], some trouble)
      | .ok results =>
        let (more, trouble?) ← collect f rest
        pure (results ++ more, trouble?)

/-- A stream of what a function gives for the elements of a value.  Nothing is asked of an empty
value. -/
def streamed (title : String) (source : Value) (prepare : Run (Value → Run (List Value))) :
    Run Value := do
  let made ← tryCatch
    (do
      if ← source.truth then
        let f ← prepare
        let items ← Run.elements source
        Except.ok <$> collect f items
      else pure (.ok ([], none)))
    fun trouble => pure (Except.error trouble)
  match made with
  | .ok (items, trouble?) => Run.newStream title items trouble?
  | .error trouble => Run.newStream title [] (some trouble)

/-! ## Numbers -/

def toInt (v : Value) (default : Value) (base : Int) : Run Value := do
  let viaFloat (x? : Option Float) : Value :=
    match x?.bind Number.truncate? with
    | some n => .int n
    | none => default
  match v, v.text?, v.int? with
  | .undefined why _, _, _ => Run.stop (.missing why)
  | _, some s, _ =>
      let whole? :=
        if base = 0 ∨ (2 ≤ base ∧ base ≤ 36) then Number.readInt? base.toNat s.toList else none
      match whole? with
      | some n => pure (.int n)
      | none => pure (viaFloat (Number.readFloat? s.toList))
  | _, _, some n => pure (.int n)
  | .float x, _, _ =>
      if x.isInf then
        Run.stop (.fault .overflow "cannot convert float infinity to integer")
      else pure (viaFloat (some x))
  | _, _, _ => pure default

def toFloat (v : Value) (default : Value) : Run Value := do
  match v, v.text? with
  | .undefined why _, _ => Run.stop (.missing why)
  | _, some s =>
    match Number.readFloat? s.toList with
    | some x => pure (.float x)
    | none => pure default
  | _, none =>
    match v.toFloat with
    | .ok x => pure (.float x)
    | .error (.fault .overflow message) => Run.stop (.fault .overflow message)
    | .error _ => pure default

def power (n : Int) : Value :=
  if 0 ≤ n then .int (Nat.pow 10 n.toNat) else .float (Number.ofDecimal 1 n)

/-- Rounded to decimal places: to the nearest, up or down. -/
def round (v : Value) (precision : Value) (method : String) : Run Value := do
  if !(["common", "ceil", "floor"].contains method) then
    Run.stop (.refused "method must be common, ceil or floor")
  let places ← asIndex precision
  match v, v.int? with
  | .undefined why _, _ => Run.stop (.missing why)
  | _, some n =>
      if method = "common" then
        if 0 ≤ places then pure (.int n)
        else
          let unit := Nat.pow 10 (-places).toNat
          let size := Number.roundHalfEven n.natAbs unit * unit
          pure (.int (if n < 0 then -(size : Int) else size))
      else Value.operate .div (.int (n * (Nat.pow 10 places.toNat : Nat))) (power places)
  | .float x, none =>
      if method = "common" then pure (.float (Number.roundPlaces x places))
      else
        let scaled ← (← Run.lift (Value.operate .mul (.float x) (power places))).toFloat
        let whole := Number.truncate? (if method = "ceil" then scaled.ceil else scaled.floor)
        Value.operate .div (.int (whole.getD 0)) (power places)
  | v, none => Run.wrongType s!"type {v.typeName} doesn't define __round__ method"

def magnitude (v : Value) : Run Value := do
  match v, v.int? with
  | .undefined why _, _ => Run.stop (.missing why)
  | _, some n => pure (.int n.natAbs)
  | .float x, none => pure (.float x.abs)
  | v, none => Run.wrongType s!"bad operand type for abs(): '{v.typeName}'"

/-! ## Sequences -/

def lengthOf (v : Value) : Run Value := do
  match v, Run.length? v with
  | .undefined why true, _ => Run.stop (.missing why)
  | _, some n => pure (.int n)
  | v, none => Run.wrongType s!"object of type '{v.typeName}' has no len()"

def absentItem (message : String) : Value := .undefined (.note message) true

def first (v : Value) : Run Value := do
  match ← Run.takeItem (← Run.streamOf v) with
  | some item => pure item
  | none => pure (absentItem "No first item, sequence was empty.")

/-- The elements from the last to the first. -/
def backward (v : Value) : Run (List Value) := do
  match v with
  | .undefined why true => Run.stop (.missing why)
  | .stream _ => Run.wrongType s!"'{v.typeName}' object is not reversible"
  | v =>
    match Run.elements? v with
    | some items => pure items.reverse
    | none => Run.wrongType s!"'{v.typeName}' object is not reversible"

def last (v : Value) : Run Value := do
  match ← backward v with
  | item :: _ => pure item
  | [] => pure (absentItem "No last item, sequence was empty.")

/-- An element drawn at random. -/
def random (v : Value) : Run Value := do
  match v, Run.length? v with
  | .undefined why _, _ => Run.stop (.missing why)
  | v, none => Run.wrongType s!"object of type '{v.typeName}' has no len()"
  | .dict entries, some n => do
    let place ← Run.draw n
    match Value.findKey? (.int place) entries with
    | some item => pure item
    | none => Run.stop (.fault .noKey s!"{place}")
  | .view part entries, some _ =>
    Run.wrongType s!"'{(Value.view part entries).typeName}' object is not subscriptable"
  | v, some n => do
    let place ← Run.draw n
    return (← element? v (.int place)).getD (absentItem "No random item, sequence was empty.")

/-- What runs through a value from its end to its beginning. -/
def reversedTitle : Value → String
  | .list _ => "list_reverseiterator object"
  | .dict _ | .view .keys _ => "dict_reversekeyiterator object"
  | .view .items _ => "dict_reverseitemiterator object"
  | .view .values _ => "dict_reversevalueiterator object"
  | .range _ _ _ => "range_iterator object"
  | _ => "reversed object"

def reverse (v : Value) : Run Value := do
  match v with
  | .text s => pure (.text (String.ofList s.toList.reverse))
  | .markup s => pure (.markup (String.ofList s.toList.reverse))
  | .undefined why true => Run.stop (.missing why)
  | v => do
    let items ← tryCatch (Run.elements v) fun
      | .fault .wrongType _ => Run.stop (.refused "argument must be iterable")
      | trouble => Run.stop trouble
    match v with
    | .stream _ => pure (.list items.reverse)
    | v => Run.newStream (reversedTitle v) items.reverse none

/-- Joined texts of elements, or of parts of them. -/
def join (a : Arguments) : Run Value := do
  let path := pathOf (a.given? "attribute")
  let separator ← Run.display ((a.find? "d").getD (.text ""))
  let items ← Run.elements (a.value "value")
  let texts ← items.mapM fun v => do Run.display (← follow path v)
  pure (.text (separator.intercalate texts))

def sort (a : Arguments) : Run Value := do
  let caseCounts ← a.holds "case_sensitive"
  let paths := match a.given? "attribute" with
    | none => [[]]
    | some v =>
      match v.text? with
      | some s => (s.toList.splitOn ',').map fun part => pathOf (some (.text (String.ofList part)))
      | none => [[v]]
  let items ← Run.elements (a.value "value")
  let keyed ← items.mapM fun v => do
    return (Value.list (← paths.mapM fun path => keyOf path caseCounts v), v)
  return .list (← sortWith lessThan (← a.holds "reverse") keyed)

def sortEntries (a : Arguments) : Run Value := do
  let byValue ← match (a.find? "by").getD (.text "key") with
    | .text "key" => pure false
    | .text "value" => pure true
    | _ => Run.stop (.refused "You can only sort by either \"key\" or \"value\"")
  let caseCounts ← a.holds "case_sensitive"
  match a.value "value" with
  | .dict entries =>
      let keyed := entries.map fun (k, v) =>
        let key := if byValue then v else k
        (if caseCounts then key else foldCase key, Value.tuple [k, v])
      return .list (← sortWith lessThan (← a.holds "reverse") keyed)
  | .undefined why _ => Run.stop (.missing why)
  | v => Run.stop (.fault .noAttribute s!"'{v.typeName}' object has no attribute 'items'")

def sum (a : Arguments) : Run Value := do
  let path := pathOf (a.given? "attribute")
  let start := (a.find? "start").getD (.int 0)
  let items ← Run.elements (a.value "iterable")
  if start.isText then Run.wrongType "sum() can't sum strings [use ''.join(seq) instead]"
  items.foldlM (fun total v => do Run.lift (Value.operate .add total (← follow path v))) start

/-- Elements whose keys did not occur before; `seen` holds the keys that did. -/
def distinct (path : List Value) (caseCounts : Bool) :
    List Value → List Value → Run (List Value × Option Trouble)
  | _, [] => pure ([], none)
  | seen, v :: rest => do
      let found ← tryCatch (Except.ok <$> keyOf path caseCounts v) fun t => pure (.error t)
      match found with
      | .error trouble => pure ([], some trouble)
      | .ok key =>
        match key.keyFault? with
        | some trouble => pure ([], some trouble)
        | none =>
          if seen.any (Value.sameKey key) then distinct path caseCounts seen rest
          else
            let (more, trouble?) ← distinct path caseCounts (key :: seen) rest
            pure (v :: more, trouble?)

def unique (a : Arguments) : Run Value := do
  let title := "generator object sync_do_unique"
  let caseCounts ← a.holds "case_sensitive"
  let made ← tryCatch (Except.ok <$> Run.elements (a.value "value")) fun t => pure (.error t)
  match made with
  | .error trouble => Run.newStream title [] (some trouble)
  | .ok items =>
      let (kept, trouble?) ← distinct (pathOf (a.given? "attribute")) caseCounts [] items
      Run.newStream title kept trouble?

/-- The least or the greatest element. -/
def extreme (sign : Comparison) (a : Arguments) : Run Value := do
  let caseCounts ← a.holds "case_sensitive"
  let path := pathOf (a.given? "attribute")
  match ← Run.elements (a.value "value") with
  | [] => pure (absentItem "No aggregated item, sequence was empty.")
  | head :: rest =>
      let (_, found) ← rest.foldlM
        (fun (key, found) v => do
          let key' ← keyOf path caseCounts v
          if ← Value.ordered sign key' key then pure (key', v) else pure (key, found))
        (← keyOf path caseCounts head, head)
      pure found

/-! ## Texts -/

/-- Names in one of the case forms: nothing for what counts as false, else texts only. -/
def recase (form : String → String) (function : String) (args : List Value)
    (named : Arguments) : Run Value := do
  match (args ++ named.map (·.2)).findSome? Value.keyFault? with
  | some fault => Run.stop fault
  | none =>
    let v := (← (plain function ["name"] []).bind args named).value "name"
    if !(← v.truth) then pure (.text "")
    else
      match v.text? with
      | some s => pure (.text (form s))
      | none => Run.wrongType s!"expected string or bytes-like object, got '{v.typeName}'"

def escape (v : Value) : Run Value := do
  match v with
  | .markup s => pure (.markup s)
  | v => return .markup (Value.escapeText (← Run.display v))

def indent (a : Arguments) : Run Value := do
  let v := a.value "s"
  let s ← match v, v.text? with
    | .undefined why _, _ => Run.stop (.missing why)
    | _, some s => pure s
    | v, none =>
      Run.wrongType (s!"unsupported operand type(s) for +=: '{v.typeName}' and 'str'")
  let width := (a.find? "width").getD (.int 4)
  let indentation ← match width, width.text? with
    | _, some text => pure text
    | width, none =>
      match Value.mul (.text " ") width with
      | .ok (.text text) => pure text
      | .ok _ => pure ""
      | .error trouble => Run.stop trouble
  let laid := indentLines indentation.toList (← a.holds "first") (← a.holds "blank") s.toList
  match v with
  | .markup _ => pure (.markup (String.ofList laid))
  | _ => pure (.text (String.ofList laid))

def replace (a : Arguments) : Run Value := do
  let text ← asText (a.value "s")
  let old ← asText (a.value "old")
  let new ← asText (a.value "new")
  let count ← match a.given? "count" with
    | some v => asIndex v
    | none => pure (-1)
  let count := if count < 0 then text.length + 1 else count.toNat
  pure (.text (String.ofList (replacePart old new count text)))

def trim (a : Arguments) : Run Value := do
  match a.given? "chars" with
  | none => onText strip (a.value "value")
  | some v =>
    match v.text? with
    | some chars => onText (stripBoth fun c => chars.toList.contains c) (a.value "value")
    | none => Run.wrongType "strip arg must be None or str"

/-- The directives of a text filled in with the arguments. -/
def format (args : List Value) (named : Arguments) : Run Value := do
  match args with
  | [] => Run.wrongType "do_format() missing 1 required positional argument: 'value'"
  | text :: values =>
    if !values.isEmpty && !named.isEmpty then
      Run.stop (.refused "can't handle positional and keyword arguments at the same time")
    let template : Value ← match text.text? with
      | some _ => pure text
      | none => do pure (.text (← Run.display text))
    let value : Value :=
      if named.isEmpty then .tuple values
      else .dict (named.map fun (k, v) => (.text k, v))
    Value.operator .mod template value

/-! ## Filters by name -/

/-- Filters that call no other filter.  The filters of `Vocabulary.filters` that have no rule here
(`batch`, `filesizeformat`, `forceescape`, `groupby`, `pprint`, `slice`, `striptags`, `tojson`,
`truncate`, `urlencode`, `urlize`, `wordwrap` and `xmlattr`) are left out: a template that applies
one of them stops there, and what it would come to is not said. -/
def simple (name : String) (args : List Value) (named : Arguments) : Run Value := do
  let given (p : Parameters) (f : Arguments → Run Value) : Run Value := do
    f (← p.bind args named)
  let text (function : String) (f : List Char → List Char) : Run Value :=
    given (plain function ["s"] []) fun a => onText f (a.value "s")
  match name with
  | "upper" => text "do_upper" upper
  | "lower" => text "do_lower" lower
  | "capitalize" => text "do_capitalize" capitalize
  | "title" => do
      let a ← (plain "do_title" ["s"] []).bind args named
      return .text (String.ofList (titleWords (← asText (a.value "s"))))
  | "wordcount" => do
      let a ← (plain "do_wordcount" ["s"] []).bind args named
      return .int (countWords (← asText (a.value "s")))
  | "center" =>
      given (plain "do_center" ["value"] ["width"]) fun a => do
        let width ← asIndex ((a.find? "width").getD (.int 80))
        onText (center width.toNat ' ') (a.value "value")
  | "trim" => given (plain "do_trim" ["value"] ["chars"]) trim
  | "indent" => given (plain "do_indent" ["s"] ["width", "first", "blank"]) indent
  | "replace" => given (situated "do_replace" ["s", "old", "new"] ["count"]) replace
  | "string" => do
      match ← soleNamed "soft_str" with
      | .markup s => pure (.markup s)
      | v => return .text (← Run.display v)
  | "e" | "escape" => do escape (← Run.lift (soleArgument "escape" args named))
  | "safe" =>
      given (plain "do_mark_safe" ["value"] []) fun a => do
        return .markup (← Run.display (a.value "value"))
  | "format" => format args named
  | "default" | "d" =>
      given (plain "do_default" ["value"] ["default_value", "boolean"]) fun a => do
        let v := a.value "value"
        let other := (a.find? "default_value").getD (.text "")
        match v with
        | .undefined _ _ => pure other
        | v =>
          if ← a.holds "boolean" then
            if ← v.truth then pure v else pure other
          else pure v
  | "int" =>
      given (plain "do_int" ["value"] ["default", "base"]) fun a => do
        toInt (a.value "value") ((a.find? "default").getD (.int 0))
          (← asIndex ((a.find? "base").getD (.int 10)))
  | "float" =>
      given (plain "do_float" ["value"] ["default"]) fun a =>
        toFloat (a.value "value") ((a.find? "default").getD (.float 0))
  | "abs" => do magnitude (← Run.lift (soleArgument "abs" args named))
  | "round" =>
      given (plain "do_round" ["value"] ["precision", "method"]) fun a => do
        round (a.value "value") ((a.find? "precision").getD (.int 0))
          (((a.find? "method").getD (.text "common")).text?.getD "")
  | "length" | "count" => do lengthOf (← Run.lift (soleArgument "len" args named))
  | "first" => given (situated "sync_do_first" ["seq"] []) fun a => first (a.value "seq")
  | "last" => given (situated "do_last" ["seq"] []) fun a => last (a.value "seq")
  | "random" => given (situated "do_random" ["seq"] []) fun a => random (a.value "seq")
  | "join" => given (situated "sync_do_join" ["value"] ["d", "attribute"]) join
  | "list" =>
      given (plain "sync_do_list" ["value"] []) fun a => do
        return .list (← Run.elements (a.value "value"))
  | "reverse" => given (plain "do_reverse" ["value"] []) fun a => reverse (a.value "value")
  | "sort" =>
      given (situated "do_sort" ["value"] ["reverse", "case_sensitive", "attribute"]) sort
  | "dictsort" =>
      given (plain "do_dictsort" ["value"] ["case_sensitive", "by", "reverse"]) sortEntries
  | "sum" => given (situated "sync_do_sum" ["iterable"] ["attribute", "start"]) sum
  | "unique" =>
      given (situated "sync_do_unique" ["value"] ["case_sensitive", "attribute"]) unique
  | "min" => given (situated "do_min" ["value"] ["case_sensitive", "attribute"]) (extreme .less)
  | "max" =>
      given (situated "do_max" ["value"] ["case_sensitive", "attribute"]) (extreme .greater)
  | "items" =>
      given (plain "do_items" ["value"] []) fun a => do
        let stream := Run.newStream "generator object do_items"
        match a.value "value" with
        | .dict entries => stream (entries.map fun (k, v) => .tuple [k, v]) none
        | .undefined _ _ => stream [] none
        | _ => stream [] (some (.wrongType "Can only get item pairs from a mapping."))
  | "attr" =>
      given (situated "do_attr" ["obj", "name"] []) fun a => do
        let object := a.value "obj"
        let name ← Run.display (a.value "name")
        return (← Run.member? object name).getD
          (.undefined (.member object.ownerName name) true)
  | "pascal_case" => recase Naming.pascal "to_pascal_case" args named
  | "camel_case" => recase Naming.camel "to_camel_case" args named
  | "snake_case" => recase Naming.snake "to_snake_case" args named
  | name =>
      if Vocabulary.isFilter name then Run.undescribed name
      else Run.stop (.refused s!"No filter named {quote name} found.")
where
  /-- The argument of a function that is named for its only parameter. -/
  soleNamed (function : String) : Run Value := do
    return (← (plain function ["s"] []).bind args named).value "s"

/-- How filters over elements call other filters. -/
abbrev Apply := String → List Value → Arguments → Run Value

/-- What an unknown name of a filter or a test that is given as a value leads to. -/
def unknownName (kind : String) (name : Value) : Trouble :=
  match name with
  | .undefined why _ =>
      .refused (s!"No {kind} named {name.literal}. ({why.message}; did you forget to quote the"
        ++ " callable name?)")
  | name => .refused s!"No {kind} named {name.literal}."

/-- The function of `map`: a part of each element, or another filter. -/
def mapper (apply : Apply) (args : List Value) (named : Arguments) :
    Run (Value → Run (List Value)) := do
  match args, named.lookup "attribute" with
  | [], some part =>
    match List.find? (fun (k, _) => k ≠ "attribute" ∧ k ≠ "default") named with
    | some (k, _) => Run.stop (.refused s!"Unexpected keyword argument {quote k}")
    | none =>
      let default? := Arguments.given? named "default"
      let path := pathOf (match part with
        | .none => none
        | v => some v)
      pure fun v => do
        match ← follow path v, default? with
        | .undefined _ _, some default => pure [default]
        | found, _ => pure [found]
  | [], none => Run.stop (.refused "map requires a filter argument")
  | name :: args, _ =>
    pure fun v => do
      match name.text? with
      | some n =>
        if Vocabulary.isFilter n then return [← apply n (v :: args) named]
        else Run.stop (unknownName "filter" name)
      | none => Run.stop (unknownName "filter" name)

/-- The function of the filters that keep or drop elements by a test, or by their truth. -/
def selector (keep byPart : Bool) (args : List Value) (named : Arguments) :
    Run (Value → Run (List Value)) := do
  let (path, args) ←
    if byPart then
      match args with
      | [] => Run.stop (.refused "Missing parameter for attribute name")
      | part :: args => pure (pathOf (some part), args)
    else pure ([], args)
  pure fun v => do
    let part ← follow path v
    let holds ← match args with
      | [] => Run.lift part.truth
      | name :: args =>
        match name.text? with
        | some n =>
          if Vocabulary.isTest n then Test.answer n (part :: args) named
          else Run.stop (unknownName "test" name)
        | none => Run.stop (unknownName "test" name)
    pure (if holds = keep then [v] else [])

/-- The element filters take the value and hand everything else on. -/
def overElements (function : String) (args : List Value)
    (prepare : List Value → Run (Value → Run (List Value))) : Run Value := do
  match args with
  | [] => Run.stop ((situated function ["value"] []).lacking ["value"])
  | source :: args =>
      let maker := if function = "sync_do_map" then function else "select_or_reject"
      streamed s!"generator object {maker}" source (prepare args)

/-- A filter by its name, with the value as the first argument.  The first argument here bounds how
deep filters over elements may be nested. -/
def applyAt : Nat → Apply
  | 0, _, _, _ => Run.stop (.fault .recursion "maximum recursion depth exceeded")
  | depth + 1, name, args, named =>
      match name with
      | "map" => overElements "sync_do_map" args fun args => mapper (applyAt depth) args named
      | "select" =>
          overElements "sync_do_select" args fun args => selector true false args named
      | "reject" =>
          overElements "sync_do_reject" args fun args => selector false false args named
      | "selectattr" =>
          overElements "sync_do_selectattr" args fun args => selector true true args named
      | "rejectattr" =>
          overElements "sync_do_rejectattr" args fun args => selector false true args named
      | name => simple name args named

/-- Filters over elements are nested no deeper than this. -/
def nestingLimit : Nat := 100

def apply : Apply := applyAt nestingLimit

end Filter

end Scaffold.Template
