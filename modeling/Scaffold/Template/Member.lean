import Scaffold.Template.Method

/-!
# Members

What a name after a point, or an index in brackets, selects from a value.
-/

namespace Scaffold.Template

namespace Run

def nameList (names : List String) : Value := .tuple (names.map .text)

/-- The members of a definition that describe it. -/
def closureMember? (c : Closure) : String → Option Value
  | "name" => some (match c.name? with
      | some n => .text n
      | none => .none)
  | "arguments" => some (nameList c.signature.params)
  | "caller" => some (.bool c.usesCaller)
  | "catch_kwargs" => some (.bool c.usesNamed)
  | "catch_varargs" => some (.bool c.usesRest)
  | _ => none

def methodOf (object : Value) (name : String) : Run (Option Value) :=
  return some (.method object name (← take))

/-- Members that values of a type have besides and that are left out. -/
def otherMembers : Value → List String
  | .undefined _ _ =>
      ["_fail_with_undefined_error", "_undefined_exception", "_undefined_hint",
        "_undefined_message", "_undefined_name", "_undefined_obj"]
  | .bool _ | .int _ =>
      ["as_integer_ratio", "bit_count", "bit_length", "conjugate", "denominator", "from_bytes",
        "imag", "numerator", "real", "to_bytes"]
  | .float _ => ["as_integer_ratio", "conjugate", "fromhex", "hex", "imag", "is_integer", "real"]
  | .markup _ => ["escape", "striptags", "unescape"]
  | .view _ _ => ["isdisjoint", "mapping"]
  | .stream _ =>
      ["close", "gi_code", "gi_frame", "gi_running", "gi_suspended", "gi_yieldfrom", "send",
        "throw"]
  | .loop _ =>
      ["_after", "_before", "_current", "_iterable", "_iterator", "_last_changed_value", "_length",
        "_peek_next", "_recurse", "_to_iterator", "_undefined"]
  | .joiner _ => ["sep", "used"]
  | .builtin .range => ["count", "index", "mro", "start", "step", "stop"]
  | .builtin .dict => "mro" :: Method.dictMethods
  | .builtin .cycler => ["current", "mro", "next", "reset"]
  | .builtin .joiner | .builtin .space => ["mro"]
  | .closure _ =>
      ["_argument_count", "_async_invoke", "_default_autoescape", "_environment", "_func",
        "_invoke", "explicit_caller"]
  | .blocks => ["_TemplateReference__context"]
  | .block _ _ => ["_async_call", "_context", "_depth", "_stack", "name", "super"]
  | _ => []

/-- Names that begin and end with two underscores are those of what values are made of. -/
def isInner (name : String) : Bool :=
  "__".toList.isPrefixOf name.toList && "__".toList.isSuffixOf name.toList

/-- A member that is left out, or none. -/
def otherMember? (object : Value) (name : String) : Run (Option Value) :=
  if isInner name || (otherMembers object).contains name then undescribed name else pure none

/-- The member of a value that is no loop. -/
def member? (object : Value) (name : String) : Run (Option Value) := do
  match object with
  | .undefined why _ => do
      let _ ← otherMember? object name
      stop (.missing why)
  | .space thing =>
    match ← cell? thing.cell with
    | some (.space entries) =>
        if ["__class__", "_Namespace__attrs"].contains name then undescribed name
        else pure (Value.findKey? (.text name) entries)
    | _ => pure none
  | .cycler thing =>
    match ← cell? thing.cell, name with
    | some (.cycler items position), "current" => pure items[position]?
    | some (.cycler items _), "items" => pure (some (.tuple items))
    | some (.cycler _ position), "pos" => pure (some (.int position))
    | _, "next" | _, "reset" => methodOf object name
    | _, _ => otherMember? object name
  | .closure c =>
    match closureMember? c name with
    | some v => pure (some v)
    | none => otherMember? object name
  | .blocks =>
      if (← get).blocks.any fun b => b.name = name then return some (.block name (← take))
      else otherMember? object name
  | .range a b c =>
    match name with
    | "start" => pure (some (.int a))
    | "stop" => pure (some (.int b))
    | "step" => pure (some (.int c))
    | _ =>
        if Method.tupleMethods.contains name then methodOf object name
        else otherMember? object name
  | object =>
      if (Method.namesOf object).contains name then methodOf object name
      else otherMember? object name

/-- The element that an index selects, else the member of that name. -/
def item (object index : Value) : Run Value := do
  match ← element? object index with
  | some v => pure v
  | none =>
    match index.text? with
    | some name => return (← member? object name).getD (missingElement object index)
    | none => pure (missingElement object index)

/-- The member of a name, else the element with that key. -/
def member (object : Value) (name : String) : Run Value := do
  match ← member? object name with
  | some v => pure v
  | none =>
    match ← element? object (.text name) with
    | some v => pure v
    | none => pure (.undefined (.member object.ownerName name) true)

end Run

end Scaffold.Template
