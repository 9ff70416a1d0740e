import Scaffold.Template.Filter
import Scaffold.Template.Lorem

/-!
# Evaluation

What expressions give and what statements do.  Both follow the structure of the program; whatever
leads back to a body (a call of a definition, a recursive loop, the condition of a loop, a block by
its name) goes through `Calls`, which bounds how deep such calls may be nested.
-/

namespace Scaffold.Template

open Text

structure Calls where
  closure : Closure → List Value → Arguments → Run Value
  holds : Guard → Value → Run Bool
  again : Recursion → Nat → Value → Run Value
  block : String → Run Value

/-! ## Loops as values -/

/-- The next item that passes the condition of the loop; `n` bounds the items looked at. -/
def fetchFrom (calls : Calls) (state : LoopState) : Nat → Run (Option Value)
  | 0 => pure none
  | n + 1 => do
      match ← Run.takeItem state.stream, state.guard? with
      | none, _ => pure none
      | some v, none => pure (some v)
      | some v, some guard =>
        if ← calls.holds guard v then pure (some v) else fetchFrom calls state n

/-- How many items of a stream are left, at most. -/
def remaining (stream : Nat) : Run Nat := do
  match ← Run.cell? stream with
  | some (.stream items _) => pure (items.length + 1)
  | _ => pure 0

def fetch (calls : Calls) (state : LoopState) : Run (Option Value) := do
  fetchFrom calls state (← remaining state.stream)

def loopState? (cell : Nat) : Run (Option LoopState) := do
  match ← Run.cell? cell with
  | some (.loop state) => pure (some state)
  | _ => pure none

/-- The item after the current one. -/
def peekItem (calls : Calls) (cell : Nat) (state : LoopState) : Run (Option Value) := do
  match state.ahead? with
  | some v => pure (some v)
  | none =>
      let ahead? ← fetch calls state
      Run.setCell cell (.loop { state with ahead? })
      pure ahead?

/-- All items that are left are fetched, and put back. -/
def countItems (calls : Calls) (state : LoopState) : Nat → Run (List Value)
  | 0 => pure []
  | n + 1 => do
      match ← fetch calls state with
      | none => pure []
      | some v => return v :: (← countItems calls state n)

/-- The number of items of a loop. -/
def loopLength (calls : Calls) (cell : Nat) (state : LoopState) : Run Nat := do
  match state.length? with
  | some n => pure n
  | none =>
      let known? := if state.guard?.isSome then none else Run.length? state.source
      match known? with
      | some n =>
          Run.setCell cell (.loop { state with length? := some n })
          pure n
      | none =>
          let items ← countItems calls state (← remaining state.stream)
          let stream ← Run.newCell (.stream items none)
          let n := items.length + state.index + (if state.ahead?.isSome then 1 else 0)
          Run.setCell cell (.loop { state with stream, guard? := none, length? := some n })
          pure n

/-- The special members of the loop variable. -/
def loopMember? (calls : Calls) (thing : Thing) (name : String) : Run (Option Value) := do
  let cell := thing.cell
  match ← loopState? cell with
  | none => pure none
  | some state =>
    let int (n : Int) : Run (Option Value) := pure (some (.int n))
    match name with
    | "index" => int state.index
    | "index0" => int (state.index - 1)
    | "first" => pure (some (.bool (state.index = 1)))
    | "last" => return some (.bool (← peekItem calls cell state).isNone)
    | "length" => do int (← loopLength calls cell state)
    | "revindex" => do int ((← loopLength calls cell state) - state.index + 1)
    | "revindex0" => do int ((← loopLength calls cell state) - state.index)
    | "depth" => int (state.depth + 1)
    | "depth0" => int state.depth
    | "previtem" =>
        let missing : Value := .undefined (.note "there is no previous item") true
        pure (some (state.before?.getD missing))
    | "nextitem" =>
        let missing : Value := .undefined (.note "there is no next item") true
        return some ((← peekItem calls cell state).getD missing)
    | "cycle" | "changed" => Run.methodOf (.loop thing) name
    | _ => Run.otherMember? (.loop thing) name

def memberOf (calls : Calls) (object : Value) (name : String) : Run Value := do
  match object with
  | .loop thing =>
      let missing : Value := .undefined (.member object.ownerName name) true
      return (← loopMember? calls thing name).getD missing
  | object => Run.member object name

def itemOf (calls : Calls) (object index : Value) : Run Value := do
  match object, index.text? with
  | .loop _, some name => memberOf calls object name
  | object, _ => Run.item object index

/-! ## Calls -/

/-- The pairs of a list of pairs, as entries. -/
def pairsOf (items : List Value) : Run (List (Value × Value)) := do
  let mut entries := []
  for (item, i) in items.zipIdx do
    match Run.elements? item with
    | some [k, v] =>
      match k.keyFault? with
      | some fault => Run.stop fault
      | none => entries := Value.putEntry k v entries
    | some parts =>
      Run.stop (.wrongValue (s!"dictionary update sequence element #{i} has length"
        ++ s!" {parts.length}; 2 is required"))
    | none =>
      Run.wrongType s!"cannot convert dictionary update sequence element #{i} to a sequence"
  pure entries

/-- The entries that a new dictionary or name space begins with. -/
def initialEntries (args : List Value) (named : Arguments) : Run (List (Value × Value)) := do
  let entries ← match args with
    | [] => pure []
    | [.dict entries] => pure entries
    | [v] => do pairsOf (← Run.elements v)
    | args => Run.wrongType s!"dict expected at most 1 argument, got {args.length}"
  pure (named.foldl (fun entries (k, v) => Value.putEntry (.text k) v entries) entries)

def callBuiltin (b : Builtin) (args : List Value) (named : Arguments) : Run Value := do
  match b with
  | .range => do
      if !named.isEmpty then Run.wrongType "range() takes no keyword arguments"
      match args with
      | [] => Run.wrongType "range expected at least 1 argument, got 0"
      | [stop] => return .range 0 (← asIndex stop) 1
      | [start, stop] => return .range (← asIndex start) (← asIndex stop) 1
      | [start, stop, step] => do
          let start ← asIndex start
          let stop ← asIndex stop
          let step ← asIndex step
          if step = 0 then Run.stop (.wrongValue "range() arg 3 must not be zero")
          pure (.range start stop step)
      | args => Run.wrongType s!"range expected at most 3 arguments, got {args.length}"
  | .dict => return .dict (← initialEntries args named)
  | .space => return .space (← Run.newThing "Namespace" (.space (← initialEntries args named)))
  | .cycler => do
      if args.isEmpty then Run.stop (.fault .misuse "at least one item has to be provided")
      return .cycler (← Run.newThing "jinja2.utils.Cycler object" (.cycler args 0))
  | .joiner =>
      let separator := (args.head?.or (named.lookup "sep")).getD (.text ", ")
      return .joiner (← Run.newThing "jinja2.utils.Joiner object" (.joiner separator false))
  | .lorem _ => Lorem.generate args named

/-- The methods of cells. -/
def callCell (object : Value) (name : String) (args : List Value) : Run (Option Value) := do
  match object, name with
  | .loop thing, "cycle" =>
    match ← loopState? thing.cell with
    | some state =>
        if args.isEmpty then Run.wrongType "no items for cycling given"
        pure args[(state.index - 1) % args.length]?
    | none => pure none
  | .loop thing, "changed" =>
    match ← loopState? thing.cell with
    | some state => do
        let same ← match state.changed? with
          | some before => Run.lift (Value.equal (.tuple before) (.tuple args))
          | none => pure false
        if same then pure (some (.bool false))
        else do
          Run.setCell thing.cell (.loop { state with changed? := some args })
          pure (some (.bool true))
    | none => pure none
  | .cycler thing, "next" =>
    match ← Run.cell? thing.cell with
    | some (.cycler items position) => do
        Run.setCell thing.cell (.cycler items ((position + 1) % items.length))
        pure items[position]?
    | _ => pure none
  | .cycler thing, "reset" =>
    match ← Run.cell? thing.cell with
    | some (.cycler items _) => do
        Run.setCell thing.cell (.cycler items 0)
        pure (some .none)
    | _ => pure none
  | _, _ => pure none

def callLoop (calls : Calls) (cell : Nat) (args : List Value) (named : Arguments) :
    Run Value := do
  let a ← (Parameters.mk "LoopContext.__call__" 1 ["iterable"] []).bind args named
  match ← loopState? cell with
  | some state =>
    match state.recursion? with
    | some recursion => calls.again recursion (state.depth + 1) (a.value "iterable")
    | none =>
      Run.wrongType "The loop must have the 'recursive' marker to be called recursively."
  | none => pure .none

def callValue (calls : Calls) (callee : Value) (args : List Value) (named : Arguments) :
    Run Value := do
  match callee with
  | .undefined why _ => Run.stop (.missing why)
  | .closure c => calls.closure c args named
  | .builtin b => callBuiltin b args named
  | .method object name _ =>
    match ← callCell object name args with
    | some v => pure v
    | none => Method.call object name args named
  | .loop thing => callLoop calls thing.cell args named
  | .joiner thing =>
    match ← Run.cell? thing.cell with
    | some (.joiner separator false) => do
        Run.setCell thing.cell (.joiner separator true)
        pure (.text "")
    | some (.joiner separator true) => pure separator
    | _ => pure .none
  | .block name _ => calls.block name
  | v => Run.wrongType s!"'{v.typeName}' object is not callable"

/-! ## Expressions -/

def Literal.value : Literal → Value
  | .none => .none
  | .bool b => .bool b
  | .int n => .int n
  | .float x => .float x
  | .text s => .text s

/-- The named arguments that a dictionary hands over. -/
def namedOf (v : Value) : Run Arguments := do
  match v with
  | .dict entries =>
    entries.mapM fun (k, v) =>
      match k.text? with
      | some s => pure (s, v)
      | none => Run.wrongType "keywords must be strings"
  | .undefined why _ => Run.stop (.missing why)
  | v => Run.wrongType (s!"jinja2.runtime.Context.call() argument after ** must be a mapping,"
      ++ s!" not {v.typeName}")

/-- The values of arguments, sorted by how they are handed over. -/
def sortArguments : List ArgKind → List Value → Run (List Value × Arguments)
  | kind :: kinds, v :: values => do
      match kind with
      | .positional =>
          let (args, named) ← sortArguments kinds values
          pure (v :: args, named)
      | .named key =>
          let (args, named) ← sortArguments kinds values
          -- of two arguments with one name the last one counts
          pure (args, if kinds.contains (.named key) then named else (key, v) :: named)
      | .spread =>
          let items ← Run.elements v
          let (args, named) ← sortArguments kinds values
          pure (items ++ args, named)
      | .spreadNamed =>
          let more ← namedOf v
          let (args, named) ← sortArguments kinds values
          pure (args, named ++ more)
  | _, _ => pure ([], [])

def dictOf (keys values : List Value) : Run Value := do
  let entries ← (keys.zip values).foldlM
    (fun entries (k, v) =>
      match k.keyFault? with
      | some fault => Run.stop fault
      | none => pure (Value.putEntry k v entries)) []
  pure (.dict entries)

mutual
def eval (calls : Calls) (scope : Scope) : Expr → Run Value
  | .literal value => pure value.value
  | .name n => Run.lookupName scope n
  | .tuple items => return .tuple (← evalAll calls scope items)
  | .list items => return .list (← evalAll calls scope items)
  | .dict keys values => do
      let keys ← evalAll calls scope keys
      dictOf keys (← evalAll calls scope values)
  | .negate e => do Run.lift (← eval calls scope e).negate
  | .affirm e => do Run.lift (← eval calls scope e).affirm
  | .not e => do return .bool !(← (← eval calls scope e).truth)
  | .binary op left right => do
      let a ← eval calls scope left
      let b ← eval calls scope right
      if Value.isSetDifference op a b then Run.undescribed op.sign
      else Run.lift (Value.operator op a b)
  | .concat items => do
      let texts ← (← evalAll calls scope items).mapM Run.display
      return .text (String.join texts)
  | .both left right => do
      let a ← eval calls scope left
      if ← a.truth then eval calls scope right else pure a
  | .either left right => do
      let a ← eval calls scope left
      if ← a.truth then pure a else eval calls scope right
  | .compare first signs operands => do
      compareChain calls scope (← eval calls scope first) signs operands
  | .only line test chosen => do
      if ← (← eval calls scope test).truth then eval calls scope chosen
      else
        return .undefined (.note (s!"the inline if-expression on line {line} evaluated to false"
          ++ " and no else section was defined.")) false
  | .choose test chosen other => do
      if ← (← eval calls scope test).truth then eval calls scope chosen
      else eval calls scope other
  | .member object name => do memberOf calls (← eval calls scope object) name
  | .item object (.slice start stop step) => do
      let v ← eval calls scope object
      let a ← eval calls scope start
      let b ← eval calls scope stop
      let c ← eval calls scope step
      Run.lift (sliceValue v a b c)
  | .item object index => do
      let v ← eval calls scope object
      itemOf calls v (← eval calls scope index)
  | .slice _ _ _ => pure .none
  | .call callee kinds args => do
      let f ← eval calls scope callee
      let (args, named) ← sortArguments kinds (← evalAll calls scope args)
      callValue calls f args named
  | .filter _ name operand kinds args => do
      let v ← eval calls scope operand
      let (args, named) ← sortArguments kinds (← evalAll calls scope args)
      Filter.apply name (v :: args) named
  | .test _ name operand kinds args => do
      let v ← eval calls scope operand
      let (args, named) ← sortArguments kinds (← evalAll calls scope args)
      return .bool (← Test.answer name (v :: args) named)

def evalAll (calls : Calls) (scope : Scope) : List Expr → Run (List Value)
  | [] => pure []
  | e :: rest => do
      let v ← eval calls scope e
      return v :: (← evalAll calls scope rest)

/-- Each value is compared with the next, up to the first comparison that fails. -/
def compareChain (calls : Calls) (scope : Scope) (left : Value) (signs : List Comparison) :
    List Expr → Run Value
  | [] => pure (.bool true)
  | e :: rest => do
      match signs with
      | [] => pure (.bool true)
      | sign :: signs =>
          let right ← eval calls scope e
          if ← Test.compareBy sign left right then compareChain calls scope right signs rest
          else pure (.bool false)
end

def evalTruth (calls : Calls) (scope : Scope) (e : Expr) : Run Bool := do
  Run.lift (← eval calls scope e).truth

/-! ## Assignment -/

/-- The elements of a value that is assigned to so many targets. -/
def unpack (count : Nat) (v : Value) : Run (List Value) := do
  let items ← match v, Run.elements? v with
    | .stream _, _ => Run.elements v
    | .undefined why true, _ => Run.stop (.missing why)
    | _, some items => pure items
    | v, none => Run.wrongType s!"cannot unpack non-iterable {v.typeName} object"
  if items.length < count then
    Run.stop (.wrongValue
      s!"not enough values to unpack (expected {count}, got {items.length})")
  else if count < items.length then
    Run.stop (.wrongValue s!"too many values to unpack (expected {count})")
  else pure items

/-- The cell of a name space. -/
def spaceOf (scope : Scope) (name : String) : Run Nat := do
  match ← Run.lookupName scope name with
  | .space thing => pure thing.cell
  | _ => Run.stop (.refused "cannot assign attribute on non-namespace object")

mutual
/-- The members that a target names belong to name spaces. -/
def checkSpaces (scope : Scope) : Target → Run Unit
  | .name _ _ => pure ()
  | .field space _ => do
      let _ ← spaceOf scope space
  | .tuple items => checkAllSpaces scope items

def checkAllSpaces (scope : Scope) : List Target → Run Unit
  | [] => pure ()
  | t :: rest => do
      checkSpaces scope t
      checkAllSpaces scope rest
end

mutual
/-- Bind a target in the innermost frame; `top` says that the blocks learn of it. -/
def assign (scope : Scope) (top : Bool) : Target → Value → Run Unit
  | .name _ n, v => do
      Run.bind scope n v
      if top then Run.publish n v
  | .field space key, v => do
      let cell ← spaceOf scope space
      match ← Run.cell? cell with
      | some (.space entries) =>
          Run.setCell cell (.space (Value.putEntry (.text key) v entries))
      | _ => pure ()
  | .tuple items, v => do assignAll scope top items (← unpack items.length v)

def assignAll (scope : Scope) (top : Bool) : List Target → List Value → Run Unit
  | t :: targets, v :: values => do
      assign scope top t v
      assignAll scope top targets values
  | _, _ => pure ()
end

/-! ## Statements -/

/-- Repeat a step as long as it says so, at most `n` times; the number of repetitions. -/
def repeatStep (step : Run Bool) : Nat → Run Nat
  | 0 => pure 0
  | n + 1 => do if ← step then return (← repeatStep step n) + 1 else pure 0

/-- The next item of a loop becomes the current one. -/
def advanceLoop (calls : Calls) (cell : Nat) : Run (Option Value) := do
  match ← loopState? cell with
  | none => pure none
  | some state =>
    let next? ← match state.ahead? with
      | some v => pure (some v)
      | none => fetch calls state
    match next? with
    | none => pure none
    | some v =>
        Run.setCell cell (.loop { state with
          index := state.index + 1
          before? := state.current?
          current? := some v
          ahead? := none })
        pure (some v)

/-- Run a body for each item of a value, each time in a new frame, and another body if there is no
item. -/
def runLoop (calls : Calls) (scope : Scope) (head : LoopHead) (recursion? : Option Recursion)
    (depth : Nat) (source : Value) (body otherwise : Scope → Run Unit) : Run Unit := do
  let stream ← Run.streamOf source
  let guard? := head.test?.map fun test => ⟨head.target, test, scope⟩
  let thing ← Run.newThing "LoopContext" (.loop
    { source, stream, guard?, index := 0, before? := none, current? := none, ahead? := none,
      length? := none, changed? := none, depth, recursion? })
  let step : Run Bool := do
    match ← advanceLoop calls thing.cell with
    | none => pure false
    | some v =>
        let scope := (← Run.newFrame [("loop", .loop thing)]) :: scope
        assign scope false head.target v
        body scope
        pure true
  let count ← repeatStep step (← remaining stream)
  if count = 0 then otherwise ((← Run.newFrame []) :: scope)

/-- The special names that a body uses. -/
def closureOf (name? : Option String) (signature : Signature) (body : List Stmt)
    (scope : Scope) : Closure :=
  let mentions := bodyMentions body
  let uses (name : String) := needs name mentions
  { name?, signature, body, scope
    usesCaller := uses "caller"
    usesNamed := uses "kwargs" && !signature.params.contains "kwargs"
    usesRest := uses "varargs" && !signature.params.contains "varargs" }

def applyFilters (calls : Calls) (scope : Scope) :
    List FilterCall → Value → Run Value
  | [], v => pure v
  | f :: rest, v => do
      let (args, named) ← sortArguments f.kinds (← evalAll calls scope f.args)
      applyFilters calls scope rest (← Filter.apply f.name (v :: args) named)

/-- What is written must be text. -/
def writeText (v : Value) : Run Unit := do
  match v.text? with
  | some s => Run.write s
  | none => Run.wrongType s!"write() argument must be str, not {v.typeName}"

/-- No other template can be read. -/
def refuseLoading (kind : Loading) (source : Value) : Run Unit := do
  let refused : Trouble := .wrongType "no loader for this environment specified"
  let empty (missing : Bool) : Run Unit :=
    if missing then pure ()
    else Run.stop (.refused "Tried to select from an empty list of templates.")
  match kind, source with
  | .including _, .undefined why _ => Run.stop (.missing why)
  | .including missing, .list [] | .including missing, .tuple [] => empty missing
  | _, _ => Run.stop refused

/-- The frame of a block. -/
def blockFrame (name : String) : List (String × Value) :=
  [("self", .blocks),
    ("super", .undefined (.note s!"there is no parent block called {quote name}.") true)]

mutual
def exec (calls : Calls) (scope : Scope) (top : Bool) : Stmt → Run Unit
  | .text content => Run.write content
  | .print e => do Run.write (← Run.display (← eval calls scope e))
  | .branch test body otherwise => do
      if ← evalTruth calls scope test then execAll calls scope top body
      else execAll calls scope top otherwise
  | .loop head body otherwise => do
      let source ← eval calls scope head.source
      let run (recursion? : Option Recursion) : Run Unit :=
        runLoop calls scope head recursion? 0 source
          (fun scope => execAll calls scope false body)
          (fun scope => execAll calls scope false otherwise)
      if head.recursive then
        Run.write (← Run.capture (run (some ⟨head, body, otherwise, scope⟩)))
      else run none
  | .assign target value => do
      checkSpaces scope target
      assign scope top target (← eval calls scope value)
  | .assignBlock target filters body => do
      let inner := (← Run.newFrame []) :: scope
      let text ← Run.capture (execAll calls inner false body)
      assign scope top target (← applyFilters calls inner filters (.text text))
  | .scope targets values body => do
      let inner := (← Run.newFrame []) :: scope
      assignAll inner false targets (← evalAll calls scope values)
      execAll calls inner false body
  | .define _ name signature body => do
      let v : Value := .closure (closureOf (some name) signature body scope)
      Run.bind scope name v
      if top then Run.publish name v
  | .callBlock _ call signature body => do
      let caller : Value := .closure (closureOf none signature body scope)
      match call with
      | .call callee kinds args =>
          let f ← eval calls scope callee
          let (args, named) ← sortArguments kinds (← evalAll calls scope args)
          writeText (← callValue calls f args (named ++ [("caller", caller)]))
      | _ => pure ()
  | .filterBlock filters body => do
      let inner := (← Run.newFrame []) :: scope
      let text ← Run.capture (execAll calls inner false body)
      writeText (← applyFilters calls inner filters (.text text))
  | .block _ name seesLocals required body => do
      if required then Run.stop (.refused s!"Required block {quote name} not found")
      let outer := if seesLocals then scope else []
      execAll calls ((← Run.newFrame (blockFrame name)) :: outer) false body
  | .load kind _ source => do refuseLoading kind (← eval calls scope source)

def execAll (calls : Calls) (scope : Scope) (top : Bool) : List Stmt → Run Unit
  | [] => pure ()
  | s :: rest => do
      exec calls scope top s
      execAll calls scope top rest
end

/-! ## Definitions -/

/-- The parameters of a definition with the arguments that a call gives for them. -/
def matchParameters : List String → List Value → Arguments → List (String × Option Value)
  | [], _, _ => []
  | p :: params, v :: args, named => (p, some v) :: matchParameters params args named
  | p :: params, [], named => (p, named.lookup p) :: matchParameters params [] named

/-- Defaults for parameters without argument, evaluated one after the other. -/
def fillDefaults (calls : Calls) (scope : Scope) : List (String × Option Value × Option Expr) →
    Run Unit
  | [] => pure ()
  | (_, some _, _) :: rest => fillDefaults calls scope rest
  | (name, none, default?) :: rest => do
      let v ← match default? with
        | some e => eval calls scope e
        | none =>
          pure (.undefined (.note s!"parameter {quote name} was not provided") true)
      Run.bind scope name v
      fillDefaults calls scope rest

/-- What is wrong with the arguments that no parameter took. -/
def surplus (c : Closure) (args : List Value) (named : Arguments) : Option Trouble :=
  let name := match c.name? with
    | some n => quote n
    | none => "None"
  let count := c.signature.params.length
  if !c.usesNamed && (named.lookup "caller").isSome then
    some (.wrongType (s!"macro {name} was invoked with two values for the special caller"
      ++ " argument. This is most likely a bug."))
  else
    match c.usesNamed, named, c.usesRest with
    | false, (key, _) :: _, _ =>
        some (.wrongType s!"macro {name} takes no keyword argument {quote key}")
    | _, _, false =>
        if count < args.length then
          some (.wrongType s!"macro {name} takes not more than {count} argument(s)")
        else none
    | _, _, true => none

/-- The text that a definition writes for some arguments. -/
def invoke (calls : Calls) (c : Closure) (args : List Value) (named : Arguments) :
    Run Value := do
  let params := c.signature.params
  let matched := matchParameters params args named
  let taken := params.drop args.length
  let rest := List.filter (fun (k, _) => !taken.contains k) named
  let wantsCaller := c.usesCaller && !params.contains "caller"
  let caller := match rest.lookup "caller" with
    | none | some .none => .undefined (.note "No caller defined") true
    | some v => v
  let rest := if wantsCaller then List.filter (fun (k, _) => k ≠ "caller") rest else rest
  match surplus c args rest with
  | some trouble => Run.stop trouble
  | none =>
    let special : List (String × Value) :=
      (if wantsCaller then [("caller", caller)] else []) ++
      (if c.usesNamed then [("kwargs", .dict (rest.map fun (k, v) => (.text k, v)))] else []) ++
      (if c.usesRest then [("varargs", .tuple (args.drop params.length))] else [])
    let bindings := matched.map fun (p, v?) => (p, v?.getD (.undefined (.name p) true))
    let scope := (← Run.newFrame (bindings ++ special)) :: c.scope
    let undefaulted := params.length - c.signature.defaults.length
    let defaults := List.replicate undefaulted none ++ c.signature.defaults.map some
    fillDefaults calls scope
      ((matched.zip defaults).map fun ((p, v?), default?) => (p, v?, default?))
    return .text (← Run.capture (execAll calls scope false c.body))

/-- The loop run again for other items; its output. -/
def runAgain (calls : Calls) (r : Recursion) (depth : Nat) (source : Value) : Run Value := do
  let text ← Run.capture (runLoop calls r.scope r.head (some r) depth source
    (fun scope => execAll calls scope false r.body)
    (fun scope => execAll calls scope false r.otherwise))
  pure (.text text)

/-- The condition of a loop for one item. -/
def guardHolds (calls : Calls) (guard : Guard) (item : Value) : Run Bool := do
  let scope := (← Run.newFrame []) :: guard.scope
  assign scope false guard.target item
  evalTruth calls scope guard.test

/-- The output of a block. -/
def runBlock (calls : Calls) (name : String) : Run Value := do
  match (← get).blocks.find? fun b => b.name = name with
  | some b =>
      let frame ← Run.newFrame (blockFrame name)
      return .text (← Run.capture (execAll calls [frame] false b.body))
  | none => pure .none

def tooDeep : Trouble := .fault .recursion "maximum recursion depth exceeded"

/-- Calls that may be nested so deep. -/
def callsAt : Nat → Calls
  | 0 =>
      { closure := fun _ _ _ => Run.stop tooDeep
        holds := fun _ _ => Run.stop tooDeep
        again := fun _ _ _ => Run.stop tooDeep
        block := fun _ => Run.stop tooDeep }
  | depth + 1 =>
      { closure := fun c args named => invoke (callsAt depth) c args named
        holds := fun guard item => guardHolds (callsAt depth) guard item
        again := fun r level source => runAgain (callsAt depth) r level source
        block := fun name => runBlock (callsAt depth) name }

/-! ## Whole templates -/

/-- Calls are nested no deeper than this. -/
def callLimit : Nat := 200

/-- Names that every template knows.  One of them stands for something with a place in memory. -/
def globals (address : Nat) : List (String × Value) :=
  [("range", .builtin .range), ("dict", .builtin .dict), ("lipsum", .builtin (.lorem address)),
    ("cycler", .builtin .cycler), ("joiner", .builtin .joiner), ("namespace", .builtin .space)]

/-- What a template wrote, and why it stopped if it did not come to its end. -/
structure Outcome where
  text : String
  trouble? : Option Trouble
  deriving DecidableEq, Repr

def start (program : Program) (data : List (String × Value)) (draws : Draws) : Machine where
  out := ""
  context := data ++ globals (draws 0)
  aliases := Run.aliasesOf (loadsOf program)
  blocks := blocksOf program
  exports := []
  frames := #[[("self", .blocks)]]
  cells := #[]
  draws := draws
  drawn := 1

/-- Run a program with the names of some data and with the numbers that it takes from outside. -/
def Program.run (program : Program) (data : List (String × Value)) (draws : Draws) : Outcome :=
  if (data.lookup "self").isSome then
    ⟨"", some (.wrongType "Template.stream() got multiple values for argument 'self'")⟩
  else
    let (result, machine) := (execAll (callsAt callLimit) [0] true program).run.run
      (start program data draws)
    match result with
    | .ok _ => ⟨machine.out, none⟩
    | .error trouble => ⟨machine.out, some trouble⟩

end Scaffold.Template
