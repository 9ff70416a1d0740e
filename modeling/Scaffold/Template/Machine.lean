import Scaffold.Template.Value.Arithmetic
import Scaffold.Text.Plain

/-!
# The state of a run

While a template runs it has written some output, bound names in frames, filled cells and drawn
numbers.  When the run stops with trouble, what was written before stays written.
-/

namespace Scaffold.Template

/-- A condition on the items of a loop, tested when an item is about to be used. -/
structure Guard where
  target : Target
  test : Expr
  scope : Scope

/-- A loop whose body can be run again for other items. -/
structure Recursion where
  head : LoopHead
  body : List Stmt
  otherwise : List Stmt
  scope : Scope

/-- A loop that is under way.  `index` counts the items that were begun; `ahead` is an item that was
looked at already. -/
structure LoopState where
  source : Value
  stream : Nat
  guard? : Option Guard
  index : Nat
  before? : Option Value
  current? : Option Value
  ahead? : Option Value
  length? : Option Nat
  changed? : Option (List Value)
  depth : Nat
  recursion? : Option Recursion

inductive Cell where
  /-- Items that are taken one after the other, then perhaps trouble. -/
  | stream (items : List Value) (trouble? : Option Trouble)
  | space (entries : List (Value × Value))
  | loop (state : LoopState)
  | cycler (items : List Value) (position : Nat)
  | joiner (separator : Value) (used : Bool)

/-- The numbers that a run takes from outside, one after the other: those that it draws at random,
and the places in memory of what it makes. -/
abbrev Draws := Nat → Nat

/-- Every bit of the result depends on every bit of the number. -/
def scramble (n : UInt64) : UInt64 :=
  let n := (n ^^^ (n >>> 30)) * 0xbf58476d1ce4e5b9
  let n := (n ^^^ (n >>> 27)) * 0x94d049bb133111eb
  n ^^^ (n >>> 31)

/-- Numbers without a pattern. -/
def Draws.ofSeed (seed : UInt64) : Draws := fun index =>
  (scramble (scramble seed + index.toUInt64)).toNat

structure Machine where
  /-- What was written. -/
  out : String
  /-- Names from outside. -/
  context : List (String × Value)
  /-- Names that stand for another name from outside. -/
  aliases : List (String × String)
  blocks : List Block
  /-- Names that the outermost statements bound, for the blocks. -/
  exports : List (String × Value)
  frames : Array (List (String × Value))
  cells : Array Cell
  draws : Draws
  /-- How many numbers were taken. -/
  drawn : Nat

/-- Runs of parts of a template.  What they changed before trouble stays. -/
abbrev Run := ExceptT Trouble (StateM Machine)

namespace Run

def stop (trouble : Trouble) : Run α := throw trouble

def wrongType (message : String) : Run α := throw (.wrongType message)

def lift (result : Except Trouble α) : Run α :=
  match result with
  | .ok a => pure a
  | .error trouble => throw trouble

instance : MonadLift (Except Trouble) Run := ⟨lift⟩

/-! ## Output -/

def write (text : String) : Run Unit := modify fun m => { m with out := m.out ++ text }

/-- The output of a part of the run, which is kept out of the output of the whole. -/
def capture (part : Run Unit) : Run String := do
  let before := (← get).out
  modify fun m => { m with out := "" }
  tryCatch part fun trouble => do
    modify fun m => { m with out := before }
    throw trouble
  let written := (← get).out
  modify fun m => { m with out := before }
  pure written

/-! ## Draws -/

/-- The next number. -/
def take : Run Nat := do
  let m ← get
  set { m with drawn := m.drawn + 1 }
  pure (m.draws m.drawn)

/-- A number below a bound.  Below zero there is none, and nothing is drawn. -/
def draw (bound : Nat) : Run Nat := do
  if bound = 0 then pure 0 else return (← take) % bound

/-- Stop at something that is left out.  What it would come to is not said, and need not be the same
in another run: a number from outside stands for it. -/
def undescribed (name : String) : Run α := do
  stop (.refused s!"{name} is not available ({← take})")

/-! ## Names -/

def newFrame (bindings : List (String × Value)) : Run Nat := do
  let id := (← get).frames.size
  modify fun m => { m with frames := m.frames.push bindings }
  pure id

/-- The bindings with a name bound. -/
def rebind (name : String) (value : Value) : List (String × Value) → List (String × Value)
  | [] => [(name, value)]
  | (n, v) :: rest => if n = name then (n, value) :: rest else (n, v) :: rebind name value rest

/-- Bind a name in the innermost frame. -/
def bind (scope : Scope) (name : String) (value : Value) : Run Unit :=
  match scope with
  | [] => pure ()
  | frame :: _ =>
      modify fun m => { m with frames := m.frames.modify frame (rebind name value) }

/-- Make a name known to the blocks. -/
def publish (name : String) (value : Value) : Run Unit :=
  modify fun m => { m with exports := rebind name value m.exports }

/-- The binding of a name in the innermost frame that has one. -/
def findBinding (m : Machine) (name : String) : Scope → Option Value
  | [] => none
  | frame :: rest =>
      match (m.frames[frame]?.getD []).lookup name with
      | some value => some value
      | none => findBinding m name rest

/-- The names with others of the same plain form, each with the last such name.  The values that
the names have outside are put into one variable one after the other, so that only the last one is
there when the run begins. -/
def aliasesOf (names : List String) : List (String × String) :=
  let names := names.eraseDups
  names.filterMap fun name =>
    (names.filter fun other => Text.plainName other = Text.plainName name).getLast?.bind fun last =>
      if last = name then none else some (name, last)

/-- The name that is looked up outside for a name.  Within a block no name stands for another; that
the inner frames have variables of their own for names that are loaded there only, and that names
bound by the template share variables too, is left out. -/
def outerName (m : Machine) (scope : Scope) (name : String) : String :=
  if scope.getLast? = some 0 then (m.aliases.lookup name).getD name else name

/-- What a name stands for: in the frames, among the published names, or outside. -/
def resolve? (m : Machine) (scope : Scope) (name : String) : Option Value :=
  match findBinding m name scope with
  | some value => some value
  | none => (m.exports.lookup name).or (m.context.lookup (outerName m scope name))

def lookupName (scope : Scope) (name : String) : Run Value := do
  match resolve? (← get) scope name with
  | some value => pure value
  | none => pure (.undefined (.name name) true)

/-! ## Cells -/

def newCell (cell : Cell) : Run Nat := do
  let id := (← get).cells.size
  modify fun m => { m with cells := m.cells.push cell }
  pure id

def setCell (id : Nat) (cell : Cell) : Run Unit :=
  modify fun m => { m with cells := m.cells.set! id cell }

def cell? (id : Nat) : Run (Option Cell) := return (← get).cells[id]?

def newThing (title : String) (cell : Cell) : Run Thing :=
  return ⟨title, ← newCell cell, ← take⟩

def newStream (title : String) (items : List Value) (trouble? : Option Trouble) : Run Value :=
  return .stream (← newThing title (.stream items trouble?))

/-- The next item of a stream. -/
def takeItem (stream : Nat) : Run (Option Value) := do
  match ← cell? stream with
  | some (.stream (item :: rest) trouble?) =>
      setCell stream (.stream rest trouble?)
      pure (some item)
  | some (.stream [] (some trouble)) =>
      setCell stream (.stream [] none)
      stop trouble
  | _ => pure none

/-- All items of a stream that are left. -/
def drain (stream : Nat) : Run (List Value) := do
  match ← cell? stream with
  | some (.stream items trouble?) =>
      setCell stream (.stream [] none)
      match trouble? with
      | some trouble => stop trouble
      | none => pure items
  | _ => pure []

/-! ## Iteration -/

def notIterable (v : Value) : Trouble := .wrongType s!"'{v.typeName}' object is not iterable"

def characters (s : String) : List Value := s.toList.map fun c => .text (String.singleton c)

/-- The elements of a value that holds them all. -/
def elements? : Value → Option (List Value)
  | .undefined _ false => some []
  | .text s => some (characters s)
  | .markup s => some (s.toList.map fun c => .markup (String.singleton c))
  | .list items | .tuple items => some items
  | .dict entries => some (entries.map (·.1))
  | .view .items entries => some (entries.map fun (k, v) => .tuple [k, v])
  | .view .keys entries => some (entries.map (·.1))
  | .view .values entries => some (entries.map (·.2))
  | .range a b c => some (Value.rangeItems a b c)
  | _ => none

/-- The elements of a value; those of a stream are gone afterwards. -/
def elements (v : Value) : Run (List Value) := do
  match v with
  | .undefined why true => stop (.missing why)
  | .stream thing => drain thing.cell
  | v =>
    match elements? v with
    | some items => pure items
    | none => stop (notIterable v)

/-- A stream of the elements of a value. -/
def streamOf (v : Value) : Run Nat := do
  match v with
  | .undefined why true => stop (.missing why)
  | .stream thing => pure thing.cell
  | v =>
    match elements? v with
    | some items => newCell (.stream items none)
    | none => stop (notIterable v)

/-- The number of elements of a value that knows it. -/
def length? : Value → Option Nat
  | .stream _ => none
  | .text s | .markup s => some s.length
  | .range a b c => some (Value.rangeLength a b c)
  | v => (elements? v).map (·.length)

/-- Membership; texts hold texts, dictionaries keys. -/
def contains (container item : Value) : Run Bool := do
  match container with
  | .undefined why true => stop (.missing why)
  | .text s | .markup s =>
    match item.text? with
    | some t => pure (t.isEmpty || (s.splitOn t).length ≠ 1)
    | none =>
      wrongType s!"'in <string>' requires string as left operand, not {item.typeName}"
  | .dict entries | .view .keys entries =>
    match item.keyFault? with
    | some fault => stop fault
    | none => pure (Value.findKey? item entries).isSome
  | v =>
    let items ←
      match v with
      | .stream thing => drain thing.cell
      | v =>
        match elements? v with
        | some items => pure items
        | none => wrongType s!"argument of type '{v.typeName}' is not iterable"
    let mut found := false
    for element in items do
      if !found then
        found ← Value.equal element item
    pure found

/-! ## Text -/

/-- The value in running text.  Inside other values name spaces and loops are not shown in this way:
their places stand for what is left out. -/
def display (v : Value) : Run String := do
  match v with
  | .space thing =>
    match ← cell? thing.cell with
    | some (.space entries) => pure s!"<Namespace {(Value.dict entries).literal}>"
    | _ => v.display
  | .loop thing =>
    match ← cell? thing.cell with
    | some (.loop state) =>
        let total := match state.length? with
          | some n => n
          | none => (length? state.source).getD state.index
        pure s!"<LoopContext {state.index}/{total}>"
    | _ => v.display
  | v => v.display

end Run

end Scaffold.Template
