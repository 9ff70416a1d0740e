import Scaffold.Template.Program.Statement
import Scaffold.Template.Vocabulary

/-!
# Checks before a run

Faults of a program that are found before it runs: blocks of one name, unknown filters and tests
outside conditions, assignments to the loop variable.  The first fault counts, in an order that
starts with the names of blocks and goes through their bodies last.
-/

namespace Scaffold.Template

open Text

/-- Where a part of a program stands. -/
structure Place where
  /-- Under a condition: an unknown name there is a fault of the run only. -/
  conditional : Bool
  /-- Outside loops, scopes and definitions. -/
  top : Bool
  /-- Under no statement at all. -/
  root : Bool
  /-- Output is dropped, because another template takes over. -/
  silent : Bool

namespace Place

def outermost : Place := ⟨false, true, true, false⟩

/-- A body of its own. -/
def inner (p : Place) : Place := { p with conditional := false, top := false, root := false }

/-- A body whose output is kept as a value. -/
def captured (p : Place) : Place := { p.inner with silent := false }

def underCondition (p : Place) : Place := { p with conditional := true, root := false }

end Place

/-- The truth of an expression that is made of constants. -/
def Expr.constantTruth? : Expr → Option Bool
  | .literal value =>
      some (match value with
        | .none => false
        | .bool b => b
        | .int n => n ≠ 0
        | .float x => x != 0
        | .text s => s ≠ "")
  | .not e => e.constantTruth?.map (!·)
  | .both a b =>
      match a.constantTruth? with
      | some true => b.constantTruth?
      | other => other
  | .either a b =>
      match a.constantTruth? with
      | some false => b.constantTruth?
      | other => other
  | _ => none

def checkName (known : Bool) (kind : String) (place : Place) (line : Nat) (name : String) :
    Except TemplateFault Unit :=
  if known || place.conditional then .ok ()
  else .error ⟨line, s!"No {kind} named {quote name}."⟩

mutual
def Expr.check (place : Place) : Expr → Except TemplateFault Unit
  | .literal _ | .name _ => .ok ()
  | .tuple items | .list items | .concat items => checkAll place items
  | .dict keys values => do
      checkAll place keys
      checkAll place values
  | .negate e | .affirm e | .not e | .member e _ => e.check place
  | .binary _ a b | .item a b => do
      a.check place
      b.check place
  | .both a b => do
      a.check place
      if a.constantTruth? ≠ some false then b.check place
  | .either a b => do
      a.check place
      if a.constantTruth? ≠ some true then b.check place
  | .compare first _ operands => do
      first.check place
      checkAll place operands
  | .only _ _ _ | .choose _ _ _ => .ok ()
  | .slice a b c => do
      a.check place
      b.check place
      c.check place
  | .call callee _ args => do
      callee.check place
      checkAll place args
  | .filter line name operand _ args => do
      checkName (Vocabulary.isFilter name) "filter" place line name
      operand.check place
      checkAll place args
  | .test line name operand _ args => do
      checkName (Vocabulary.isTest name) "test" place line name
      operand.check place
      checkAll place args

def checkAll (place : Place) : List Expr → Except TemplateFault Unit
  | [] => .ok ()
  | e :: rest => do
      e.check place
      checkAll place rest
end

/-- Filters that are applied one after the other: all their names, the last one first, then their
arguments. -/
def checkFilters (place : Place) (filters : List FilterCall) : Except TemplateFault Unit := do
  filters.reverse.forM fun f =>
    checkName (Vocabulary.isFilter f.name) "filter" place f.line f.name
  filters.forM fun f => checkAll place f.args

/-- Nothing inside a loop may be assigned to its special variable. -/
def checkLoopName (mentions : List Mention) : Except TemplateFault Unit :=
  match mentions.find? fun m => m.name = "loop" && m.use = .store with
  | some m => .error ⟨m.line, "Can't assign to special loop variable in for-loop"⟩
  | none => .ok ()

/-- A parameter for the calling block has a default if the body uses it. -/
def checkCaller (line : Nat) (signature : Signature) (body : List Stmt) :
    Except TemplateFault Unit :=
  let undefaulted := signature.params.take (signature.params.length - signature.defaults.length)
  if needs "caller" (bodyMentions body) && undefaulted.contains "caller" then
    .error ⟨line, "When defining macros or call blocks the special \"caller\" argument must be"
      ++ " omitted or be given a default."⟩
  else .ok ()

/-- Another template takes over from here on. -/
def Stmt.isTakeover : Stmt → Bool
  | .load .extending _ _ => true
  | _ => false

mutual
def Stmt.check (place : Place) : Stmt → Except TemplateFault Unit
  | .text _ | .block _ _ _ _ _ => .ok ()
  | .print e => if place.silent then .ok () else e.check place
  | .branch test body otherwise => do
      test.check place.underCondition
      checkBody place.underCondition body
      checkBody place.underCondition otherwise
  | .loop head body otherwise => do
      match head.test? with
      | some test => test.check place.inner
      | none => pure ()
      checkLoopName ((Stmt.loop head body otherwise).mentions)
      if !head.recursive then head.source.check place
      checkBody place.inner body
      checkBody place.inner otherwise
      if head.recursive then head.source.check place
  | .assign _ value => value.check place
  | .assignBlock _ filters body => do
      checkBody place.captured body
      checkFilters place.captured filters
  | .scope _ values body => do
      checkAll place values
      checkBody place.inner body
  | .define line _ signature body => do
      checkCaller line signature body
      checkAll place.captured signature.defaults
      checkBody place.captured body
  | .callBlock line call signature body => do
      checkCaller line signature body
      checkAll place.captured signature.defaults
      checkBody place.captured body
      call.check place
  | .filterBlock filters body => do
      checkBody place.inner body
      checkFilters place.inner filters
  | .load .extending line source => do
      if !place.top then .error ⟨line, "cannot use extend from a non top-level scope"⟩
      source.check place
  | .load _ _ source => source.check place

def checkBody (place : Place) : List Stmt → Except TemplateFault Unit
  | [] => .ok ()
  | s :: rest => do
      if place.root && place.silent && s.isTakeover then .ok ()
      else
        s.check place
        checkBody (if place.root && s.isTakeover then { place with silent := true } else place)
          rest
end

/-- The first block whose name another one before it has. -/
def repeatedBlock? : List String → List Block → Option Block
  | _, [] => none
  | names, b :: rest =>
      if names.contains b.name then some b else repeatedBlock? (b.name :: names) rest

def Program.check (program : Program) : Except TemplateFault Unit := do
  let blocks := blocksOf program
  match repeatedBlock? [] blocks with
  | some b => .error ⟨b.line, s!"block {quote b.name} defined twice"⟩
  | none => pure ()
  checkBody .outermost program
  blocks.forM fun b => checkBody Place.outermost.captured b.body

end Scaffold.Template
