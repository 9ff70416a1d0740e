import Scaffold.Template.Token

/-!
# Template programs

What a template says: expressions, and the statements that produce its output.  A line is kept
where a message names it.
-/

namespace Scaffold.Template

inductive Literal where
  | none
  | bool (b : Bool)
  | int (n : Nat)
  | float (x : Float)
  | text (s : String)

inductive BinaryOp where
  | add
  | sub
  | mul
  | div
  | floorDiv
  | mod
  | pow
  deriving DecidableEq, Repr

namespace BinaryOp

/-- The sign that messages show. -/
def sign : BinaryOp → String
  | add => "+"
  | sub => "-"
  | mul => "*"
  | div => "/"
  | floorDiv => "//"
  | mod => "%"
  | pow => "** or pow()"

def kindName : BinaryOp → String
  | add => "add"
  | sub => "sub"
  | mul => "mul"
  | div => "div"
  | floorDiv => "floordiv"
  | mod => "mod"
  | pow => "pow"

end BinaryOp

inductive Comparison where
  | equal
  | unequal
  | less
  | atMost
  | greater
  | atLeast
  | isIn
  | notIn
  deriving DecidableEq, Repr

/-- How an argument of a call is handed over. -/
inductive ArgKind where
  | positional
  | named (key : String)
  | spread
  | spreadNamed
  deriving DecidableEq, Repr

/-- An expression.  The kinds of the arguments of a call stand beside the arguments. -/
inductive Expr where
  | literal (value : Literal)
  | name (name : String)
  | tuple (items : List Expr)
  | list (items : List Expr)
  | dict (keys values : List Expr)
  | negate (operand : Expr)
  | affirm (operand : Expr)
  | not (operand : Expr)
  | binary (op : BinaryOp) (left right : Expr)
  | concat (items : List Expr)
  | both (left right : Expr)
  | either (left right : Expr)
  | compare (first : Expr) (signs : List Comparison) (operands : List Expr)
  /-- A choice without an alternative. -/
  | only (line : Nat) (test chosen : Expr)
  | choose (test chosen other : Expr)
  | member (object : Expr) (name : String)
  | item (object index : Expr)
  | slice (start stop step : Expr)
  | call (callee : Expr) (kinds : List ArgKind) (args : List Expr)
  | filter (line : Nat) (name : String) (operand : Expr) (kinds : List ArgKind)
      (args : List Expr)
  | test (line : Nat) (name : String) (operand : Expr) (kinds : List ArgKind) (args : List Expr)

/-- What a message calls an expression that cannot be assigned to. -/
def Expr.kindName : Expr → String
  | literal _ => "const"
  | name _ => "name"
  | tuple _ => "tuple"
  | list _ => "list"
  | dict _ _ => "dict"
  | negate _ => "neg"
  | affirm _ => "pos"
  | not _ => "not"
  | binary op _ _ => op.kindName
  | concat _ => "concat"
  | both _ _ => "and"
  | either _ _ => "or"
  | compare _ _ _ => "compare"
  | only _ _ _ | choose _ _ _ => "condexpr"
  | member _ _ => "getattr"
  | item _ _ => "getitem"
  | slice _ _ _ => "slice"
  | call _ _ _ => "call"
  | filter _ _ _ _ _ => "filter"
  | test _ _ _ _ _ => "test"

/-- What a value is assigned to. -/
inductive Target where
  | name (line : Nat) (name : String)
  | field (space key : String)
  | tuple (items : List Target)

/-- A filter that is applied to the output of a block. -/
structure FilterCall where
  line : Nat
  name : String
  kinds : List ArgKind
  args : List Expr

/-- Parameters; the defaults belong to the last ones. -/
structure Signature where
  params : List String
  defaults : List Expr

/-- What the head of a loop says. -/
structure LoopHead where
  target : Target
  source : Expr
  test? : Option Expr
  recursive : Bool

/-- Statements that would read another template. -/
inductive Loading where
  | extending
  | including (ignoreMissing : Bool)
  | importing
  deriving DecidableEq, Repr

inductive Stmt where
  | text (content : String)
  | print (value : Expr)
  | branch (test : Expr) (body otherwise : List Stmt)
  | loop (head : LoopHead) (body otherwise : List Stmt)
  | assign (target : Target) (value : Expr)
  | assignBlock (target : Target) (filters : List FilterCall) (body : List Stmt)
  | scope (targets : List Target) (values : List Expr) (body : List Stmt)
  | define (line : Nat) (name : String) (signature : Signature) (body : List Stmt)
  | callBlock (line : Nat) (call : Expr) (signature : Signature) (body : List Stmt)
  | filterBlock (filters : List FilterCall) (body : List Stmt)
  | block (line : Nat) (name : String) (seesLocals required : Bool) (body : List Stmt)
  | load (kind : Loading) (line : Nat) (source : Expr)

/-- A whole template. -/
abbrev Program := List Stmt

/-! ## Names in order

The names that a part of a program stores and loads, in the order of its text.  Blocks have names
of their own and are passed over. -/

inductive Use where
  | load
  | store
  | parameter
  deriving DecidableEq, Repr

structure Mention where
  name : String
  line : Nat
  use : Use
  deriving DecidableEq, Repr

mutual
def Expr.mentions : Expr → List Mention
  | .literal _ => []
  | .name n => [⟨n, 0, .load⟩]
  | .tuple items | .list items | .concat items => mentionsAll items
  | .dict keys values => mentionsAll keys ++ mentionsAll values
  | .negate e | .affirm e | .not e | .member e _ => e.mentions
  | .binary _ a b | .both a b | .either a b | .item a b | .only _ a b => a.mentions ++ b.mentions
  | .compare first _ operands => first.mentions ++ mentionsAll operands
  | .choose a b c | .slice a b c => a.mentions ++ b.mentions ++ c.mentions
  | .call callee _ args => callee.mentions ++ mentionsAll args
  | .filter _ _ operand _ args | .test _ _ operand _ args =>
      operand.mentions ++ mentionsAll args

def mentionsAll : List Expr → List Mention
  | [] => []
  | e :: rest => e.mentions ++ mentionsAll rest
end

mutual
def Target.mentions : Target → List Mention
  | .name line n => [⟨n, line, .store⟩]
  | .field _ _ => []
  | .tuple items => Target.mentionsAll items

def Target.mentionsAll : List Target → List Mention
  | [] => []
  | t :: rest => t.mentions ++ Target.mentionsAll rest
end

def FilterCall.mentions (f : FilterCall) : List Mention := mentionsAll f.args

def Signature.mentions (s : Signature) : List Mention :=
  s.params.map (fun p => ⟨p, 0, .parameter⟩) ++ mentionsAll s.defaults

/-- The names that a scope binds count as parameters of its body. -/
def parameterMentions (targets : List Target) : List Mention :=
  (Target.mentionsAll targets).map fun m => { m with use := .parameter }

def LoopHead.mentions (head : LoopHead) : List Mention :=
  head.target.mentions ++ head.source.mentions

mutual
def Stmt.mentions : Stmt → List Mention
  | .text _ | .block _ _ _ _ _ => []
  | .print e | .load _ _ e => e.mentions
  | .branch test body otherwise =>
      test.mentions ++ bodyMentions body ++ bodyMentions otherwise
  | .loop head body otherwise =>
      head.mentions ++ bodyMentions body ++ bodyMentions otherwise ++
        (match head.test? with
          | some test => test.mentions
          | none => [])
  | .assign target value => target.mentions ++ value.mentions
  | .assignBlock target filters body =>
      target.mentions ++ filters.flatMap FilterCall.mentions ++ bodyMentions body
  | .scope targets values body =>
      parameterMentions targets ++ mentionsAll values ++ bodyMentions body
  | .define _ _ signature body => signature.mentions ++ bodyMentions body
  | .callBlock _ call signature body =>
      call.mentions ++ signature.mentions ++ bodyMentions body
  | .filterBlock filters body => bodyMentions body ++ filters.flatMap FilterCall.mentions

def bodyMentions : List Stmt → List Mention
  | [] => []
  | s :: rest => s.mentions ++ bodyMentions rest
end

mutual
/-- The names that a statement loads for the frame that it stands in, in the order of its text.
The bodies of loops, scopes, definitions and blocks have frames of their own. -/
def Stmt.loads : Stmt → List String
  | .text _ | .assignBlock _ _ _ | .define _ _ _ _ | .block _ _ _ _ _ => []
  | .print e | .load _ _ e | .assign _ e | .callBlock _ e _ _ => e.mentions.map (·.name)
  | .branch test body otherwise =>
      test.mentions.map (·.name) ++ loadsOf body ++ loadsOf otherwise
  | .loop head _ _ => head.source.mentions.map (·.name)
  | .scope _ values _ => (mentionsAll values).map (·.name)
  | .filterBlock filters _ => (filters.flatMap FilterCall.mentions).map (·.name)

def loadsOf : List Stmt → List String
  | [] => []
  | s :: rest => s.loads ++ loadsOf rest
end

/-- The name is loaded before anything of that name is bound. -/
def needs (name : String) (mentions : List Mention) : Bool :=
  match mentions.find? fun m => m.name = name with
  | some m => m.use = .load
  | none => false

/-! ## Blocks -/

/-- A named part of the template. -/
structure Block where
  name : String
  line : Nat
  required : Bool
  body : List Stmt

mutual
/-- The blocks inside a statement, outer ones first. -/
def Stmt.blocks : Stmt → List Block
  | .text _ | .print _ | .assign _ _ | .load _ _ _ => []
  | .branch _ body otherwise | .loop _ body otherwise => blocksOf body ++ blocksOf otherwise
  | .assignBlock _ _ body | .scope _ _ body | .define _ _ _ body | .callBlock _ _ _ body
  | .filterBlock _ body => blocksOf body
  | .block line name _ required body => ⟨name, line, required, body⟩ :: blocksOf body

def blocksOf : List Stmt → List Block
  | [] => []
  | s :: rest => s.blocks ++ blocksOf rest
end

end Scaffold.Template
