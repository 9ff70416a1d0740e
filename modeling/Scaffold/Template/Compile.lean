import Scaffold.Template.Evaluate
import Scaffold.Template.Program.Check
import Scaffold.Template.Token.Lexer

/-!
# Compiling templates

A template is read, checked and turned into code, and the code is read in turn.  Constant parts of
expressions are worked out when the code is made, and their values are written into it.  What
escapes on the way is no fault of the template.

The code itself is not spelled out.  Described is what its reader refuses: a name that is handed over
twice, a parameter that a definition has twice, a slice among other indices, too many loops, blocks
or brackets inside one another.  The messages leave out the numbers that stand for places in the
code, and the bounds on nesting are those of common templates.
-/

namespace Scaffold.Template

open Text

/-! ## Constant parts -/

mutual
/-- The whole numbers in the literal form of a value, if the value has a literal form that gives it
back. -/
def Value.literalNumbers? : Value → Option (List Int)
  | .none | .bool _ | .float _ | .text _ | .markup _ => some []
  | .int n => some [n]
  | .range start stop step => some [start, stop, step]
  | .list items | .tuple items => literalNumbersAll? items
  | .dict entries => entryNumbers? entries
  | _ => none

def literalNumbersAll? : List Value → Option (List Int)
  | [] => some []
  | v :: rest => do return (← v.literalNumbers?) ++ (← literalNumbersAll? rest)

def entryNumbers? : List (Value × Value) → Option (List Int)
  | [] => some []
  | (k, v) :: rest => do
      return (← k.literalNumbers?) ++ (← v.literalNumbers?) ++ (← entryNumbers? rest)
end

/-- Filters that look at the run, so that nothing is known of their values before it. -/
def runFilters : List String := ["map", "random", "reject", "rejectattr", "select", "selectattr"]

mutual
/-- The expression is made of constants. -/
def Expr.isConstant : Expr → Bool
  | .literal _ => true
  | .name _ | .call _ _ _ => false
  | .tuple items | .list items | .concat items => allConstant items
  | .dict keys values => allConstant keys && allConstant values
  | .negate e | .affirm e | .not e | .member e _ => e.isConstant
  | .binary _ a b | .both a b | .either a b | .item a b | .only _ a b =>
      a.isConstant && b.isConstant
  | .compare first _ operands => first.isConstant && allConstant operands
  | .choose a b c | .slice a b c => a.isConstant && b.isConstant && c.isConstant
  | .filter _ name operand _ args =>
      !runFilters.contains name && operand.isConstant && allConstant args
  | .test _ _ operand _ args => operand.isConstant && allConstant args

def allConstant : List Expr → Bool
  | [] => true
  | e :: rest => e.isConstant && allConstant rest
end

/-- The whole numbers in the value of a constant expression that is worked out beforehand. -/
def Expr.settled? (e : Expr) : Option (List Int) :=
  if e.isConstant then
    match (eval (callsAt 0) [] e).run.run (start [] [] fun _ => 0) with
    | (.ok v, _) => v.literalNumbers?
    | (.error _, _) => none
  else none

/-- What escapes in the code of an expression: of one that is settled its numbers, else what escapes
in its parts. -/
def Expr.escapesOr (e : Expr) (inner : List Escape) : List Escape :=
  match e.settled? with
  | some numbers =>
      if numbers.any fun n => Nat.pow 10 digitLimit ≤ n.natAbs then [.longNumber none] else []
  | none => inner

/-! ## Code of expressions -/

/-- Words that no name in the code can be. -/
def codeWords : List String :=
  ["False", "None", "True", "and", "as", "assert", "async", "await", "break", "class", "continue",
    "def", "del", "elif", "else", "except", "finally", "for", "from", "global", "if", "import",
    "in", "is", "lambda", "nonlocal", "not", "or", "pass", "raise", "return", "try", "while",
    "with", "yield"]

/-- The first name that another one before it has, in plain form. -/
def repeatedName? : List String → Option String
  | [] => none
  | name :: rest =>
      if rest.any fun other => plainName other = plainName name then some (plainName name)
      else repeatedName? rest

/-- The names under which arguments are handed over.  With a word of the code among them they are
handed over in a dictionary, which takes every name. -/
def keywordEscapes (kinds : List ArgKind) (more : List String) : List Escape :=
  let names := (kinds.filterMap fun
    | .named key => some key
    | _ => none) ++ more
  if names.any codeWords.contains then []
  else
    match repeatedName? names with
    | some name => [.badCode s!"keyword argument repeated: {name}"]
    | none => []

/-- A slice is no part of a tuple. -/
def sliceEscapes : Expr → List Escape
  | .tuple items =>
      if items.any fun | .slice _ _ _ => true | _ => false then [.badCode "invalid syntax"] else []
  | _ => []

mutual
/-- How deep the brackets in the code of an expression are nested. -/
def Expr.brackets : Expr → Nat
  | .literal _ => 0
  | .name _ => 2
  | .tuple items | .list items | .concat items => bracketsOf items + 1
  | .dict keys values => max (bracketsOf keys) (bracketsOf values) + 1
  | .negate e | .affirm e | .not e | .member e _ => e.brackets + 1
  | .binary _ a b | .both a b | .either a b | .item a b | .only _ a b =>
      max a.brackets b.brackets + 1
  | .compare first _ operands => max first.brackets (bracketsOf operands) + 1
  | .choose a b c | .slice a b c => max a.brackets (max b.brackets c.brackets) + 1
  | .call callee _ args => max callee.brackets (bracketsOf args) + 1
  | .filter _ _ operand _ args | .test _ _ operand _ args =>
      max operand.brackets (bracketsOf args) + 1

def bracketsOf : List Expr → Nat
  | [] => 0
  | e :: rest => max e.brackets (bracketsOf rest)
end

/-- About as deep may brackets be nested in an expression, with one around it. -/
def bracketLimit : Nat := 199

mutual
def Expr.escapes (e : Expr) : List Escape :=
  e.escapesOr <|
    match e with
    | .literal _ | .name _ => []
    | .tuple items | .list items | .concat items => escapesOf items
    | .dict keys values => escapesOf keys ++ escapesOf values
    | .negate e | .affirm e | .not e | .member e _ => e.escapes
    | .binary _ a b | .both a b | .either a b | .only _ a b => a.escapes ++ b.escapes
    | .item object index => object.escapes ++ sliceEscapes index ++ index.escapes
    | .compare first _ operands => first.escapes ++ escapesOf operands
    | .choose a b c | .slice a b c => a.escapes ++ b.escapes ++ c.escapes
    | .call callee kinds args => keywordEscapes kinds [] ++ callee.escapes ++ escapesOf args
    | .filter _ _ operand kinds args | .test _ _ operand kinds args =>
        keywordEscapes kinds [] ++ operand.escapes ++ escapesOf args

def escapesOf : List Expr → List Escape
  | [] => []
  | e :: rest => e.escapes ++ escapesOf rest
end

/-- What escapes in the code of a whole expression. -/
def Expr.allEscapes (e : Expr) : List Escape :=
  e.escapes ++ if bracketLimit < e.brackets then [.badCode "too many nested parentheses"] else []

/-! ## Code of statements -/

/-- Where the code of a body stands: inside so many loops of one function, and so many blocks. -/
structure CodePlace where
  loops : Nat
  blocks : Nat

namespace CodePlace

/-- The body of a function of its own. -/
def outermost : CodePlace := ⟨0, 1⟩

def block (p : CodePlace) : CodePlace := { p with blocks := p.blocks + 1 }

def function (p : CodePlace) : CodePlace := ⟨0, p.blocks + 1⟩

def loop (p : CodePlace) (recursive : Bool) : CodePlace :=
  let outer := if recursive then p.function else p
  ⟨outer.loops + 1, outer.blocks + 1⟩

/-- A branch behind another one stands where that stands. -/
def otherwise (p : CodePlace) : List Stmt → CodePlace
  | [.branch _ _ _] => p
  | _ => p.block

/-- Loops are nested no deeper than this, and blocks less deep than that. -/
def escapes (p : CodePlace) : List Escape :=
  (if 20 < p.loops then [.badCode "too many statically nested blocks"] else []) ++
    if 100 ≤ p.blocks then [.badLayout] else []

end CodePlace

def FilterCall.escapes (f : FilterCall) : List Escape :=
  keywordEscapes f.kinds [] ++ escapesOf f.args

def Signature.escapes (s : Signature) : List Escape :=
  (match repeatedName? s.params with
    | some name => [.badCode s!"duplicate argument 'l_1_{name}' in function definition"]
    | none => []) ++ escapesOf s.defaults

/-- A call with a block hands the block over under a name of its own. -/
def callerEscapes : Expr → List Escape
  | .call callee kinds args =>
      keywordEscapes kinds ["caller"] ++ callee.escapes ++ escapesOf args
  | e => e.escapes

mutual
def Stmt.escapes (p : CodePlace) : Stmt → List Escape
  | .text _ | .block _ _ _ _ _ => []
  | .print e | .assign _ e | .load _ _ e => e.allEscapes
  | .branch test body otherwise =>
      test.allEscapes ++ p.block.escapes ++ bodyEscapes p.block body ++
        bodyEscapes (p.otherwise otherwise) otherwise
  | .loop head body otherwise =>
      head.source.allEscapes ++ (head.test?.map Expr.allEscapes).getD [] ++
        (p.loop head.recursive).escapes ++ bodyEscapes (p.loop head.recursive) body ++
          bodyEscapes p.block otherwise
  | .assignBlock _ filters body | .filterBlock filters body =>
      bodyEscapes p body ++ filters.flatMap FilterCall.escapes
  | .scope _ values body => values.flatMap Expr.allEscapes ++ bodyEscapes p body
  | .define _ _ signature body =>
      signature.escapes ++ p.function.escapes ++ bodyEscapes p.function body
  | .callBlock _ call signature body =>
      signature.escapes ++ p.function.escapes ++ bodyEscapes p.function body ++ callerEscapes call

def bodyEscapes (p : CodePlace) : List Stmt → List Escape
  | [] => []
  | s :: rest => s.escapes p ++ bodyEscapes p rest
end

/-- What escapes when a program is turned into code: numbers while the code is made, then what is
wrong with its layout, then the first of all else. -/
def Program.escape? (program : Program) : Option Escape :=
  let found := bodyEscapes .outermost program ++
    (blocksOf program).flatMap fun b => bodyEscapes .outermost b.body
  ((found.find? (· = .longNumber none)).or (found.find? (· = .badLayout))).or found.head?

/-! ## Whole templates -/

/-- The program of a template, the first fault in it, or what escapes when it is compiled. -/
def compile (source : String) : Except Refusal Program := do
  let program ← programOf (lex source)
  (Program.check program).mapError .fault
  match Program.escape? program with
  | some cause => throw (.escape cause)
  | none => return program

end Scaffold.Template
