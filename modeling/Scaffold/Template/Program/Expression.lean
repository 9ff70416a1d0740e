import Scaffold.Template.Program.Cursor

/-!
# Reading expressions

From loose to tight: choice, `or`, `and`, `not`, comparison, sums, `~`, products, powers, signs,
then what follows a primary expression: members, items, calls, filters and tests.
-/

namespace Scaffold.Template

open Text

/-- The readers of nested parts. -/
structure Nested where
  expression : Reader Expr
  negation : Reader Expr
  unary : Bool → Reader Expr

namespace Reader

/-! ## Lists -/

/-- Items behind commas, and whether there was a comma; `ends` says that no item follows. -/
def itemsFrom (ends : Reader Bool) (item : Reader α) :
    Nat → List α → Bool → Reader (List α × Bool)
  | 0, items, comma => pure (items.reverse, comma)
  | n + 1, items, comma => do
      if !items.isEmpty then expect (.sign ",")
      if ← ends then pure (items.reverse, comma)
      else
        let items := (← item) :: items
        if ← isAt (.sign ",") then itemsFrom ends item n items true
        else pure (items.reverse, comma)

/-- No item of a tuple follows. -/
def atTupleEnd (stops : List String) : Reader Bool := do
  match ← peek with
  | some .variableEnd | some .blockEnd | some (.op ")") => pure true
  | some (.name n) => pure (stops.contains n)
  | _ => pure false

/-- One item, or several that commas join, put together by `join`.  Nothing at all is an empty
tuple only between parentheses. -/
def tupleOf (join : List α → α) (stops : List String) (enclosed : Bool) (item : Reader α) :
    Reader α := do
  let (items, comma) ← itemsFrom (atTupleEnd stops) item ((← get).tokens.length + 1) [] false
  match items, comma with
  | [single], false => pure single
  | [], false =>
      if enclosed then pure (join [])
      else fail s!"Expected an expression, got {quote (← describeNext)}"
  | _, _ => pure (join items)

/-- The next item of a list that ends with a closing sign; a comma may follow the last one. -/
def listItem (close : String) (item : Reader α) (items : List α) : Reader (Option (List α)) := do
  if ← isAt (.sign close) then pure none
  else
    if !items.isEmpty then expect (.sign ",")
    if ← isAt (.sign close) then pure none else return some ((← item) :: items)

/-- Items up to a closing sign. -/
def listUpTo (close : String) (item : Reader α) : Reader (List α) := do
  let items ← repeatWhile (listItem close item) []
  expect (.sign close)
  pure items.reverse

/-! ## Primary expressions -/

def constant? : String → Option Literal
  | "true" | "True" => some (.bool true)
  | "false" | "False" => some (.bool false)
  | "none" | "None" => some .none
  | _ => none

/-- Neighbouring texts are one. -/
def adjoinedText (first : String) : Reader String :=
  repeatWhile (fun text => do
    match ← peek with
    | some (.text more) =>
        advance
        pure (some (text ++ more))
    | _ => pure none) first

variable (nested : Nested)

def dictEntry : Reader (Expr × Expr) := do
  let key ← nested.expression
  expect (.sign ":")
  return (key, ← nested.expression)

def primary : Reader Expr := do
  match ← peek with
  | some (.name n) =>
      advance
      match constant? n with
      | some value => pure (.literal value)
      | none => pure (.name n)
  | some (.text s) =>
      advance
      return .literal (.text (← adjoinedText s))
  | some (.int n) =>
      advance
      pure (.literal (.int n))
  | some (.float x) =>
      advance
      pure (.literal (.float x))
  | some (.op "(") =>
      advance
      let e ← tupleOf .tuple [] true nested.expression
      expect (.sign ")")
      pure e
  | some (.op "[") =>
      advance
      return .list (← listUpTo "]" nested.expression)
  | some (.op "\x7b") =>
      advance
      let entries ← listUpTo "\x7d" (dictEntry nested)
      pure (.dict (entries.map (·.1)) (entries.map (·.2)))
  | _ => fail s!"unexpected {quote (← describeNext)}"

/-! ## Arguments -/

/-- Positional arguments come first; nothing but named ones may follow spread ones. -/
def misplaced (before : List ArgKind) : ArgKind → Bool
  | .positional => before.any (· ≠ .positional)
  | .spread => before.any fun k => k = .spread || k = .spreadNamed
  | .named _ | .spreadNamed => before.contains .spreadNamed

/-- The kind of the next argument; what marks it is passed over. -/
def argKind (line : Nat) (before : List ArgKind) : Reader ArgKind := do
  let kind : ArgKind ← match ← peek with
    | some (.op "*") => pure .spread
    | some (.op "**") => pure .spreadNamed
    | some (.name n) => do
        match ← lookAhead with
        | some (.op "=") => pure (.named n)
        | _ => pure .positional
    | _ => pure .positional
  if misplaced before kind then failAt line "invalid syntax for function call expression"
  match kind with
  | .positional => pure ()
  | .spread | .spreadNamed => advance
  | .named _ =>
      advance
      advance
  pure kind

/-- The next argument, behind a comma unless it is the first one. -/
def argument (line : Nat) (args : List (ArgKind × Expr)) :
    Reader (Option (List (ArgKind × Expr))) := do
  if ← isAt (.sign ")") then pure none
  else
    if !args.isEmpty then expect (.sign ",")
    if ← isAt (.sign ")") then pure none
    else
      let kind ← argKind line (args.map (·.1))
      return some ((kind, ← nested.expression) :: args)

def arguments : Reader (List ArgKind × List Expr) := do
  let line ← line
  expect (.sign "(")
  let args ← repeatWhile (argument nested line) []
  expect (.sign ")")
  pure args.reverse.unzip

/-! ## What follows a primary expression -/

/-- The absent bound of a slice. -/
def absent : Expr := .literal .none

/-- A bound of a slice, which is absent before a colon, a comma or the closing bracket. -/
def bound (colonEnds : Bool) : Reader Expr := do
  match ← peek with
  | some (.op "]") | some (.op ",") => pure absent
  | some (.op ":") => if colonEnds then pure absent else nested.expression
  | _ => nested.expression

/-- The bounds of a slice behind its first colon. -/
def sliceFrom (start : Expr) : Reader Expr := do
  let stop ← bound nested true
  if ← skip (.sign ":") then return .slice start stop (← bound nested false)
  else pure (.slice start stop absent)

def subscripted : Reader Expr := do
  if ← skip (.sign ":") then sliceFrom nested absent
  else
    let e ← nested.expression
    if ← skip (.sign ":") then sliceFrom nested e else pure e

/-- The next item of a subscript. -/
def subscriptItem (items : List Expr) : Reader (Option (List Expr)) := do
  if ← isAt (.sign "]") then pure none
  else
    if !items.isEmpty then expect (.sign ",")
    return some ((← subscripted nested) :: items)

/-- A member or an item of an expression. -/
def subscript (object : Expr) : Reader Expr := do
  if ← skip (.sign ".") then
    let line ← line
    match ← peek with
    | some (.name n) =>
        advance
        pure (.member object n)
    | some (.int n) =>
        advance
        pure (.item object (.literal (.int n)))
    | some _ =>
        advance
        failAt line "expected name or number"
    | none => failAt line "expected name or number"
  else
    expect (.sign "[")
    let items ← repeatWhile (subscriptItem nested) []
    expect (.sign "]")
    match items with
    | [index] => pure (.item object index)
    | items => pure (.item object (.tuple items.reverse))

def call (callee : Expr) : Reader Expr := do
  let (kinds, args) ← arguments nested
  pure (.call callee kinds args)

/-- Members, items and calls. -/
def postfixes (e : Expr) : Reader Expr :=
  repeatWhile (fun e => do
    match ← peek with
    | some (.op ".") | some (.op "[") => return some (← subscript nested e)
    | some (.op "(") => return some (← call nested e)
    | _ => pure none) e

/-- Names joined by points. -/
def dottedName : Reader String := do
  let first ← expectName
  repeatWhile (fun name => do
    if ← skip (.sign ".") then return some (name ++ "." ++ (← expectName))
    else pure none) first

/-- Arguments if there are any. -/
def optionalArguments : Reader (List ArgKind × List Expr) := do
  if ← isAt (.sign "(") then arguments nested else pure ([], [])

/-- The name and the arguments of a filter. -/
def filterCall : Reader FilterCall := do
  let line ← line
  let name ← dottedName
  let (kinds, args) ← optionalArguments nested
  pure ⟨line, name, kinds, args⟩

/-- Filters behind bars. -/
def filters : List FilterCall → Reader (List FilterCall) :=
  repeatWhile fun calls => do
    if ← skip (.sign "|") then return some (calls ++ [← filterCall nested]) else pure none

/-- The argument of a test that stands without parentheses. -/
def testArgument : Reader (List ArgKind × List Expr) := do
  match ← peek with
  | some (.name n) =>
      if n = "else" ∨ n = "or" ∨ n = "and" then pure ([], [])
      else if n = "is" then fail "You cannot chain multiple tests with is"
      else one
  | some (.text _) | some (.int _) | some (.float _) | some (.op "[") | some (.op "\x7b") => one
  | some (.op "(") => arguments nested
  | _ => pure ([], [])
where
  one : Reader (List ArgKind × List Expr) := do
    return ([.positional], [← postfixes nested (← primary nested)])

def test (operand : Expr) : Reader Expr := do
  let line ← line
  advance
  let negated ← skip (.word "not")
  let name ← dottedName
  let (kinds, args) ← testArgument nested
  let e : Expr := .test line name operand kinds args
  pure (if negated then .not e else e)

/-- Filters, tests and calls of their results. -/
def filtersAndTests (e : Expr) : Reader Expr :=
  repeatWhile (fun e => do
    match ← peek with
    | some (.op "|") =>
        advance
        let f ← filterCall nested
        pure (some (.filter f.line f.name e f.kinds f.args))
    | some (.name "is") => return some (← test nested e)
    | some (.op "(") => return some (← call nested e)
    | _ => pure none) e

/-! ## Operators -/

/-- A primary expression, or one behind a sign. -/
def signed : Reader Expr := do
  if ← skip (.sign "-") then return .negate (← nested.unary false)
  else if ← skip (.sign "+") then return .affirm (← nested.unary false)
  else primary nested

/-- A signed expression takes the filters behind it only if it is not itself behind a sign. -/
def unary (withFilters : Bool) : Reader Expr := do
  let e ← postfixes nested (← signed nested)
  if withFilters then filtersAndTests nested e else pure e

/-- Operands that operators of one level join, from the left. -/
def leftToRight (op? : String → Option BinaryOp) (operand : Reader Expr) : Reader Expr := do
  repeatWhile (fun left => do
    match ← peek with
    | some (.op sign) =>
      match op? sign with
      | some op =>
          advance
          return some (.binary op left (← operand))
      | none => pure none
    | _ => pure none) (← operand)

def powerOp? : String → Option BinaryOp
  | "**" => some .pow
  | _ => none

def productOp? : String → Option BinaryOp
  | "*" => some .mul
  | "/" => some .div
  | "//" => some .floorDiv
  | "%" => some .mod
  | _ => none

def sumOp? : String → Option BinaryOp
  | "+" => some .add
  | "-" => some .sub
  | _ => none

def power : Reader Expr := leftToRight powerOp? (unary nested true)

def product : Reader Expr := leftToRight productOp? (power nested)

def concatenation : Reader Expr := do
  let first ← product nested
  let items ← repeatWhile (fun items => do
    if ← skip (.sign "~") then return some (items ++ [← product nested]) else pure none) [first]
  match items with
  | [single] => pure single
  | items => pure (.concat items)

def sum : Reader Expr := leftToRight sumOp? (concatenation nested)

/-- The comparison sign at the cursor, passed over. -/
def comparison? : Reader (Option Comparison) := do
  match ← peek with
  | some (.op sign) =>
    match signs.lookup sign with
    | some c =>
        advance
        pure (some c)
    | none => pure none
  | some (.name "in") =>
      advance
      pure (some .isIn)
  | some (.name "not") =>
    match ← lookAhead with
    | some (.name "in") =>
        advance
        advance
        pure (some .notIn)
    | _ => pure none
  | _ => pure none
where
  signs : List (String × Comparison) :=
    [("==", .equal), ("!=", .unequal), ("<", .less), ("<=", .atMost), (">", .greater),
      (">=", .atLeast)]

def comparisonChain : Reader Expr := do
  let first ← sum nested
  let rest ← repeatWhile (fun rest => do
    match ← comparison? with
    | some c => return some (rest ++ [(c, ← sum nested)])
    | none => pure none) ([] : List (Comparison × Expr))
  match rest with
  | [] => pure first
  | rest => pure (.compare first (rest.map (·.1)) (rest.map (·.2)))

def negation : Reader Expr := do
  if ← skip (.word "not") then return .not (← nested.negation) else comparisonChain nested

def conjunction : Reader Expr := do
  repeatWhile (fun left => do
    if ← skip (.word "and") then return some (.both left (← negation nested)) else pure none)
    (← negation nested)

def disjunction : Reader Expr := do
  repeatWhile (fun left => do
    if ← skip (.word "or") then return some (.either left (← conjunction nested)) else pure none)
    (← conjunction nested)

/-- Choices; the alternative of a choice may be a choice. -/
def choice : Reader Expr := do
  let start ← line
  let first ← disjunction nested
  let (e, _) ← repeatWhile (fun (chosen, start) => do
    if ← skip (.word "if") then
      let test ← disjunction nested
      let e ←
        if ← skip (.word "else") then pure (.choose test chosen (← nested.expression))
        else pure (.only start test chosen)
      return some (e, ← line)
    else pure none) (first, start)
  pure e

end Reader

/-- The readers for parts that are nested at most so deep. -/
def nestedReaders : Nat → Nested
  | 0 =>
      { expression := Reader.tooDeep
        negation := Reader.tooDeep
        unary := fun _ => Reader.tooDeep }
  | depth + 1 =>
      let nested := nestedReaders depth
      { expression := Reader.choice nested
        negation := Reader.negation nested
        unary := Reader.unary nested }

end Scaffold.Template
