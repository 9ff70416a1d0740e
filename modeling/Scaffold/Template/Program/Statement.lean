import Scaffold.Template.Program.Expression
import Scaffold.Text.Classes

/-!
# Reading statements

A tag names a statement.  Statements with a body read on up to the tag that ends them; where that
tag is missing, the message says which tags are looked for.
-/

namespace Scaffold.Template

open Text

/-- The tags that are open, and the tags that may end the bodies around; inner ones first. -/
structure Surroundings where
  tags : List String
  ends : List (List String)

namespace Surroundings

def outermost : Surroundings := ⟨[], []⟩

def lookingFor (ends : List String) : String :=
  " or ".intercalate (ends.map quote)

/-- What a message adds about the tags around; `name` is the tag that was found instead. -/
def explain (around : Surroundings) (name? : Option String) : List String :=
  let search :=
    match around.ends with
    | [] => []
    | ends :: _ =>
      let nested := match name? with
        | some name => around.ends.any fun ends => ends.contains name
        | none => false
      if nested then
        ["You probably made a nesting mistake. Jinja is expecting this tag, but currently looking"
          ++ s!" for {lookingFor ends}."]
      else [s!"Jinja was looking for the following tags: {lookingFor ends}."]
  let innermost :=
    match around.tags with
    | [] => []
    | tag :: _ => [s!"The innermost block that needs to be closed is {quote tag}."]
  search ++ innermost

def unknownTag (around : Surroundings) (name : String) : String :=
  " ".intercalate (s!"Encountered unknown tag {quote name}." :: around.explain (some name))

def endOfTemplate (around : Surroundings) : String :=
  " ".intercalate ("Unexpected end of template." :: around.explain none)

end Surroundings

/-- Reads the statements of a body up to, and not including, the tag that ends it. -/
abbrev BodyReader := Surroundings → Option (List String) → Reader (List Stmt)

namespace Reader

/-! ## Targets of assignments -/

/-- Something in the place of a target, and the target if it can be one. -/
structure Assignee where
  kind : String
  target? : Option Target

mutual
def targetOf? (line : Nat) : Expr → Option Target
  | .name n => some (.name line n)
  | .tuple items => (targetsOf? line items).map .tuple
  | _ => none

def targetsOf? (line : Nat) : List Expr → Option (List Target)
  | [] => some []
  | e :: rest => do
      let target ← targetOf? line e
      return target :: (← targetsOf? line rest)
end

def Assignee.join (items : List Assignee) : Assignee :=
  ⟨"tuple", (items.mapM Assignee.target?).map .tuple⟩

variable (nested : Nested)

/-- One target.  The members of name spaces can be targets of `set`. -/
def assignee (members : Bool) : Reader Assignee := do
  let line ← line
  let e ← primary nested
  match e with
  | .name n =>
      if members then
        if ← skip (.sign ".") then
          return ⟨"nsref", some (.field n (← expectName))⟩
      pure ⟨"name", some (.name line n)⟩
  | e => pure ⟨e.kindName, targetOf? line e⟩

/-- A target or several between commas. -/
def target (members : Bool) (stops : List String) : Reader Target := do
  let line ← line
  let found ← tupleOf Assignee.join stops false (assignee nested members)
  match found.target? with
  | some target => pure target
  | none => failAt line s!"can't assign to {quote found.kind}"

/-- A name alone, which must not be that of a constant. -/
def targetName : Reader String := do
  let line ← line
  let name ← expectName
  if (constant? name).isSome then failAt line "can't assign to 'name'" else pure name

/-! ## Parts of statements -/

def tuple (stops : List String) : Reader Expr :=
  tupleOf .tuple stops false nested.expression

/-- A tuple of expressions that are no choices. -/
def plainTuple (stops : List String) : Reader Expr :=
  tupleOf .tuple stops false (disjunction nested)

/-- The next parameter, behind a comma unless it is the first one. -/
def parameter (s : Signature) : Reader (Option Signature) := do
  if ← isAt (.sign ")") then pure none
  else
    if !s.params.isEmpty then expect (.sign ",")
    let name ← targetName
    let params := s.params ++ [name]
    if ← skip (.sign "=") then return some ⟨params, s.defaults ++ [← nested.expression]⟩
    else if s.defaults.isEmpty then pure (some { s with params })
    else fail "non-default argument follows default argument"

def signature : Reader Signature := do
  expect (.sign "(")
  let s ← repeatWhile (parameter nested) ⟨[], []⟩
  expect (.sign ")")
  pure s

/-- The words that say whether another template sees the names of this one. -/
def loadContext : Reader Unit := do
  if (← isAt (.word "with")) || (← isAt (.word "without")) then
    match ← lookAhead with
    | some (.name "context") =>
        advance
        advance
    | _ => pure ()

variable (body : BodyReader)

/-- A body with the end of its tag before it.  The tag that ends it is left to be read. -/
def openBody (around : Surroundings) (ends : List String) : Reader (List Stmt) := do
  let _ ← skip (.sign ":")
  expect .blockEnd
  let statements ← body around (some ends)
  match ← peek with
  | some _ => pure statements
  | none => fail ({ around with ends := ends :: around.ends }).endOfTemplate

/-- A body with both its tags, up to the name of the tag that ends it. -/
def wholeBody (around : Surroundings) (ending : String) : Reader (List Stmt) := do
  let statements ← openBody body around [ending]
  advance
  pure statements

/-! ## Statements -/

def loopStatement (around : Surroundings) : Reader Stmt := do
  let target ← target nested false ["in"]
  expect (.word "in")
  let source ← plainTuple nested ["recursive"]
  let test? ← if ← skip (.word "if") then some <$> nested.expression else pure none
  let recursive ← skip (.word "recursive")
  let statements ← openBody body around ["endfor", "else"]
  let otherwise ←
    if ← skip (.word "endfor") then pure []
    else
      advance
      wholeBody body around "endfor"
  pure (.loop ⟨target, source, test?, recursive⟩ statements otherwise)

/-- A branch with what follows it; `n` bounds the number of tests. -/
def branches (around : Surroundings) : Nat → Reader Stmt
  | 0 => fail "too deeply nested"
  | n + 1 => do
      let test ← plainTuple nested []
      let statements ← openBody body around ["elif", "else", "endif"]
      if ← skip (.word "elif") then return .branch test statements [← branches around n]
      else if ← skip (.word "else") then
        return .branch test statements (← wholeBody body around "endif")
      else
        advance
        pure (.branch test statements [])

def setStatement (around : Surroundings) : Reader Stmt := do
  let target ← target nested true []
  if ← skip (.sign "=") then return .assign target (← tuple nested [])
  else
    let filters ← filters nested []
    return .assignBlock target filters (← wholeBody body around "endset")

/-- The next name with its value, behind a comma unless it is the first one. -/
def binding (bindings : List (Target × Expr)) : Reader (Option (List (Target × Expr))) := do
  if ← isAt .blockEnd then pure none
  else
    if !bindings.isEmpty then expect (.sign ",")
    let target ← target nested false []
    expect (.sign "=")
    return some ((target, ← nested.expression) :: bindings)

def scopeStatement (around : Surroundings) : Reader Stmt := do
  let bindings ← repeatWhile (binding nested) []
  let (targets, values) := bindings.reverse.unzip
  return .scope targets values (← wholeBody body around "endwith")

/-- The body of a block that another template has to fill holds nothing but white space. -/
def isBlankText : Stmt → Bool
  | .text content => !content.isEmpty && content.toList.all isBlank
  | _ => false

def blockStatement (around : Surroundings) (line : Nat) : Reader Stmt := do
  let name ← expectName
  let seesLocals ← skip (.word "scoped")
  let required ← skip (.word "required")
  if ← isAt (.sign "-") then
    fail ("Block names in Jinja have to be valid Python identifiers and may not contain hyphens,"
      ++ " use an underscore instead.")
  let statements ← wholeBody body around "endblock"
  if required && !statements.all isBlankText then
    fail "Required blocks can only contain comments or whitespace"
  let _ ← skip (.word name)
  pure (.block line name seesLocals required statements)

def callStatement (around : Surroundings) (line : Nat) : Reader Stmt := do
  let s ← if ← isAt (.sign "(") then signature nested else pure ⟨[], []⟩
  match ← nested.expression with
  | .call callee kinds args =>
      return .callBlock line (.call callee kinds args) s (← wholeBody body around "endcall")
  | _ => failAt line "expected call"

def filterStatement (around : Surroundings) : Reader Stmt := do
  let filters ← filters nested [← filterCall nested]
  return .filterBlock filters (← wholeBody body around "endfilter")

def defineStatement (around : Surroundings) (line : Nat) : Reader Stmt := do
  let name ← targetName
  let s ← signature nested
  return .define line name s (← wholeBody body around "endmacro")

def includeStatement (line : Nat) : Reader Stmt := do
  let source ← nested.expression
  let missing ← do
    if ← isAt (.word "ignore") then
      match ← lookAhead with
      | some (.name "missing") =>
          advance
          advance
          pure true
      | _ => pure false
    else pure false
  loadContext
  pure (.load (.including missing) line source)

def importStatement (line : Nat) : Reader Stmt := do
  let source ← nested.expression
  expect (.word "as")
  let _ ← targetName
  loadContext
  pure (.load .importing line source)

/-- The words `with context` or `without context`, passed over. -/
def atLoadContext : Reader Bool := do
  let before ← get
  loadContext
  return (← get).tokens.length ≠ before.tokens.length

/-- The next name that is imported; `true` says that more may follow. -/
def importedName (first : Bool) : Reader Bool := do
  if !first then expect (.sign ",")
  match ← peek with
  | some (.name _) =>
    if ← atLoadContext then pure false
    else
      let line ← line
      let name ← targetName
      if name.startsWith "_" then
        failAt line "names starting with an underline can not be imported"
      if ← skip (.word "as") then
        let _ ← targetName
      if ← atLoadContext then pure false else isAt (.sign ",")
  | _ => mismatch .anyName

def importNamesStatement (line : Nat) : Reader Stmt := do
  let source ← nested.expression
  expect (.word "import")
  let _ ← repeatWhile (fun (first, more) => do
    if more then return some (false, ← importedName first) else pure none) (true, true)
  pure (.load .importing line source)

/-- The next value of `print`, behind a comma unless it is the first one. -/
def printed (values : List Expr) : Reader (Option (List Expr)) := do
  if ← isAt .blockEnd then pure none
  else
    if !values.isEmpty then expect (.sign ",")
    return some ((← nested.expression) :: values)

/-- The statement that the tag at the cursor begins. -/
def statement (around : Surroundings) : Reader (List Stmt) := do
  let line ← line
  match ← peek with
  | some (.name tag) =>
    let inside := { around with tags := tag :: around.tags }
    let one (r : Reader Stmt) : Reader (List Stmt) := do
      advance
      return [← r]
    match tag with
    | "for" => one (loopStatement nested body inside)
    | "if" => one do branches nested body inside ((← get).tokens.length + 1)
    | "set" => one (setStatement nested body inside)
    | "with" => one (scopeStatement nested body inside)
    | "block" => one (blockStatement body inside line)
    | "call" => one (callStatement nested body inside line)
    | "filter" => one (filterStatement nested body inside)
    | "macro" => one (defineStatement nested body inside line)
    | "include" => one (includeStatement nested line)
    | "import" => one (importStatement nested line)
    | "from" => one (importNamesStatement nested line)
    | "extends" => one do return .load .extending line (← nested.expression)
    | "print" =>
        advance
        let values ← repeatWhile (printed nested) []
        pure (values.reverse.map .print)
    | "autoescape" => one do
        let _ ← nested.expression
        return .scope [] [] (← wholeBody body inside "endautoescape")
    | tag => failAt line (around.unknownTag tag)
  | _ => failAt line "tag name expected"

/-- The tag at the cursor ends the body. -/
def atEnding (ends? : Option (List String)) : Reader Bool := do
  match ends?, ← peek with
  | some ends, some (.name n) => pure (ends.contains n)
  | _, _ => pure false

/-- What a body holds from here on; `sofar` holds what was read, the last part first. -/
def bodyFrom (around : Surroundings) (ends? : Option (List String)) :
    Nat → List Stmt → Reader (List Stmt)
  | 0, sofar => pure sofar.reverse
  | n + 1, sofar => do
      match ← peek with
      | some (.data content) =>
          advance
          bodyFrom around ends? n (.text content :: sofar)
      | some .variableBegin =>
          advance
          let e ← tuple nested []
          expect .variableEnd
          bodyFrom around ends? n (.print e :: sofar)
      | some .blockBegin =>
          advance
          if ← atEnding ends? then pure sofar.reverse
          else
            let statements ← statement nested body around
            expect .blockEnd
            bodyFrom around ends? n (statements.reverse ++ sofar)
      | _ => pure sofar.reverse

end Reader

/-- Reads bodies that are nested at most so deep. -/
def bodyReader (nested : Nested) : Nat → BodyReader
  | 0 => fun _ _ => Reader.tooDeep
  | depth + 1 => fun around ends? => do
      let around := match ends? with
        | some ends => { around with ends := ends :: around.ends }
        | none => around
      Reader.bodyFrom nested (bodyReader nested depth) around ends?
        ((← get).tokens.length + 1) []

/-- About as deep may expressions be nested. -/
def expressionLimit : Nat := 70

/-- About as deep may bodies be nested. -/
def bodyLimit : Nat := 240

/-- The program of a stream of tokens. -/
def programOf (stream : TokenStream) : Except Refusal Program := do
  let cursor ← Cursor.ofStream stream
  let (program, _) ←
    bodyReader (nestedReaders expressionLimit) bodyLimit .outermost none cursor
  pure program

end Scaffold.Template
