import Scaffold.Proofs.Template.Lexing
import Scaffold.Proofs.Template.Reader
import Scaffold.Proofs.Template.Shape
import Scaffold.Template.Program.Statement

/-!
# The program of a form

The parser reads the tokens of a form as a program of texts, printed names and branches.
-/

namespace Scaffold.Template

/-! ## Names as expressions -/

/-- The ends of placeholders and tags, which go on with no expression. -/
def Token.IsEnd (token : Token) : Prop := token = .variableEnd ∨ token = .blockEnd

/-- Names that stand for themselves in an expression. -/
structure FreeName (name : String) : Prop where
  free : Reader.constant? name = none
  positive : name ≠ "not"

namespace Reader

variable {nested : Nested} {name : String} {stop : Token} {rest : List Token}

theorem takes_primary (hn : FreeName name) :
    Takes (primary nested) (.name name :: rest) (.name name) rest := by
  refine takes_peek.bind ((takes_advance (.name name)).bind ?_)
  rw [hn.free]
  exact takes_pure _

theorem takes_signed (hn : FreeName name) :
    Takes (signed nested) (.name name :: rest) (.name name) rest := by
  refine (takes_skip_of_not rfl).bind ((takes_skip_of_not rfl).bind ?_)
  exact takes_primary hn

theorem takes_postfixes (h : stop.IsEnd) (e : Expr) :
    Takes (postfixes nested e) (stop :: rest) e (stop :: rest) := by
  refine takes_repeatWhile (takes_peek.bind ?_)
  rcases h with rfl | rfl <;> exact takes_pure none

theorem takes_filtersAndTests (h : stop.IsEnd) (e : Expr) :
    Takes (filtersAndTests nested e) (stop :: rest) e (stop :: rest) := by
  refine takes_repeatWhile (takes_peek.bind ?_)
  rcases h with rfl | rfl <;> exact takes_pure none

theorem takes_unary (hn : FreeName name) (h : stop.IsEnd) :
    Takes (unary nested true) (.name name :: stop :: rest) (.name name) (stop :: rest) := by
  refine (takes_signed hn).bind ((takes_postfixes h _).bind ?_)
  exact takes_filtersAndTests h _

/-- No operator stands at an end. -/
theorem takes_leftToRight {op? : String → Option BinaryOp} {operand : Reader Expr} {e : Expr}
    {before : List Token} (he : Takes operand before e (stop :: rest)) (h : stop.IsEnd) :
    Takes (leftToRight op? operand) before e (stop :: rest) := by
  refine he.bind (takes_repeatWhile (takes_peek.bind ?_))
  rcases h with rfl | rfl <;> exact takes_pure none

/-- No word or sign that asks for more stands at an end. -/
theorem takes_skip_end {p : Pattern} (h : stop.IsEnd) (hv : p ≠ .variableEnd)
    (hb : p ≠ .blockEnd) : Takes (skip p) (stop :: rest) false (stop :: rest) := by
  apply takes_skip_of_not
  rcases h with rfl | rfl <;> cases p <;> first | rfl | contradiction

theorem takes_concatenation (hn : FreeName name) (h : stop.IsEnd) :
    Takes (concatenation nested) (.name name :: stop :: rest) (.name name) (stop :: rest) := by
  have hproduct : Takes (product nested) (.name name :: stop :: rest) (.name name)
      (stop :: rest) := takes_leftToRight (takes_leftToRight (takes_unary hn h) h) h
  refine hproduct.bind (Takes.bind (takes_repeatWhile ?_) (takes_pure _))
  exact (takes_skip_end h (by decide) (by decide)).bind (takes_pure none)

theorem takes_comparisonChain (hn : FreeName name) (h : stop.IsEnd) :
    Takes (comparisonChain nested) (.name name :: stop :: rest) (.name name) (stop :: rest) := by
  have hsum : Takes (sum nested) (.name name :: stop :: rest) (.name name) (stop :: rest) :=
    takes_leftToRight (takes_concatenation hn h) h
  have hnone : Takes comparison? (stop :: rest) none (stop :: rest) := by
    refine takes_peek.bind ?_
    rcases h with rfl | rfl <;> exact takes_pure none
  refine hsum.bind (Takes.bind (takes_repeatWhile (hnone.bind ?_)) (takes_pure _))
  exact takes_pure none

theorem takes_negation (hn : FreeName name) (h : stop.IsEnd) :
    Takes (negation nested) (.name name :: stop :: rest) (.name name) (stop :: rest) := by
  have hword : (Pattern.word "not").holds (.name name) = false :=
    decide_eq_false (Ne.symm hn.positive)
  exact (takes_skip_of_not hword).bind (takes_comparisonChain hn h)

theorem takes_disjunction (hn : FreeName name) (h : stop.IsEnd) :
    Takes (disjunction nested) (.name name :: stop :: rest) (.name name) (stop :: rest) := by
  have hconjunction : Takes (conjunction nested) (.name name :: stop :: rest) (.name name)
      (stop :: rest) := by
    refine (takes_negation hn h).bind (takes_repeatWhile ?_)
    exact (takes_skip_end h (by decide) (by decide)).bind (takes_pure none)
  refine hconjunction.bind (takes_repeatWhile ?_)
  exact (takes_skip_end h (by decide) (by decide)).bind (takes_pure none)

theorem takes_choice (hn : FreeName name) (h : stop.IsEnd) :
    Takes (choice nested) (.name name :: stop :: rest) (.name name) (stop :: rest) := by
  refine takes_line fun start => (takes_disjunction hn h).bind ?_
  refine Takes.bind (takes_repeatWhile ?_) (takes_pure _)
  exact (takes_skip_end h (by decide) (by decide)).bind (takes_pure none)

/-- A single item that ends where the tuple ends. -/
theorem takes_tupleOf {item : Reader Expr} {join : List Expr → Expr} {enclosed : Bool} {e : Expr}
    (he : Takes item (.name name :: stop :: rest) e (stop :: rest)) (h : stop.IsEnd) :
    Takes (tupleOf join [] enclosed item) (.name name :: stop :: rest) e (stop :: rest) := by
  refine takes_get fun c _ => ?_
  have hcomma : (Pattern.sign ",").holds stop = false := by
    rcases h with rfl | rfl <;> rfl
  have hitems : Takes (itemsFrom (atTupleEnd []) item (c.tokens.length + 1) [] false)
      (.name name :: stop :: rest) ([e], false) (stop :: rest) := by
    refine Takes.bind (takes_peek.bind (takes_pure false)) (he.bind ?_)
    refine (takes_isAt _ stop).bind ?_
    rw [hcomma]
    exact takes_pure _
  exact hitems.bind (takes_pure e)

end Reader

/-! ## Programs -/

def textStatements (text : List Char) : List Stmt :=
  if text.isEmpty then [] else [.text (String.ofList text)]

def Body.statements (b : Body) : List Stmt :=
  textStatements b.text ++
    b.placed.flatMap fun (p, text) => .print (.name p.name) :: textStatements text

def Choice.otherStatements (c : Choice) : List Stmt :=
  match c.otherwise? with
  | some other => other.statements
  | none => []

def Choice.statement (c : Choice) : Stmt :=
  .branch (.name c.name) c.body.statements c.otherStatements

def Form.program (f : Form) : Program :=
  f.first.statements ++ f.rest.flatMap fun (c, next) => c.statement :: next.statements

/-! ## Tokens of the parts -/

theorem linkTokens_append (front back : Links) :
    linkTokens (front ++ back) = linkTokens front ++ linkTokens back :=
  List.flatMap_append

theorem linkTokens_behind (b : Body) (t : Tag) :
    linkTokens (b.behind t) = (Mark.tag t).tokens ++ tokensFrom b.text b.links := by
  rw [Body.behind, linkTokens, List.flatMap_cons, List.append_assoc]
  rfl

theorem Body.tokens_eq (b : Body) :
    tokensFrom b.text b.links = textTokens b.text ++
      b.placed.flatMap fun (p, text) => (Mark.place p).tokens ++ textTokens text := by
  rw [tokensFrom, linkTokens, Body.links, List.flatMap_map]

/-! ## Bodies -/

namespace Reader

variable {nested deeper : Nested} {inner : BodyReader} {around : Surroundings}
  {ends? : Option (List String)} {sofar statements : List Stmt} {before after rest : List Token}

/-- From here on the body, with what was read of it, is these statements. -/
def Completes (nested : Nested) (inner : BodyReader) (around : Surroundings)
    (ends? : Option (List String)) (sofar : List Stmt) (before : List Token)
    (statements : List Stmt) (after : List Token) : Prop :=
  ∀ n, before.length < n →
    Takes (bodyFrom nested inner around ends? n sofar) before statements after

theorem completes_nil (h : statements = sofar.reverse) :
    Completes nested inner around ends? sofar [] statements [] := by
  subst h
  intro n hn
  obtain ⟨n, rfl⟩ := Nat.exists_eq_succ_of_ne_zero (Nat.ne_of_gt hn)
  exact takes_peek.bind (takes_pure _)

/-- A tag that ends the body. -/
theorem completes_end {ends : List String} {word : String} (h : word ∈ ends)
    (hs : statements = sofar.reverse) :
    Completes nested inner around (some ends) sofar (.blockBegin :: .name word :: rest)
      statements (.name word :: rest) := by
  subst hs
  intro n hn
  obtain ⟨n, rfl⟩ := Nat.exists_eq_succ_of_ne_zero (Nat.ne_of_gt (Nat.zero_lt_of_lt hn))
  have hending : Takes (atEnding (some ends)) (.name word :: rest) (ends.contains word)
      (.name word :: rest) := takes_peek.bind (takes_pure _)
  refine takes_peek.bind ((takes_advance .blockBegin).bind (hending.bind ?_))
  rw [List.contains_iff_mem.mpr h]
  exact takes_pure _

theorem Completes.text {text : List Char}
    (h : Completes nested inner around ends? ((textStatements text).reverse ++ sofar) before
      statements after) :
    Completes nested inner around ends? sofar (textTokens text ++ before) statements after := by
  unfold textStatements at h
  unfold textTokens
  cases text with
  | nil => exact h
  | cons c text =>
      intro n hn
      obtain ⟨n, rfl⟩ := Nat.exists_eq_succ_of_ne_zero (Nat.ne_of_gt (Nat.zero_lt_of_lt hn))
      refine takes_peek.bind ((takes_advance _).bind ?_)
      exact h n (by simp at hn; omega)

theorem Completes.place {name : String} (hn : FreeName name)
    (hexpression : nested.expression = choice deeper)
    (h : Completes nested inner around ends? (.print (.name name) :: sofar) before statements
      after) :
    Completes nested inner around ends? sofar
      (.variableBegin :: .name name :: .variableEnd :: before) statements after := by
  intro n hn'
  obtain ⟨n, rfl⟩ := Nat.exists_eq_succ_of_ne_zero (Nat.ne_of_gt (Nat.zero_lt_of_lt hn'))
  have hend : Token.variableEnd.IsEnd := Or.inl rfl
  have htuple : Takes (tuple nested []) (.name name :: .variableEnd :: before) (.name name)
      (.variableEnd :: before) := by
    refine takes_tupleOf ?_ hend
    rw [hexpression]
    exact takes_choice hn hend
  refine takes_peek.bind ((takes_advance _).bind (htuple.bind ((takes_expect rfl).bind ?_)))
  exact h n (by simp at hn'; omega)

/-- The places and texts of a body. -/
theorem Completes.placed (hexpression : nested.expression = choice deeper)
    {placed : List (Placeholder × List Char)} (hn : ∀ p ∈ placed, FreeName p.1.name)
    (h : Completes nested inner around ends?
      ((placed.flatMap fun (p, text) => .print (.name p.name) :: textStatements text).reverse ++
        sofar) before statements after) :
    Completes nested inner around ends? sofar
      (placed.flatMap (fun (p, text) => (Mark.place p).tokens ++ textTokens text) ++ before)
      statements after := by
  induction placed generalizing sofar with
  | nil => exact h
  | cons head placed ih =>
      obtain ⟨p, text⟩ := head
      rw [List.flatMap_cons, List.append_assoc, List.append_assoc]
      refine Completes.place (hn (p, text) List.mem_cons_self) hexpression (Completes.text ?_)
      refine ih (fun q hq => hn q (List.mem_cons_of_mem _ hq)) ?_
      rw [List.flatMap_cons, List.reverse_append, List.reverse_cons, List.append_assoc,
        List.append_assoc] at h
      exact h

theorem Completes.body {b : Body} (hexpression : nested.expression = choice deeper)
    (hn : Named FreeName b.links)
    (h : Completes nested inner around ends? (b.statements.reverse ++ sofar) before statements
      after) :
    Completes nested inner around ends? sofar (tokensFrom b.text b.links ++ before) statements
      after := by
  rw [Body.tokens_eq, List.append_assoc]
  refine Completes.text (Completes.placed hexpression hn.placed ?_)
  rw [Body.statements, List.reverse_append, List.append_assoc] at h
  exact h

/-- A body inside a tag, up to the tag that ends it. -/
theorem takes_bodyReader {ends : List String} {word : String} {b : Body} (depth : Nat)
    (hexpression : nested.expression = choice deeper) (hn : Named FreeName b.links)
    (h : word ∈ ends) :
    Takes (bodyReader nested (depth + 1) around (some ends))
      (tokensFrom b.text b.links ++ .blockBegin :: .name word :: rest) b.statements
      (.name word :: rest) := by
  refine takes_get fun c hc => ?_
  have hlength : c.tokens.length =
      (tokensFrom b.text b.links ++ .blockBegin :: .name word :: rest).length := by
    rw [← hc.tokens, List.length_map]
  refine Completes.body hexpression hn (completes_end h (by simp)) _ ?_
  omega

/-! ## Choices -/

theorem takes_openBody {ends : List String} {token : Token}
    (h : Takes (inner around (some ends)) before statements (token :: after)) :
    Takes (openBody inner around ends) (.blockEnd :: before) statements (token :: after) := by
  refine (takes_skip_of_not rfl).bind ((takes_expect rfl).bind (h.bind (takes_peek.bind ?_)))
  exact takes_pure statements

theorem takes_wholeBody {ending : String} {token : Token}
    (h : Takes (inner around (some [ending])) before statements (token :: after)) :
    Takes (wholeBody inner around ending) (.blockEnd :: before) statements after :=
  (takes_openBody h).bind ((takes_advance token).bind (takes_pure statements))

/-- The tokens of a choice behind its first tag, up to its last word. -/
def choiceTokens (c : Choice) : List Token :=
  tokensFrom c.body.text c.body.links ++
    ((match c.otherwise? with
      | some other => .blockBegin :: .name "else" :: .blockEnd ::
          tokensFrom other.text other.links
      | none => []) ++ [.blockBegin, .name "endif"])

theorem linkTokens_choice (c : Choice) :
    linkTokens c.links ++ ((Mark.tag .done).tokens ++ rest) =
      .blockBegin :: .name "if" :: .name c.name :: .blockEnd ::
        (choiceTokens c ++ .blockEnd :: rest) := by
  obtain ⟨name, body, otherwise?⟩ := c
  rw [Choice.links, linkTokens_append, linkTokens_behind, choiceTokens]
  cases otherwise? with
  | none => simp [linkTokens, Mark.tokens, Tag.words]
  | some other => simp [linkTokens_behind, Mark.tokens, Tag.words]

theorem takes_branches {c : Choice} (depth n : Nat)
    (hexpression : nested.expression = choice deeper) (hn : Named FreeName c.links) :
    Takes (branches nested (bodyReader nested (depth + 1)) around (n + 1))
      (.name c.name :: .blockEnd :: (choiceTokens c ++ rest)) c.statement rest := by
  have hbody := hn.body
  have hother := hn.other
  have hend : Token.blockEnd.IsEnd := Or.inr rfl
  refine (takes_tupleOf (takes_disjunction hn.condition hend) hend).bind ?_
  obtain ⟨name, body, otherwise?⟩ := c
  rw [choiceTokens, List.append_assoc, List.append_assoc]
  cases otherwise? with
  | none =>
      have hread := @takes_bodyReader nested deeper around rest ["elif", "else", "endif"] "endif"
        body depth hexpression hbody (by decide)
      refine (takes_openBody hread).bind ?_
      refine (takes_skip_of_not (by decide)).bind ((takes_skip_of_not (by decide)).bind ?_)
      exact (takes_advance _).bind (takes_pure _)
  | some other =>
      have hread := @takes_bodyReader nested deeper around
        (.blockEnd :: (tokensFrom other.text other.links ++
          .blockBegin :: .name "endif" :: rest))
        ["elif", "else", "endif"] "else" body depth hexpression hbody (by decide)
      have hrest := @takes_bodyReader nested deeper around rest ["endif"] "endif" other depth
        hexpression (hother other rfl) (by decide)
      refine (takes_openBody hread).bind ?_
      refine (takes_skip_of_not (by decide)).bind ((takes_skip (by decide)).bind ?_)
      exact (takes_wholeBody hrest).bind (takes_pure _)

theorem takes_statement {c : Choice} (depth : Nat)
    (hexpression : nested.expression = choice deeper) (hn : Named FreeName c.links) :
    Takes (statement nested (bodyReader nested (depth + 1)) around)
      (.name "if" :: .name c.name :: .blockEnd :: (choiceTokens c ++ rest)) [c.statement] rest := by
  refine takes_line fun line => takes_peek.bind ((takes_advance _).bind ?_)
  refine Takes.bind (takes_get fun cursor _ => ?_) (takes_pure _)
  exact takes_branches depth _ hexpression hn

theorem Completes.choice {c : Choice} {depth : Nat}
    (hexpression : nested.expression = choice deeper) (hn : Named FreeName c.links)
    (h : Completes nested (bodyReader nested (depth + 1)) around none (c.statement :: sofar) before
      statements after) :
    Completes nested (bodyReader nested (depth + 1)) around none sofar
      (linkTokens c.links ++ ((Mark.tag .done).tokens ++ before)) statements after := by
  rw [linkTokens_choice]
  intro n hlength
  obtain ⟨n, rfl⟩ := Nat.exists_eq_succ_of_ne_zero (Nat.ne_of_gt (Nat.zero_lt_of_lt hlength))
  have hfuel : before.length < n := by
    simp only [List.length_cons, List.length_append] at hlength
    omega
  have hending : Takes (atEnding none) (.name "if" :: .name c.name :: .blockEnd ::
      (choiceTokens c ++ .blockEnd :: before)) false _ := takes_peek.bind (takes_pure false)
  refine takes_peek.bind ((takes_advance .blockBegin).bind (hending.bind ?_))
  exact (takes_statement depth hexpression hn).bind ((takes_expect rfl).bind (h n hfuel))

/-! ## Forms -/

/-- The choices of a form with the bodies behind them. -/
theorem Completes.choices {depth : Nat} (hexpression : nested.expression = Reader.choice deeper)
    {choices : List (Choice × Body)}
    (hn : Named FreeName (choices.flatMap fun (c, next) => c.links ++ next.behind .done)) :
    Completes nested (bodyReader nested (depth + 1)) around none sofar
      (linkTokens (choices.flatMap fun (c, next) => c.links ++ next.behind .done))
      (sofar.reverse ++ choices.flatMap fun (c, next) => c.statement :: next.statements) [] := by
  induction choices generalizing sofar with
  | nil => exact completes_nil (List.append_nil _)
  | cons head choices ih =>
      obtain ⟨c, next⟩ := head
      rw [List.flatMap_cons] at hn ⊢
      rw [linkTokens_append, linkTokens_append, linkTokens_behind, List.append_assoc,
        List.append_assoc]
      refine Completes.choice hexpression hn.front.front (Completes.body hexpression
        hn.front.back.behind ?_)
      have ih := @ih (next.statements.reverse ++ c.statement :: sofar) hn.back
      simpa using ih

theorem completes_form {f : Form} {depth : Nat} (hexpression : nested.expression = choice deeper)
    (hn : Named FreeName f.links) :
    Completes nested (bodyReader nested (depth + 1)) around none []
      (tokensFrom f.first.text f.links) f.program [] := by
  have htokens : tokensFrom f.first.text f.links = tokensFrom f.first.text f.first.links ++
      linkTokens (f.rest.flatMap fun (c, next) => c.links ++ next.behind .done) := by
    rw [tokensFrom, Form.links, linkTokens_append, ← List.append_assoc, ← tokensFrom]
  rw [htokens]
  refine Completes.body hexpression hn.front ?_
  have hchoices := @Completes.choices nested deeper around (f.first.statements.reverse ++ [])
    depth hexpression f.rest hn.back
  rw [List.append_nil, List.reverse_reverse] at hchoices
  rw [List.append_nil]
  exact hchoices

end Reader

/-- The program of the tokens of a form. -/
theorem programOf_form {f : Form} {stream : TokenStream}
    (h : stream.Holds (tokensFrom f.first.text f.links)) (hn : Named FreeName f.links) :
    programOf stream = .ok f.program := by
  have hcursor : Cursor.ofStream stream = .ok ⟨1, stream.tokens, stream.fault?⟩ :=
    Cursor.settle_of_sound h.sound
  have hread : Reader.Takes (bodyReader (nestedReaders expressionLimit) bodyLimit .outermost none)
      (tokensFrom f.first.text f.links) f.program [] := by
    refine Reader.takes_get fun c hc => ?_
    refine Reader.completes_form rfl hn _ ?_
    rw [← hc.tokens, List.length_map]
    exact Nat.lt_succ_self _
  obtain ⟨c, hrun, -⟩ := hread ⟨1, stream.tokens, stream.fault?⟩ ⟨h.sound, h.tokens⟩
  rw [programOf, hcursor]
  show (bodyReader (nestedReaders expressionLimit) bodyLimit .outermost none
    ⟨1, stream.tokens, stream.fault?⟩ >>= fun parsed => pure parsed.1) = _
  rw [hrun]
  rfl

end Scaffold.Template
