import Scaffold.Proofs.Template.Parsing
import Scaffold.Proofs.Text.Identifier
import Scaffold.Template.Compile

/-!
# Compiling forms

The program of a form has no blocks, passes all checks and lets nothing escape, and so a form
compiles.
-/

namespace Scaffold.Template

open Text

/-! ## Checks -/

/-- A statement that passes the checks wherever it stands, and holds no blocks. -/
structure Stmt.IsSafe (s : Stmt) : Prop where
  passes : ∀ place, s.check place = .ok ()
  stays : s.isTakeover = false
  blocks : s.blocks = []

theorem checkBody_of_safe {statements : List Stmt} (h : ∀ s ∈ statements, s.IsSafe)
    (place : Place) : checkBody place statements = .ok () := by
  induction statements with
  | nil => rw [checkBody]
  | cons s rest ih =>
      have hs := h s List.mem_cons_self
      rw [checkBody, hs.stays, hs.passes place]
      simp only [Bool.and_false, Bool.false_eq_true, if_false]
      exact ih (fun t ht => h t (List.mem_cons_of_mem s ht))

theorem blocksOf_of_safe {statements : List Stmt} (h : ∀ s ∈ statements, s.IsSafe) :
    blocksOf statements = [] := by
  induction statements with
  | nil => rw [blocksOf]
  | cons s rest ih =>
      rw [blocksOf, (h s List.mem_cons_self).blocks,
        ih (fun t ht => h t (List.mem_cons_of_mem s ht)), List.append_nil]

theorem textStatements_safe {text : List Char} : ∀ s ∈ textStatements text, s.IsSafe := by
  intro s hs
  unfold textStatements at hs
  split at hs
  · exact absurd hs List.not_mem_nil
  · rw [List.mem_singleton.mp hs]
    exact ⟨fun place => by rw [Stmt.check], rfl, by rw [Stmt.blocks]⟩

theorem Body.statements_safe {b : Body} : ∀ s ∈ b.statements, s.IsSafe := by
  intro s hs
  rcases List.mem_append.mp hs with hs | hs
  · exact textStatements_safe s hs
  · obtain ⟨⟨p, text⟩, -, hs⟩ := List.mem_flatMap.mp hs
    rcases List.mem_cons.mp hs with rfl | hs
    · refine ⟨fun place => ?_, rfl, by rw [Stmt.blocks]⟩
      rw [Stmt.check, Expr.check]
      exact ite_self _
    · exact textStatements_safe s hs

theorem Choice.statement_safe (c : Choice) : c.statement.IsSafe := by
  have hother : ∀ s ∈ c.otherStatements, s.IsSafe := by
    unfold Choice.otherStatements
    cases c.otherwise? with
    | none => exact fun s hs => absurd hs List.not_mem_nil
    | some other => exact Body.statements_safe
  refine ⟨fun place => ?_, rfl, ?_⟩
  · rw [Choice.statement, Stmt.check, Expr.check, checkBody_of_safe Body.statements_safe,
      checkBody_of_safe hother]
    rfl
  · rw [Choice.statement, Stmt.blocks, blocksOf_of_safe Body.statements_safe,
      blocksOf_of_safe hother, List.append_nil]

theorem Form.program_safe (f : Form) : ∀ s ∈ f.program, s.IsSafe := by
  intro s hs
  rcases List.mem_append.mp hs with hs | hs
  · exact Body.statements_safe s hs
  · obtain ⟨⟨c, next⟩, -, hs⟩ := List.mem_flatMap.mp hs
    rcases List.mem_cons.mp hs with rfl | hs
    · exact c.statement_safe
    · exact Body.statements_safe s hs

theorem Form.check_program (f : Form) : Program.check f.program = .ok () := by
  rw [Program.check, blocksOf_of_safe f.program_safe, checkBody_of_safe f.program_safe]
  rfl

/-! ## Escapes -/

theorem bodyEscapes_eq_nil {p : CodePlace} {statements : List Stmt}
    (h : ∀ s ∈ statements, s.escapes p = []) : bodyEscapes p statements = [] := by
  induction statements with
  | nil => rw [bodyEscapes]
  | cons s rest ih =>
      rw [bodyEscapes, h s List.mem_cons_self, ih fun t ht => h t (List.mem_cons_of_mem s ht),
        List.append_nil]

/-- The value of a name is not known before the run. -/
theorem Expr.allEscapes_name (name : String) : (Expr.name name).allEscapes = [] := by
  have unsettled : (Expr.name name).settled? = none := by
    rw [settled?, isConstant]
    rfl
  rw [allEscapes, escapes, escapesOr, unsettled, brackets]
  rfl

theorem textStatements_escapes {text : List Char} (p : CodePlace) :
    ∀ s ∈ textStatements text, s.escapes p = [] := by
  intro s hs
  unfold textStatements at hs
  split at hs
  · exact absurd hs List.not_mem_nil
  · rw [List.mem_singleton.mp hs, Stmt.escapes]

theorem Body.statements_escapes {b : Body} (p : CodePlace) :
    ∀ s ∈ b.statements, s.escapes p = [] := by
  intro s hs
  rcases List.mem_append.mp hs with hs | hs
  · exact textStatements_escapes p s hs
  · obtain ⟨⟨placeholder, text⟩, -, hs⟩ := List.mem_flatMap.mp hs
    rcases List.mem_cons.mp hs with rfl | hs
    · rw [Stmt.escapes, Expr.allEscapes_name]
    · exact textStatements_escapes p s hs

theorem Choice.statement_escapes (c : Choice) : c.statement.escapes .outermost = [] := by
  have hother : ∀ p, bodyEscapes p c.otherStatements = [] := by
    intro p
    unfold Choice.otherStatements
    cases c.otherwise? with
    | none => rw [bodyEscapes]
    | some other => exact bodyEscapes_eq_nil (Body.statements_escapes p)
  rw [Choice.statement, Stmt.escapes, Expr.allEscapes_name,
    bodyEscapes_eq_nil (Body.statements_escapes _), hother]
  rfl

theorem Form.escape?_program (f : Form) : Program.escape? f.program = none := by
  have none : bodyEscapes .outermost f.program = [] := by
    refine bodyEscapes_eq_nil fun s hs => ?_
    rcases List.mem_append.mp hs with hs | hs
    · exact Body.statements_escapes _ s hs
    · obtain ⟨⟨c, next⟩, -, hs⟩ := List.mem_flatMap.mp hs
      rcases List.mem_cons.mp hs with rfl | hs
      · exact c.statement_escapes
      · exact Body.statements_escapes _ s hs
  rw [Program.escape?, none, blocksOf_of_safe f.program_safe]
  rfl

/-! ## Legible forms -/

/-- A form with marks that are well set, whose names are words and stand for themselves. -/
structure Form.Legible (f : Form) : Prop where
  words : Named (fun name => IsWord name.toList) f.links
  free : Named FreeName f.links
  set : wellSet true f.first.text f.links = true

/-- An identifier is read as one name. -/
theorem IsWord.of_identifier {word : List Char} (h : isIdentifier word = true) : IsWord word := by
  cases word with
  | nil => cases h
  | cons c rest =>
      rw [isIdentifier, Bool.and_eq_true] at h
      refine ⟨by rw [isIdentifier, h.1, h.2]; rfl, fun d hd => ?_, fun d hd => ?_⟩
      · rcases List.mem_cons.mp hd with rfl | hd
        · exact isNamePart_of_start h.1
        · rw [isNamePart, List.all_eq_true.mp h.2 d hd]
          rfl
      · cases hd
        refine ⟨isBlank_of_start h.1, ?_⟩
        rw [isDigit, digitValue?_of_start h.1]
        rfl

theorem IsUnknown.freeName {name : String} (h : IsUnknown name) : FreeName name := by
  constructor
  · unfold Reader.constant?
    split
    all_goals first | rfl | exact absurd h.free (by decide)
  · rintro rfl
    exact absurd h.free (by decide)

theorem Form.WellSpelled.legible {f : Form} (ws : f.WellSpelled) : f.Legible := by
  have hfields : ∀ name ∈ FillData.fieldNames,
      isIdentifier name.toList = true ∧ Reader.constant? name = none ∧ name ≠ "not" := by
    decide +kernel
  refine ⟨fun link hl name hn => ?_, fun link hl name hn => ?_, ws.set⟩
  · refine IsWord.of_identifier ?_
    rcases ws.named link hl name hn with hf | hu
    · exact (hfields name hf).1
    · exact hu.identifier
  · rcases ws.named link hl name hn with hf | hu
    · exact ⟨(hfields name hf).2.1, (hfields name hf).2.2⟩
    · exact hu.freeName

theorem trimLinks_marks (links : Links) :
    (trimLinks links).map (·.1) = links.map (·.1) := by
  induction links with
  | nil => rfl
  | cons link rest ih => rw [trimLinks, List.map_cons, List.map_cons, ih]

/-- The form with one kind of line end whose tags have taken their lines. -/
theorem Form.exists_trimmed (f : Form) :
    ∃ f' : Form, f'.first.text =
        cut false (tagFollows (normalizeLinks f.links)) (normalizeNewlines f.first.text) ∧
      f'.links = trimLinks (normalizeLinks f.links) := by
  apply Form.exists_links
  rw [trimLinks_marks, normalizeLinks, List.map_map]
  rfl

/-- A legible form is compiled to the program of the form that trimming leaves. -/
theorem Form.Legible.compile {f f' : Form} (h : f.Legible)
    (htext : f'.first.text =
      cut false (tagFollows (normalizeLinks f.links)) (normalizeNewlines f.first.text))
    (hlinks : f'.links = trimLinks (normalizeLinks f.links)) :
    compile (String.ofList f.source) = .ok f'.program := by
  have hlex := f.lex_source h.words h.set
  have hfree : Named FreeName f'.links := by
    refine Named.of_marks ?_ h.free
    rw [hlinks, trimLinks_marks, normalizeLinks, List.map_map]
    rfl
  rw [← htext, ← hlinks] at hlex
  rw [Template.compile, programOf_form hlex hfree]
  change ((Program.check f'.program).mapError Refusal.fault >>= _) = _
  rw [f'.check_program, f'.escape?_program]
  rfl

end Scaffold.Template
