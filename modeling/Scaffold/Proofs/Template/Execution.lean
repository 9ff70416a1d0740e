import Scaffold.Proofs.Template.Parsing
import Scaffold.Proofs.Template.Reach
import Scaffold.Proofs.Template.Trimming
import Scaffold.Template.Evaluate

/-!
# Running forms

The program of a form writes its texts and fields one after the other, and of each choice the body
that the data chooses.  At the first name that is no field it stops, and what it wrote before stays.
-/

namespace Scaffold

namespace Template

/-! ## The parts of a form -/

variable (data : FillData)

def Body.symbols (b : Body) : List Symbol :=
  b.text.map .char ++ b.placed.flatMap fun (p, text) => .place p.name :: text.map .char

/-- The condition, and the body that the data chooses. -/
def Choice.trace (c : Choice) : List Symbol :=
  .tag (.choose c.name) ::
    if data.holds c.name then c.body.symbols
    else
      match c.otherwise? with
      | some other => other.symbols
      | none => []

def Form.trace (f : Form) : List Symbol :=
  f.first.symbols ++ f.rest.flatMap fun (c, next) => c.trace data ++ next.symbols

theorem reachedFrom_body (keep : Bool) (b : Body) (rest : Links) :
    reachedFrom data keep b.text (b.links ++ rest) =
      (if keep then b.symbols else []) ++ reachedFrom data keep [] rest := by
  obtain ⟨text, placed⟩ := b
  induction placed generalizing text with
  | nil =>
      cases rest with
      | nil => cases keep <;> simp [Body.links, Body.symbols, reachedFrom]
      | cons link rest =>
          obtain ⟨mark, next⟩ := link
          cases mark <;> cases keep <;> simp [Body.links, Body.symbols, reachedFrom]
  | cons head placed ih =>
      obtain ⟨p, next⟩ := head
      have ih := ih next
      simp only [Body.links, Body.symbols] at ih
      simp only [Body.links, Body.symbols, List.map_cons, List.cons_append, reachedFrom, ih]
      cases keep <;> simp

theorem reachedFrom_behind (keep : Bool) (b : Body) (t : Tag) (rest : Links) :
    reachedFrom data keep [] (b.behind t ++ rest) =
      t.tested ++ ((if t.keeps data keep then b.symbols else []) ++
        reachedFrom data (t.keeps data keep) [] rest) := by
  rw [Body.behind, List.cons_append, reachedFrom, reachedFrom_body, List.map_nil, ite_self,
    List.nil_append]

theorem reachedFrom_choice (c : Choice) (next : Body) (rest : Links) :
    reachedFrom data true [] (c.links ++ (next.behind .done ++ rest)) =
      c.trace data ++ (next.symbols ++ reachedFrom data true [] rest) := by
  obtain ⟨name, body, otherwise?⟩ := c
  rw [Choice.links, List.append_assoc, reachedFrom_behind, Choice.trace]
  cases otherwise? with
  | none =>
      rw [List.nil_append, reachedFrom_behind]
      cases h : data.holds name <;> simp [Tag.keeps, Tag.tested, h]
  | some other =>
      rw [reachedFrom_behind, reachedFrom_behind]
      cases h : data.holds name <;> simp [Tag.keeps, Tag.tested, h]

/-- What trimming leaves of a form is come to part by part. -/
theorem reachedFrom_form (f : Form) :
    reachedFrom data true f.first.text f.links = f.trace data := by
  have hrest : ∀ choices : List (Choice × Body),
      reachedFrom data true [] (choices.flatMap fun (c, next) => c.links ++ next.behind .done) =
        choices.flatMap fun (c, next) => c.trace data ++ next.symbols := by
    intro choices
    induction choices with
    | nil => rfl
    | cons head choices ih =>
        rw [List.flatMap_cons, List.flatMap_cons, List.append_assoc, reachedFrom_choice, ih,
          List.append_assoc]
  rw [Form.links, reachedFrom_body, hrest]
  rfl

/-! ## Runs -/

namespace Run

variable {α β : Type}

/-- The run has this result and leaves the machine so. -/
def Ends (r : Run α) (m : Machine) (result : Except Trouble α) (m' : Machine) : Prop :=
  r.run.run m = (result, m')

theorem ends_pure (a : α) (m : Machine) : Ends (pure a) m (.ok a) m := rfl

variable {r : Run α} {f : α → Run β} {m m' m'' : Machine}

theorem Ends.bind {a : α} {result : Except Trouble β} (h : Ends r m (.ok a) m')
    (hf : Ends (f a) m' result m'') : Ends (r >>= f) m result m'' := by
  unfold Ends at h
  rw [Ends, ExceptT.run_bind, StateT.run_bind, h]
  exact hf

/-- What follows trouble is not run. -/
theorem Ends.stop {trouble : Trouble} (h : Ends r m (.error trouble) m') :
    Ends (r >>= f) m (.error trouble) m' := by
  unfold Ends at h
  rw [Ends, ExceptT.run_bind, StateT.run_bind, h]
  rfl

end Run

/-- The machine is at the outermost level of a program with these names, and knows the fields. -/
structure Machine.Knows (m : Machine) (names : List String) (data : FillData) : Prop where
  frames : m.frames = #[[("self", .blocks)]]
  exports : m.exports = []
  context : ∃ address, m.context = data.context ++ globals address
  aliases : m.aliases = Run.aliasesOf names

/-- The machine with more output. -/
def Machine.wrote (m : Machine) (text : List Char) : Machine :=
  { m with out := m.out ++ String.ofList text }

theorem Machine.wrote_nil (m : Machine) : m.wrote [] = m := by
  rw [Machine.wrote, String.ofList_nil, String.append_empty]

theorem Machine.wrote_wrote (m : Machine) (front back : List Char) :
    (m.wrote front).wrote back = m.wrote (front ++ back) := by
  rw [Machine.wrote, Machine.wrote, Machine.wrote, String.ofList_append, ← String.append_assoc]

variable {names : List String}

theorem Machine.Knows.wrote {m : Machine} (h : m.Knows names data) (text : List Char) :
    (m.wrote text).Knows names data :=
  ⟨h.frames, h.exports, h.context, h.aliases⟩

/-! ## Names -/

/-- Among these names, a name stands for what the data has under it, and else for nothing. -/
structure FromData (names : List String) (name : String) : Prop where
  notSelf : name ≠ "self"
  stands : ∀ (data : FillData) (address : Nat),
    (data.context ++ globals address).lookup (((Run.aliasesOf names).lookup name).getD name) =
      data.context.lookup name

/-- What stands for a name is among the names, with the same plain form. -/
theorem Run.mem_of_alias {name other : String} (h : (aliasesOf names).lookup name = some other) :
    other ∈ names ∧ Text.plainName other = Text.plainName name := by
  obtain ⟨front, back, split, -⟩ := List.lookup_eq_some_iff.mp h
  have listed : (name, other) ∈ aliasesOf names := by simp [split]
  obtain ⟨name', -, hlast⟩ := List.mem_filterMap.mp listed
  obtain ⟨last, hl, hpair⟩ := Option.bind_eq_some_iff.mp hlast
  split at hpair
  · cases hpair
  · cases hpair
    obtain ⟨hm, same⟩ := List.mem_filter.mp (List.mem_of_getLast? hl)
    exact ⟨List.mem_eraseDups.mp hm, of_decide_eq_true same⟩

theorem FillData.lookup_of_not_field (data : FillData) {name : String}
    (h : name ∉ FillData.fieldNames) :
    data.context.lookup name = none := by
  refine List.lookup_eq_none_iff.mpr (fun entry he => bne_iff_ne.mpr ?_)
  rintro rfl
  exact h (show entry.1 ∈ data.context.map (·.1) from List.mem_map_of_mem he)

/-- A field has no meaning beside the data, and is plain. -/
theorem FillData.plain_field {name : String} (h : name ∈ FillData.fieldNames) :
    name ≠ "self" ∧ name ∉ reservedNames ∧ Text.plainName name = name := by
  have hfields : ∀ name ∈ FillData.fieldNames,
      name ≠ "self" ∧ name ∉ reservedNames ∧ Text.plainName name = name := by
    decide +kernel
  exact hfields name h

theorem lookup_globals {name : String} (h : name ∉ reservedNames) (address : Nat) :
    (globals address).lookup name = none := by
  have hglobals : ∀ key ∈ (globals address).map (·.1), key ∈ reservedNames := by
    change ∀ key ∈ ["range", "dict", "lipsum", "cycler", "joiner", "namespace"], _
    decide
  refine List.lookup_eq_none_iff.mpr (fun entry he => bne_iff_ne.mpr ?_)
  rintro rfl
  exact h (hglobals _ (List.mem_map_of_mem he))

/-- Names that stand for nothing but what the data has under them. -/
theorem not_global_of_known {name : String} (h : name ∈ FillData.fieldNames ∨ IsUnknown name) :
    name ≠ "self" ∧ ∀ address, (globals address).lookup name = none := by
  rcases h with hf | hu
  · exact ⟨(FillData.plain_field hf).1, lookup_globals (FillData.plain_field hf).2.1⟩
  · refine ⟨?_, lookup_globals hu.free⟩
    rintro rfl
    exact hu.free (by decide)

/-- Two spellings of one name are the same, or neither is a field. -/
theorem SpelledApart.eq_or_not_field (apart : SpelledApart names) {name other : String}
    (h : name ∈ names) (hother : other ∈ names)
    (same : Text.plainName other = Text.plainName name) :
    other = name ∨ other ∉ FillData.fieldNames ∧ name ∉ FillData.fieldNames := by
  by_cases hf : name ∈ FillData.fieldNames
  · rw [(FillData.plain_field hf).2.2] at same
    by_cases hf' : other ∈ FillData.fieldNames
    · rw [(FillData.plain_field hf').2.2] at same
      exact Or.inl same
    · have unknown := apart other hother hf'
      rw [same] at unknown
      exact absurd hf (unknown h)
  · refine Or.inr ⟨fun hf' => ?_, hf⟩
    have unknown := apart name h hf
    rw [← same, (FillData.plain_field hf').2.2] at unknown
    exact unknown hother hf'

/-- Fields, and unknown names that are no other spellings of them, stand for what the data has. -/
theorem FromData.of_apart (known : ∀ name ∈ names, name ∈ FillData.fieldNames ∨ IsUnknown name)
    (apart : SpelledApart names) {name : String} (h : name ∈ names) : FromData names name := by
  refine ⟨(not_global_of_known (known name h)).1, fun data address => ?_⟩
  have outer : ((Run.aliasesOf names).lookup name).getD name ∈ names ∧
      Text.plainName (((Run.aliasesOf names).lookup name).getD name) = Text.plainName name := by
    cases stands : (Run.aliasesOf names).lookup name with
    | none => exact ⟨h, rfl⟩
    | some other => exact Run.mem_of_alias stands
  generalize ((Run.aliasesOf names).lookup name).getD name = other at outer
  obtain ⟨hother, same⟩ := outer
  rw [List.lookup_append, (not_global_of_known (known other hother)).2 address, Option.or_none]
  rcases apart.eq_or_not_field h hother same with rfl | ⟨hn', hn⟩
  · rfl
  · rw [FillData.lookup_of_not_field data hn', FillData.lookup_of_not_field data hn]

variable {data}

theorem Machine.Knows.resolve? {m : Machine} (hm : m.Knows names data) {name : String}
    (h : FromData names name) : Run.resolve? m [0] name = data.context.lookup name := by
  have hframe : (m.frames[0]?.getD []).lookup name = none := by
    have hne : (name == "self") = false := beq_false_of_ne h.notSelf
    rw [hm.frames]
    simp [List.lookup_cons, hne]
  have hbinding : Run.findBinding m name [0] = none := by
    rw [Run.findBinding, hframe]
    rfl
  have houter : Run.outerName m [0] name = ((Run.aliasesOf names).lookup name).getD name := by
    rw [← hm.aliases]
    rfl
  obtain ⟨address, context⟩ := hm.context
  rw [Run.resolve?, hbinding, hm.exports, context, houter, h.stands]
  rfl

theorem Run.ends_lookupName {name : String} (h : FromData names name) {m : Machine}
    (hm : m.Knows names data) :
    Ends (lookupName [0] name) m
      (.ok ((data.context.lookup name).getD (.undefined (.name name) true))) m := by
  have hget : Ends (get : Run Machine) m (.ok m) m := rfl
  refine hget.bind ?_
  rw [hm.resolve? h]
  cases data.context.lookup name <;> exact ends_pure _ m

/-- A field has a value, which shows and holds as the data says. -/
theorem Run.ends_field {name : String} (h : FromData names name)
    (hf : name ∈ FillData.fieldNames) {m : Machine} (hm : m.Knows names data) :
    ∃ v, Ends (lookupName [0] name) m (.ok v) m ∧
      Ends (display v) m (.ok (String.ofList (data.shown name))) m ∧
      Ends (lift v.truth) m (.ok (data.holds name)) m := by
  have hlookup := Run.ends_lookupName h hm
  have hfield : (∃ s, data.context.lookup name = some (.text s)) ∨
      ∃ b, data.context.lookup name = some (.bool b) := by
    simp only [FillData.fieldNames, List.mem_cons, List.not_mem_nil, or_false] at hf
    rcases hf with rfl | rfl | rfl | rfl | rfl | rfl | rfl | rfl
    all_goals first | exact Or.inl ⟨_, rfl⟩ | exact Or.inr ⟨_, rfl⟩
  rcases hfield with ⟨s, hv⟩ | ⟨b, hv⟩
  · rw [hv] at hlookup
    refine ⟨.text s, hlookup, ?_, ?_⟩
    · rw [FillData.shown, hv, String.ofList_toList]
      rfl
    · have hholds : data.holds name = (s != "") := by
        rw [FillData.holds, hv]
        by_cases hs : s = "" <;> simp [hs]
      rw [hholds]
      rfl
  · rw [hv] at hlookup
    refine ⟨.bool b, hlookup, ?_, ?_⟩
    · rw [FillData.shown, hv]
      cases b <;> rfl
    · rw [FillData.holds, hv]
      rfl

/-- Another name has no value. -/
theorem Run.ends_unknown {name : String} (h : FromData names name) (hf : name ∉ FillData.fieldNames)
    {m : Machine} (hm : m.Knows names data) :
    Ends (lookupName [0] name) m (.ok (.undefined (.name name) true)) m := by
  have hlookup := Run.ends_lookupName h hm
  rw [FillData.lookup_of_not_field data hf] at hlookup
  exact hlookup

/-! ## Symbols -/

/-- How a run over symbols ends: the first name that is no field is trouble. -/
def verdict (symbols : List Symbol) : Except Trouble Unit :=
  match firstUnknown? symbols with
  | some name => .error (.missing (.name name))
  | none => .ok ()

/-- The run shows symbols and stops at the first name that is no field. -/
def Run.Follows (names : List String) (data : FillData) (r : Run Unit) (symbols : List Symbol) :
    Prop :=
  ∀ m : Machine, m.Knows names data →
    Ends r m (verdict symbols) (m.wrote (shownBefore data symbols))

theorem Run.follows_pure : Follows names data (pure ()) [] := by
  intro m _
  exact congrArg (Prod.mk _) m.wrote_nil.symm

theorem Run.Follows.bind {r next : Run Unit} {front back : List Symbol}
    (hr : Follows names data r front) (hnext : Follows names data next back) :
    Follows names data (r >>= fun _ => next) (front ++ back) := by
  intro m hm
  have hfront := hr m hm
  rw [verdict, firstUnknown?_append]
  cases h : firstUnknown? front with
  | some name =>
      rw [verdict, h] at hfront
      rw [shownBefore_append_of_unknown data h]
      exact hfront.stop
  | none =>
      rw [verdict, h] at hfront
      rw [shownBefore_append_of_known data h, ← Machine.wrote_wrote]
      exact hfront.bind (hnext _ (hm.wrote data _))

variable {calls : Calls}

theorem follows_textStatements {text : List Char} {statements : List Stmt} {rest : List Symbol}
    (h : Run.Follows names data (execAll calls [0] true statements) rest) :
    Run.Follows names data (execAll calls [0] true (textStatements text ++ statements))
      (text.map .char ++ rest) := by
  unfold textStatements
  cases text with
  | nil => exact h
  | cons c text =>
      have htext : Run.Follows names data (exec calls [0] true (.text (String.ofList (c :: text))))
          ((c :: text).map .char) := by
        intro m _
        have hknown := firstUnknown?_chars (c :: text)
        rw [exec, verdict, hknown, shownBefore_of_known data hknown, shown_chars]
        rfl
      exact htext.bind h

theorem follows_print {name : String} (h : FromData names name) :
    Run.Follows names data (exec calls [0] true (.print (.name name))) [.place name] := by
  intro m hm
  rw [exec, eval]
  by_cases hf : name ∈ FillData.fieldNames
  · have hknown : firstUnknown? [.place name] = none := by
      simp [firstUnknown?, Symbol.unknown?, hf]
    obtain ⟨v, hlookup, hshow, -⟩ := Run.ends_field h hf hm
    rw [verdict, hknown, shownBefore_of_known data hknown, List.flatMap_singleton]
    exact hlookup.bind (hshow.bind rfl)
  · have hunknown : firstUnknown? [.place name] = some name := by
      simp [firstUnknown?, Symbol.unknown?, hf]
    have hnothing : shownBefore data [.place name] = [] := by
      simp [shownBefore, Symbol.unknown?, hf]
    rw [verdict, hunknown, hnothing, m.wrote_nil]
    exact (Run.ends_unknown h hf hm).bind (Run.Ends.stop rfl)

theorem follows_condition {name : String} (h : FromData names name) {body otherwise : Run Unit}
    {chosen : List Symbol}
    (hchosen : Run.Follows names data (if data.holds name then body else otherwise) chosen) :
    Run.Follows names data
      (evalTruth calls [0] (.name name) >>= fun holds => if holds then body else otherwise)
      (.tag (.choose name) :: chosen) := by
  intro m hm
  rw [evalTruth, eval]
  by_cases hf : name ∈ FillData.fieldNames
  · have hverdict : verdict (.tag (.choose name) :: chosen) = verdict chosen := by
      simp [verdict, firstUnknown?, Symbol.unknown?, hf]
    have hshown : shownBefore data (.tag (.choose name) :: chosen) = shownBefore data chosen := by
      simp [shownBefore, Symbol.unknown?, Symbol.shown, hf]
    obtain ⟨v, hlookup, -, htruth⟩ := Run.ends_field h hf hm
    rw [hverdict, hshown]
    exact (hlookup.bind htruth).bind (hchosen m hm)
  · have hunknown : firstUnknown? (.tag (.choose name) :: chosen) = some name := by
      simp [firstUnknown?, Symbol.unknown?, hf]
    have hnothing : shownBefore data (.tag (.choose name) :: chosen) = [] := by
      simp [shownBefore, Symbol.unknown?, hf]
    rw [verdict, hunknown, hnothing, m.wrote_nil]
    exact Run.Ends.stop ((Run.ends_unknown h hf hm).bind rfl)

/-! ## Programs -/

theorem Body.follows {b : Body} (h : Named (FromData names) b.links) {statements : List Stmt}
    {rest : List Symbol} (hs : Run.Follows names data (execAll calls [0] true statements) rest) :
    Run.Follows names data (execAll calls [0] true (b.statements ++ statements))
      (b.symbols ++ rest) := by
  have hplaced : ∀ placed : List (Placeholder × List Char),
      (∀ q ∈ placed, FromData names q.1.name) →
      Run.Follows names data (execAll calls [0] true
          ((placed.flatMap fun (p, text) => .print (.name p.name) :: textStatements text) ++
            statements))
        ((placed.flatMap fun (p, text) => .place p.name :: text.map .char) ++ rest) := by
    intro placed hn
    induction placed with
    | nil => exact hs
    | cons head placed ih =>
        obtain ⟨p, text⟩ := head
        have ih := ih (fun q hq => hn q (List.mem_cons_of_mem _ hq))
        rw [List.flatMap_cons, List.flatMap_cons, List.append_assoc, List.append_assoc]
        exact (follows_print (hn (p, text) List.mem_cons_self)).bind (follows_textStatements ih)
  rw [Body.statements, Body.symbols, List.append_assoc, List.append_assoc]
  exact follows_textStatements (hplaced b.placed h.placed)

theorem Body.follows_alone {b : Body} (h : Named (FromData names) b.links) :
    Run.Follows names data (execAll calls [0] true b.statements) b.symbols := by
  have hb := @Body.follows data names calls b h [] [] Run.follows_pure
  rw [List.append_nil, List.append_nil] at hb
  exact hb

theorem Choice.follows {c : Choice} (h : Named (FromData names) c.links) :
    Run.Follows names data (exec calls [0] true c.statement) (c.trace data) := by
  rw [Choice.statement, exec, Choice.trace, Choice.otherStatements]
  refine follows_condition h.condition ?_
  cases data.holds c.name with
  | true => exact Body.follows_alone h.body
  | false =>
      cases hother : c.otherwise? with
      | none => exact Run.follows_pure
      | some other => exact Body.follows_alone (h.other other hother)

theorem Form.follows {f : Form} (h : Named (FromData names) f.links) :
    Run.Follows names data (execAll calls [0] true f.program) (f.trace data) := by
  have hrest : ∀ choices : List (Choice × Body),
      Named (FromData names) (choices.flatMap fun (c, next) => c.links ++ next.behind .done) →
      Run.Follows names data
        (execAll calls [0] true (choices.flatMap fun (c, next) => c.statement :: next.statements))
        (choices.flatMap fun (c, next) => c.trace data ++ next.symbols) := by
    intro choices hn
    induction choices with
    | nil => exact Run.follows_pure
    | cons head choices ih =>
        rw [List.flatMap_cons] at hn
        rw [List.flatMap_cons, List.flatMap_cons, List.append_assoc]
        exact (Choice.follows hn.front.front).bind (Body.follows hn.front.back.behind (ih hn.back))
  exact Body.follows h.front (hrest f.rest h.back)

theorem loadsOf_append (front back : List Stmt) :
    loadsOf (front ++ back) = loadsOf front ++ loadsOf back := by
  induction front with
  | nil => rw [loadsOf, List.nil_append, List.nil_append]
  | cons s front ih => rw [List.cons_append, loadsOf, loadsOf, ih, List.append_assoc]

theorem loadsOf_textStatements (text : List Char) : loadsOf (textStatements text) = [] := by
  unfold textStatements
  split
  · rw [loadsOf]
  · rw [loadsOf, loadsOf, Stmt.loads, List.append_nil]

theorem Body.loadsOf_statements (b : Body) : loadsOf b.statements = namesIn b.links := by
  have hplaced : ∀ placed : List (Placeholder × List Char),
      loadsOf (placed.flatMap fun (p, text) => .print (.name p.name) :: textStatements text) =
        namesIn (placed.map fun (p, text) => (.place p, text)) := by
    intro placed
    induction placed with
    | nil => rw [List.flatMap_nil, loadsOf]; rfl
    | cons head placed ih =>
        rw [List.flatMap_cons, List.cons_append, loadsOf, loadsOf_append, loadsOf_textStatements,
          ih, Stmt.loads, Expr.mentions]
        rfl
  rw [Body.statements, loadsOf_append, loadsOf_textStatements, List.nil_append, hplaced]
  rfl

theorem namesIn_append (front back : Links) :
    namesIn (front ++ back) = namesIn front ++ namesIn back :=
  List.flatMap_append

theorem Choice.loads_statement (c : Choice) : c.statement.loads = namesIn c.links := by
  rw [Choice.statement, Stmt.loads, Expr.mentions, Body.loadsOf_statements, Choice.links,
    namesIn_append, Choice.otherStatements]
  cases c.otherwise? with
  | none => rw [loadsOf]; rfl
  | some other => rw [Body.loadsOf_statements]; rfl

/-- A program loads the names of its form. -/
theorem Form.loadsOf_program (f : Form) : loadsOf f.program = f.names := by
  have hrest : ∀ choices : List (Choice × Body),
      loadsOf (choices.flatMap fun (c, next) => c.statement :: next.statements) =
        namesIn (choices.flatMap fun (c, next) => c.links ++ next.behind .done) := by
    intro choices
    induction choices with
    | nil => rw [List.flatMap_nil, loadsOf]; rfl
    | cons head choices ih =>
        rw [List.flatMap_cons, List.flatMap_cons, List.cons_append, loadsOf, loadsOf_append, ih,
          Choice.loads_statement, Body.loadsOf_statements, namesIn_append, namesIn_append,
          List.append_assoc]
        rfl
  rw [Form.program, loadsOf_append, Body.loadsOf_statements, hrest, Form.names, Form.links,
    namesIn_append]

/-- A form whose names come from the data writes what it comes to, up to the first name that is no
field. -/
theorem Form.run_program {f : Form} (h : ∀ name ∈ f.names, FromData f.names name)
    (data : FillData) (draws : Draws) :
    Program.run f.program data.context draws =
      ⟨String.ofList (shownBefore data (f.trace data)),
        (firstUnknown? (f.trace data)).map fun name => .missing (.name name)⟩ := by
  have hfollows : Run.Follows f.names data (execAll (callsAt callLimit) [0] true f.program)
      (f.trace data) := Form.follows (named_iff_namesIn.mpr h)
  have hrun := hfollows (start f.program data.context draws)
    ⟨rfl, rfl, ⟨_, rfl⟩, congrArg Run.aliasesOf f.loadsOf_program⟩
  unfold Run.Ends at hrun
  have hself : (data.context.lookup "self").isSome = false := rfl
  have hout : ((start f.program data.context draws).wrote (shownBefore data (f.trace data))).out =
      String.ofList (shownBefore data (f.trace data)) := String.empty_append
  rw [Program.run, hself, hrun, ← hout, verdict]
  cases firstUnknown? (f.trace data) <;> rfl

end Template

end Scaffold
