import Mathlib.Data.List.TakeWhile
import Scaffold.Proofs.Template.Shape
import Scaffold.Text.Classes
import Scaffold.Text.Plain

/-!
# What a form comes to

Gone through line by line for some data, a form comes to conditions and to the symbols of the lines
that are kept.  A name among them that is no field ends the output there; without such a name what
they show is the whole reference.
-/

namespace Scaffold.Template

/-! ## Unknown names -/

/-- Names with a meaning of their own: constants, the negation, and what every template knows. -/
def reservedNames : List String :=
  ["true", "True", "false", "False", "none", "None", "not", "self", "range", "dict", "lipsum",
    "cycler", "joiner", "namespace"]

/-- Identifiers that are neither fields nor reserved. -/
structure IsUnknown (name : String) : Prop where
  identifier : Text.isIdentifier name.toList = true
  noField : name ∉ FillData.fieldNames
  free : name ∉ reservedNames

instance (name : String) : Decidable (IsUnknown name) :=
  decidable_of_iff
    (Text.isIdentifier name.toList = true ∧ name ∉ FillData.fieldNames ∧ name ∉ reservedNames)
    ⟨fun ⟨identifier, noField, free⟩ => ⟨identifier, noField, free⟩,
      fun h => ⟨h.identifier, h.noField, h.free⟩⟩

/-- The documented templates, with unknown names beside the fields. -/
structure Form.WellSpelled (f : Form) : Prop where
  named : ∀ link ∈ f.links, ∀ name ∈ link.1.names, name ∈ FillData.fieldNames ∨ IsUnknown name
  set : wellSet true f.first.text f.links = true

theorem Form.WellFormed.wellSpelled {f : Form} (wf : f.WellFormed) : f.WellSpelled :=
  ⟨fun link hl name hn => Or.inl (wf.known link hl name hn), wf.set⟩

/-- No unknown name among these is another spelling of a field among them.  A program would keep
both in one variable. -/
def SpelledApart (names : List String) : Prop :=
  ∀ name ∈ names, name ∉ FillData.fieldNames →
    Text.plainName name ∈ names → Text.plainName name ∉ FillData.fieldNames

instance (names : List String) : Decidable (SpelledApart names) :=
  inferInstanceAs (Decidable (∀ name ∈ names, _))

theorem Form.WellSpelled.named_names {f : Form} (ws : f.WellSpelled) :
    ∀ name ∈ f.names, name ∈ FillData.fieldNames ∨ IsUnknown name :=
  named_iff_namesIn.mp ws.named

theorem Form.WellFormed.spelledApart {f : Form} (wf : f.WellFormed) : SpelledApart f.names :=
  fun name hn unknown => absurd (named_iff_namesIn.mp wf.known name hn) unknown

/-! ## Reached symbols -/

/-- A condition has its place among the symbols; the other tags test nothing. -/
def Tag.tested : Tag → List Symbol
  | choose name => [.tag (.choose name)]
  | otherwise | done => []

/-- The symbols that are come to in lines: those of the kept lines, and the conditions. -/
def reachedLines (data : FillData) (keep : Bool) : List (List Symbol) → List Symbol
  | [] => []
  | line :: rest =>
      match line.findSome? Symbol.tag? with
      | some t => t.tested ++ reachedLines data (t.keeps data keep) rest
      | none => (if keep then line else []) ++ reachedLines data keep rest

/-- The name in a symbol, if it is no field. -/
def Symbol.unknown? : Symbol → Option String
  | place name | tag (.choose name) => if name ∈ FillData.fieldNames then none else some name
  | char _ | tag .otherwise | tag .done => none

/-- The first name among symbols that is no field. -/
def firstUnknown? (symbols : List Symbol) : Option String := symbols.findSome? Symbol.unknown?

/-- What the symbols before the first such name show. -/
def shownBefore (data : FillData) (symbols : List Symbol) : List Char :=
  (symbols.takeWhile fun s => s.unknown?.isNone).flatMap (Symbol.shown data)

/-- The symbols that a form comes to for some data. -/
def Form.reached (f : Form) (data : FillData) : List Symbol :=
  reachedLines data true (lines f.symbols)

/-! ## Sequences -/

variable (data : FillData) (keep : Bool)

theorem firstUnknown?_append (front back : List Symbol) :
    firstUnknown? (front ++ back) = (firstUnknown? front).or (firstUnknown? back) :=
  List.findSome?_append

theorem known_of_firstUnknown? {symbols : List Symbol} (h : firstUnknown? symbols = none) :
    ∀ s ∈ symbols, s.unknown?.isNone = true := by
  intro s hs
  rw [List.findSome?_eq_none_iff.mp h s hs]
  rfl

theorem shownBefore_of_known {symbols : List Symbol} (h : firstUnknown? symbols = none) :
    shownBefore data symbols = symbols.flatMap (Symbol.shown data) := by
  rw [shownBefore, List.takeWhile_eq_self_iff.mpr (known_of_firstUnknown? h)]

theorem shownBefore_append_of_known {front : List Symbol} (h : firstUnknown? front = none)
    (back : List Symbol) :
    shownBefore data (front ++ back) = shownBefore data front ++ shownBefore data back := by
  rw [shownBefore_of_known data h, shownBefore,
    List.takeWhile_append_of_pos (known_of_firstUnknown? h), List.flatMap_append, shownBefore]

/-- Behind an unknown name nothing is shown. -/
theorem shownBefore_append_of_unknown {front : List Symbol} {name : String}
    (h : firstUnknown? front = some name) (back : List Symbol) :
    shownBefore data (front ++ back) = shownBefore data front := by
  have stops : (front.takeWhile fun s => s.unknown?.isNone).length ≠ front.length := by
    intro whole
    have all := List.takeWhile_eq_self_iff.mp ((List.takeWhile_prefix _).eq_of_length whole)
    have none := List.findSome?_eq_none_iff.mpr fun s hs => Option.isNone_iff_eq_none.mp (all s hs)
    rw [firstUnknown?, none] at h
    cases h
  rw [shownBefore, List.takeWhile_append, if_neg stops, shownBefore]

theorem firstUnknown?_chars (text : List Char) : firstUnknown? (text.map .char) = none := by
  refine List.findSome?_eq_none_iff.mpr (fun s hs => ?_)
  obtain ⟨c, -, rfl⟩ := List.mem_map.mp hs
  rfl

theorem shown_chars (text : List Char) :
    (text.map Symbol.char).flatMap (Symbol.shown data) = text := by
  induction text with
  | nil => rfl
  | cons c text ih => rw [List.map_cons, List.flatMap_cons, ih]; rfl

/-! ## The reference -/

theorem Tag.shown_tested (t : Tag) : t.tested.flatMap (Symbol.shown data) = [] := by
  cases t <;> rfl

/-- Conditions show nothing, so what is come to shows what the chosen lines show. -/
theorem shown_reachedLines (lines : List (List Symbol)) :
    (reachedLines data keep lines).flatMap (Symbol.shown data) =
      (chosenLines data keep lines).flatten.flatMap (Symbol.shown data) := by
  induction lines generalizing keep with
  | nil => rfl
  | cons line rest ih =>
      rw [reachedLines, chosenLines]
      cases line.findSome? Symbol.tag? with
      | some t => rw [List.flatMap_append, t.shown_tested, List.nil_append, ih]
      | none =>
          rw [List.flatMap_append, List.flatten_append, List.flatMap_append, ih]
          cases keep with
          | false => rfl
          | true => rw [if_pos rfl, if_pos rfl, List.flatten_singleton]

theorem Form.shown_reached (f : Form) :
    (f.reached data).flatMap (Symbol.shown data) = f.reference data :=
  shown_reachedLines data true (lines f.symbols)

/-- A form that comes to fields only shows its whole reference. -/
theorem Form.shownBefore_reached {f : Form}
    (h : firstUnknown? (f.reached data) = none) :
    shownBefore data (f.reached data) = f.reference data := by
  rw [shownBefore_of_known data h, f.shown_reached]

end Scaffold.Template
