import Scaffold.Proofs.Settings.Fields

/-!
# Settings in use

Settings are assigned one at a time, and a run may give them another output root.  An assignment
that is refused leaves the settings as they were, so that they stay valid whatever is assigned.
-/

namespace Scaffold

/-- Data that JSON can say. -/
inductive Datum.IsJson : Datum → Prop
  | null : IsJson .null
  | bool (b : Bool) : IsJson (.bool b)
  | int (n : Int) : IsJson (.int n)
  | float (x : Float) : IsJson (.float x)
  | text (s : String) : IsJson (.text s)
  | list {items : List Datum} (each : ∀ d ∈ items, IsJson d) : IsJson (.list items)
  | dict {entries : List (Datum × Datum)} (keys : ∀ e ∈ entries, ∃ key, e.1 = .text key)
      (values : ∀ e ∈ entries, IsJson e.2) : IsJson (.dict entries)

namespace Settings

/-! ## Allowed values -/

/-- The values that a setting takes. -/
inductive Allows : String → Datum → Prop
  | root {text : String} (filled : text ≠ "") : Allows "output_root" (.text text)
  | optional {name : String} (known : name = "module_path" ∨ name = "templates_dir")
      (text? : Option String) : Allows name (optionalData text?)

/-- Every setting holds a value that it takes. -/
def AllAllowed (s : Settings) : Prop := ∀ field ∈ s.dump, Allows field.1 field.2

theorem Valid.allAllowed {s : Settings} (valid : s.Valid) : s.AllAllowed := by
  intro field hf
  simp only [dump, List.mem_cons, List.not_mem_nil, or_false] at hf
  rcases hf with rfl | rfl | rfl
  · exact .root valid
  · exact .optional (Or.inl rfl) s.modulePath
  · exact .optional (Or.inr rfl) s.templatesDir

theorem allows_root_iff {value : Datum} :
    Allows "output_root" value ↔ ∃ root ≠ "", value = .text root := by
  constructor
  · intro allowed
    cases allowed with
    | root filled => exact ⟨_, filled, rfl⟩
    | optional known => exact absurd known (by decide)
  · rintro ⟨root, filled, rfl⟩
    exact .root filled

theorem allows_optional_iff {name : String} (known : name = "module_path" ∨ name = "templates_dir")
    {value : Datum} : Allows name value ↔ ∃ text?, value = optionalData text? := by
  constructor
  · intro allowed
    cases allowed with
    | root => exact absurd known (by decide)
    | optional _ text? => exact ⟨text?, rfl⟩
  · rintro ⟨text?, rfl⟩
    exact .optional known text?

/-- Only text that is not empty is an output root. -/
theorem readRoot_eq_ok_iff {value : Datum} (json : value.IsJson) {root : String} :
    readRoot value = .ok root ↔ root ≠ "" ∧ value = .text root := by
  cases json with
  | text text =>
      change (if text = "" then Except.error IssueCause.tooShort else Except.ok text) = _ ↔ _
      split
      · next empty =>
          subst empty
          simp [eq_comm]
      · next filled =>
          simp only [Except.ok.injEq, Datum.text.injEq]
          exact ⟨fun h => ⟨h ▸ filled, h⟩, And.right⟩
  | _ => exact ⟨nofun, fun h => nomatch h.2⟩

/-- Only text and nothing are optional text. -/
theorem readOptional_eq_ok_iff {value : Datum} (json : value.IsJson) {text? : Option String} :
    readOptional value = .ok text? ↔ value = optionalData text? := by
  cases json with
  | null => cases text? <;> simp [readOptional, optionalData]
  | text text =>
      cases text? with
      | none => exact ⟨nofun, nofun⟩
      | some other =>
          change Except.ok (some text) = Except.ok (some other) ↔ Datum.text text = Datum.text other
          simp
  | _ =>
      cases text? with
      | none => exact ⟨nofun, nofun⟩
      | some other => exact ⟨nofun, nofun⟩

/-! ## One assignment -/

/-- The second settings are the first ones with another value for one field. -/
structure Replaced (name : String) (value : Datum) (s s' : Settings) : Prop where
  here : s'.dump.lookup name = some value
  others : ∀ other ≠ name, s'.dump.lookup other = s.dump.lookup other

/-- Assign in place: settings that refuse a value stay as they are. -/
def assigning (name : String) (value : Datum) : StateM Settings (Except Failure Unit) := fun s =>
  match s.assign name value with
  | .ok s' => (.ok (), s')
  | .error failure => (.error failure, s)

/-- How an assignment ends, and the settings that it leaves. -/
inductive Assigned (name : String) (value : Datum) (s : Settings) :
    Except Failure Unit → Settings → Prop
  | done {s' : Settings} (allowed : Allows name value) (replaced : Replaced name value s s') :
      Assigned name value s (.ok ()) s'
  | refused (refused : ¬ Allows name value) (cause : IssueCause) :
      Assigned name value s (.error (.invalid [.ofField name cause])) s

/-- An assignment is done if its value can be read, and then changes what was read. -/
theorem assigned_of_read {α : Type} {s : Settings} {name : String} {value : Datum}
    (read : Except IssueCause α) {change : α → Settings}
    (assign : s.assign name value =
      (read.map change).mapError fun cause => .invalid [.ofField name cause])
    (allowed : Allows name value ↔ ∃ a, read = .ok a)
    (replaced : ∀ a, read = .ok a → Replaced name value s (change a)) :
    ∃ outcome s', (assigning name value).run s = (outcome, s') ∧
      Assigned name value s outcome s' := by
  change ∃ outcome s', (match s.assign name value with
    | .ok s' => ((.ok (), s') : Except Failure Unit × Settings)
    | .error failure => (.error failure, s)) = (outcome, s') ∧ Assigned name value s outcome s'
  rw [assign]
  cases read with
  | ok a => exact ⟨_, _, rfl, .done (allowed.mpr ⟨a, rfl⟩) (replaced a rfl)⟩
  | error cause =>
      refine ⟨_, _, rfl, .refused ?_ cause⟩
      rw [allowed]
      exact fun ⟨a, h⟩ => nomatch h

theorem assigning_assigned (s : Settings) {name : String} {value : Datum}
    (known : name ∈ fieldNames) (json : value.IsJson) :
    ∃ outcome s', (assigning name value).run s = (outcome, s') ∧
      Assigned name value s outcome s' := by
  simp only [fieldNames, List.mem_cons, List.not_mem_nil, or_false] at known
  rcases known with rfl | optional
  · refine assigned_of_read (readRoot value) rfl ?_ fun root read => ?_
    · simp only [allows_root_iff, readRoot_eq_ok_iff json]
    · obtain ⟨-, rfl⟩ := (readRoot_eq_ok_iff json).mp read
      exact ⟨rfl, fun other hne => by simp only [dump, List.lookup_cons, beq_false_of_ne hne]⟩
  · have allowed : Allows name value ↔ ∃ text?, readOptional value = .ok text? := by
      simp only [allows_optional_iff optional, readOptional_eq_ok_iff json]
    rcases optional with rfl | rfl
    · refine assigned_of_read (readOptional value) rfl allowed fun text? read => ?_
      obtain rfl := (readOptional_eq_ok_iff json).mp read
      exact ⟨rfl, fun other hne => by simp only [dump, List.lookup_cons, beq_false_of_ne hne]⟩
    · refine assigned_of_read (readOptional value) rfl allowed fun text? read => ?_
      obtain rfl := (readOptional_eq_ok_iff json).mp read
      exact ⟨rfl, fun other hne => by simp only [dump, List.lookup_cons, beq_false_of_ne hne]⟩

/-- What was valid stays valid. -/
theorem Assigned.allAllowed {name : String} {value : Datum} {s s' : Settings}
    {outcome : Except Failure Unit} (assigned : Assigned name value s outcome s')
    (all : s.AllAllowed) : s'.AllAllowed := by
  cases assigned with
  | refused => exact all
  | done allowed replaced =>
      intro field hf
      have found := mem_dump_iff.mp hf
      by_cases here : field.1 = name
      · rw [here, replaced.here] at found
        rw [here, ← Option.some.inj found]
        exact allowed
      · rw [replaced.others field.1 here] at found
        exact all field (mem_dump_iff.mpr found)

/-! ## Sessions -/

/-- Assign one after the other. -/
def assigningAll : List (String × Datum) → StateM Settings (List (Except Failure Unit))
  | [] => pure []
  | (name, value) :: rest => do
      let outcome ← assigning name value
      let outcomes ← assigningAll rest
      return outcome :: outcomes

theorem assigningAll_cons (s : Settings) (name : String) (value : Datum)
    (rest : List (String × Datum)) :
    (assigningAll ((name, value) :: rest)).run s =
      let first := (assigning name value).run s
      let later := (assigningAll rest).run first.2
      (first.1 :: later.1, later.2) :=
  rfl

/-- The course of assignments: valid settings all the way, and at each step the next assignment. -/
inductive Course : Settings → List (String × Datum) → List (Except Failure Unit) → Settings → Prop
  | done {s : Settings} (all : s.AllAllowed) : Course s [] [] s
  | step {s s' final : Settings} {name : String} {value : Datum} {rest : List (String × Datum)}
      {outcome : Except Failure Unit} {outcomes : List (Except Failure Unit)}
      (all : s.AllAllowed) (assigned : Assigned name value s outcome s')
      (course : Course s' rest outcomes final) :
      Course s ((name, value) :: rest) (outcome :: outcomes) final

theorem assigningAll_course {s : Settings} (all : s.AllAllowed) {steps : List (String × Datum)}
    (given : ∀ step ∈ steps, step.1 ∈ fieldNames ∧ step.2.IsJson) :
    ∃ outcomes final, (assigningAll steps).run s = (outcomes, final) ∧
      Course s steps outcomes final := by
  induction steps generalizing s with
  | nil => exact ⟨[], s, rfl, .done all⟩
  | cons step rest ih =>
      obtain ⟨name, value⟩ := step
      obtain ⟨⟨known, json⟩, later⟩ := List.forall_mem_cons.mp given
      obtain ⟨outcome, s', first, assigned⟩ := assigning_assigned s known json
      obtain ⟨outcomes, final, run, course⟩ := ih (assigned.allAllowed all) later
      refine ⟨outcome :: outcomes, final, ?_, .step all assigned course⟩
      simp only [assigningAll_cons, first, run]

/-! ## Another output root -/

/-- The settings of a run, which leaves the ones in place as they are. -/
def overriding (root : Datum) : StateM Settings (Except Failure Settings) := do
  return (← get).override root

theorem override_text (s : Settings) {root : String} (filled : root ≠ "") :
    s.override (.text root) = .ok { s with outputRoot := root } := by
  have known : ∀ field ∈ withRoot (.text root) s.dump, field.1 ∈ fieldNames := by
    intro field hf
    obtain ⟨⟨name, value⟩, standing, rfl⟩ := List.mem_map.mp hf
    have known := known_of_mem_dump standing
    exact known
  have fields : ofFields (withRoot (.text root) s.dump) [] = .ok { s with outputRoot := root } :=
    ofFields_of_lookup filled rfl rfl rfl
  unfold override
  simp only [ofDatum_mappingOf known, fields]
  rfl

/-- Whatever JSON data is assigned, one value after the other, every setting holds a value that it
takes, a value that is not taken changes nothing, and the settings with any other output root than
the empty one can be had without a change to the ones in place. -/
theorem assignments_keep_valid (s : Settings) (valid : s.Valid) (steps : List (String × Datum))
    (given : ∀ step ∈ steps, step.1 ∈ fieldNames ∧ step.2.IsJson) :
    ∃ outcomes final, (assigningAll steps).run s = (outcomes, final) ∧
      Course s steps outcomes final ∧
      ∀ root ≠ "", (overriding (.text root)).run final =
        (.ok { final with outputRoot := root }, final) := by
  obtain ⟨outcomes, final, run, course⟩ := assigningAll_course valid.allAllowed given
  refine ⟨outcomes, final, run, course, ?_⟩
  intro root filled
  rw [← override_text final filled]
  rfl

/-- A refused assignment between two that are done. -/
theorem assignments_keep_valid_default :
    Course {} [("module_path", .text "m"), ("output_root", .text ""), ("templates_dir", .null)]
        [.ok (), .error (.invalid [.ofField "output_root" .tooShort]), .ok ()]
        ⟨".", some "m", none⟩ ∧
      ∀ root ≠ "", (overriding (.text root)).run ⟨".", some "m", none⟩ =
        (.ok ⟨root, some "m", none⟩, ⟨".", some "m", none⟩) := by
  have given : ∀ step ∈ [("module_path", Datum.text "m"), ("output_root", .text ""),
      ("templates_dir", .null)], step.1 ∈ fieldNames ∧ step.2.IsJson := by
    simp only [List.forall_mem_cons]
    exact ⟨⟨by decide, .text "m"⟩, ⟨by decide, .text ""⟩, ⟨by decide, .null⟩, nofun⟩
  obtain ⟨outcomes, final, run, ended⟩ := assignments_keep_valid {} valid_default _ given
  obtain ⟨rfl, rfl⟩ := Prod.mk.inj run
  exact ended

end Settings

end Scaffold
