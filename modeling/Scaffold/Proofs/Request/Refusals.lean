import Scaffold.Request

/-!
# Refused requests

A request is built of named fields, or of what a user typed.  Both ways accept the same data and
make the same request of them; where several things are wrong, they report different ones first.
-/

namespace Scaffold

/-! ## Types -/

namespace ComponentType

/-- The text is the name of the type or one of its short names. -/
def NamedBy (type : ComponentType) (text : String) : Prop :=
  text = type.name ∨ (text, type) ∈ aliases

theorem ofName?_eq_some_iff {text : String} {type : ComponentType} :
    ofName? text = some type ↔ text = type.name := by
  constructor
  · intro h
    have found := List.find?_some h
    exact (of_decide_eq_true found).symm
  · rintro rfl
    cases type <;> decide

theorem parse?_eq_some_iff {text : String} {type : ComponentType} :
    parse? text = some type ↔ type.NamedBy text := by
  constructor
  · intro h
    unfold parse? at h
    split at h
    · next short found =>
        cases h
        obtain ⟨before, after, split, -⟩ := List.lookup_eq_some_iff.mp found
        exact Or.inr (by simp [split])
    · exact Or.inl (ofName?_eq_some_iff.mp h)
  · rintro (rfl | short)
    · cases type <;> decide
    · simp only [aliases, List.mem_cons, Prod.mk.injEq, List.not_mem_nil, or_false] at short
      rcases short with ⟨rfl, rfl⟩ | ⟨rfl, rfl⟩ | ⟨rfl, rfl⟩ | ⟨rfl, rfl⟩ | ⟨rfl, rfl⟩ |
        ⟨rfl, rfl⟩ | ⟨rfl, rfl⟩ <;> decide

/-- The value is a text that names the type. -/
def IsNamed (type : ComponentType) (value : Datum) : Prop :=
  ∃ text, value = .text text ∧ type.NamedBy text

theorem parse_eq_ok_iff {value : Datum} {type : ComponentType} :
    parse value = .ok type ↔ type.IsNamed value := by
  constructor
  · intro h
    unfold parse at h
    split at h
    · next text =>
        split at h
        · next found =>
            cases h
            exact ⟨text, rfl, parse?_eq_some_iff.mp found⟩
        · cases h
    · split at h <;> cases h
  · rintro ⟨text, rfl, named⟩
    rw [parse, parse?_eq_some_iff.mpr named]

theorem parse_of_unhashable {value : Datum} (h : value.isHashable = false) :
    parse value = .error (.fault (.unhashable value.typeName)) := by
  unfold parse
  split
  · cases h
  · simp [h]

/-- What can be a key and names no type is unknown. -/
theorem parse_of_unnamed {value : Datum} (h : value.isHashable = true)
    (unnamed : ∀ type : ComponentType, ¬ type.IsNamed value) :
    parse value = .error (.input (.unknownType value)) := by
  cases value with
  | text text =>
      have unknown : parse? text = none := by
        apply Option.eq_none_iff_forall_ne_some.mpr
        intro type found
        exact unnamed type ⟨text, rfl, parse?_eq_some_iff.mp found⟩
      rw [parse, unknown]
  | _ => simp [parse, h]

end ComponentType

/-! ## Fields -/

namespace Request

/-- The fields of a request, each with its own value. -/
def named (type name domain crud : Datum) : Fields :=
  [("component_type", type), ("name", name), ("domain", domain), ("crud", crud)]

/-- The issue of a field that holds no text. -/
def textIssue (field : String) : Datum → List Issue
  | .text _ => []
  | _ => [.ofField field .notText]

/-- The issue of a field that holds nothing to be read as a truth value. -/
def truthIssue (field : String) (value : Datum) : List Issue :=
  match Fields.readBool value with
  | .ok _ => []
  | .error cause => [.ofField field cause]

/-- The issues of the fields that hold a value of the wrong kind, in the order of the fields. -/
def misfits (name domain crud : Datum) : List Issue :=
  textIssue "name" name ++ textIssue "domain" domain ++ truthIssue "crud" crud

/-- The request says what the values say, its type by a name or a short name. -/
structure Describes (r : Request) (type name domain crud : Datum) : Prop where
  type : r.type.IsNamed type
  name : name = .text r.name
  named : r.name ≠ ""
  domain : domain = .text r.domain
  placed : r.domain ≠ ""
  crud : Fields.readBool crud = .ok r.crud

/-- Why named fields are refused: a bad type comes first, then an empty name, then an empty domain,
and all other issues come together. -/
inductive Declined (type name domain crud : Datum) : Failure → Prop
  | unhashable (h : type.isHashable = false) :
      Declined type name domain crud (.fault (.unhashable type.typeName))
  | unknownType (key : type.isHashable = true) (h : ∀ t : ComponentType, ¬ t.IsNamed type) :
      Declined type name domain crud (.input (.unknownType type))
  | missingName {t : ComponentType} (known : t.IsNamed type) (h : name = .text "") :
      Declined type name domain crud (.input .missingName)
  | missingDomain {t : ComponentType} (known : t.IsNamed type) (named : name ≠ .text "")
      (h : domain = .text "") : Declined type name domain crud (.input .missingDomain)
  | misfits {t : ComponentType} (known : t.IsNamed type) (named : name ≠ .text "")
      (placed : domain ≠ .text "") (h : misfits name domain crud ≠ []) :
      Declined type name domain crud (.invalid (misfits name domain crud))

/-- Why what a user typed is refused: nothing in the place of the domain comes first, then nothing
in the place of the name, then a bad type, and all other issues come together. -/
inductive Refused (type name domain crud : Datum) : Failure → Prop
  | missingDomain (h : domain.isFalsy = true) :
      Refused type name domain crud (.input .missingDomain)
  | missingName (placed : domain.isFalsy = false) (h : name.isFalsy = true) :
      Refused type name domain crud (.input .missingName)
  | unhashable (placed : domain.isFalsy = false) (named : name.isFalsy = false)
      (h : type.isHashable = false) :
      Refused type name domain crud (.fault (.unhashable type.typeName))
  | unknownType (placed : domain.isFalsy = false) (named : name.isFalsy = false)
      (key : type.isHashable = true) (h : ∀ t : ComponentType, ¬ t.IsNamed type) :
      Refused type name domain crud (.input (.unknownType type))
  | misfits {t : ComponentType} (placed : domain.isFalsy = false) (named : name.isFalsy = false)
      (known : t.IsNamed type) (h : misfits name domain crud ≠ []) :
      Refused type name domain crud (.invalid (misfits name domain crud))

variable {type name domain crud value : Datum} {t : ComponentType} {r : Request}
  {failure : Failure}

theorem issues_text (h : ∀ bytes, value ≠ .bytes bytes) (field : String) :
    Fields.issues ((Fields.readText value).mapError (Issue.ofField field)) =
      textIssue field value := by
  cases value with
  | bytes b => exact absurd rfl (h b)
  | _ => rfl

theorem issues_truth (value : Datum) (field : String) :
    Fields.issues ((Fields.readBool value).mapError (Issue.ofField field)) =
      truthIssue field value := by
  unfold truthIssue
  cases Fields.readBool value <;> rfl

theorem textIssue_eq_nil_iff {field : String} :
    textIssue field value = [] ↔ ∃ text, value = .text text := by
  cases value <;> simp [textIssue]

theorem truthIssue_eq_nil_iff {field : String} :
    truthIssue field value = [] ↔ ∃ b, Fields.readBool value = .ok b := by
  unfold truthIssue
  cases Fields.readBool value <;> simp

/-- Only an empty text is refused at once. -/
theorem refuseEmpty_of_ne (h : ∀ bytes, value ≠ .bytes bytes) (given : value ≠ .text "")
    (field : String) (cause : InputFailure) :
    refuseEmpty ((Fields.readText value).mapError (Issue.ofField field)) cause = .ok () := by
  cases value with
  | bytes b => exact absurd rfl (h b)
  | text s =>
      have hs : s ≠ "" := by
        rintro rfl
        exact given rfl
      unfold refuseEmpty
      split
      · next empty =>
          cases empty
          exact absurd rfl hs
      · rfl
  | _ => rfl

/-- The issues of the three fields, if there are any. -/
theorem finish_issues {name domain : Except Issue String} {crud : Except Issue Bool}
    (h : Fields.issues name ++ Fields.issues domain ++ Fields.issues crud ≠ []) :
    finish (.ok t) name domain crud [] =
      .error (.invalid (Fields.issues name ++ Fields.issues domain ++ Fields.issues crud)) := by
  cases name <;> cases domain <;> cases crud <;> simp [finish, Fields.issues] at h ⊢

/-! ## Named fields -/

theorem build_named (type name domain crud : Datum) :
    build (named type name domain crud) =
      (ComponentType.parse type >>= fun t => do
        refuseEmpty ((Fields.readText name).mapError (Issue.ofField "name")) .missingName
        refuseEmpty ((Fields.readText domain).mapError (Issue.ofField "domain")) .missingDomain
        finish (.ok t) ((Fields.readText name).mapError (Issue.ofField "name"))
          ((Fields.readText domain).mapError (Issue.ofField "domain"))
          ((Fields.readBool crud).mapError (Issue.ofField "crud")) []) :=
  rfl

section

variable (noBytes : ∀ bytes, name ≠ .bytes bytes) (noBytes' : ∀ bytes, domain ≠ .bytes bytes)
include noBytes noBytes'

theorem build_of_describes (h : r.Describes type name domain crud) :
    build (named type name domain crud) = .ok r := by
  have named : name ≠ .text "" := by
    rw [h.name]
    exact fun he => h.named (Datum.text.inj he)
  have placed : domain ≠ .text "" := by
    rw [h.domain]
    exact fun he => h.placed (Datum.text.inj he)
  rw [build_named, ComponentType.parse_eq_ok_iff.mpr h.type]
  simp only [bind, Except.bind, refuseEmpty_of_ne noBytes named, refuseEmpty_of_ne noBytes' placed]
  rw [h.name, h.domain, h.crud]
  rfl

theorem build_of_declined (h : Declined type name domain crud failure) :
    build (named type name domain crud) = .error failure := by
  rw [build_named]
  cases h with
  | unhashable h => rw [ComponentType.parse_of_unhashable h]; rfl
  | unknownType key h => rw [ComponentType.parse_of_unnamed key h]; rfl
  | missingName known h =>
      rw [ComponentType.parse_eq_ok_iff.mpr known, h]
      rfl
  | missingDomain known named h =>
      rw [ComponentType.parse_eq_ok_iff.mpr known, h]
      simp only [bind, Except.bind, refuseEmpty_of_ne noBytes named]
      rfl
  | misfits known named placed h =>
      rw [ComponentType.parse_eq_ok_iff.mpr known]
      simp only [bind, Except.bind, refuseEmpty_of_ne noBytes named,
        refuseEmpty_of_ne noBytes' placed]
      rw [misfits, ← issues_text noBytes, ← issues_text noBytes', ← issues_truth] at h ⊢
      exact finish_issues h

end

/-- The values describe a request, or there is a reason to decline them. -/
theorem described_or_declined (type name domain crud : Datum) :
    (∃ r : Request, r.Describes type name domain crud) ∨
      ∃ failure, Declined type name domain crud failure := by
  cases key : type.isHashable with
  | false => exact Or.inr ⟨_, .unhashable key⟩
  | true =>
    by_cases known : ∃ t : ComponentType, t.IsNamed type
    · obtain ⟨t, known⟩ := known
      by_cases hname : name = .text ""
      · exact Or.inr ⟨_, .missingName known hname⟩
      by_cases hdomain : domain = .text ""
      · exact Or.inr ⟨_, .missingDomain known hname hdomain⟩
      by_cases h : misfits name domain crud = []
      · simp only [misfits, List.append_eq_nil_iff, textIssue_eq_nil_iff,
          truthIssue_eq_nil_iff] at h
        obtain ⟨⟨⟨s, rfl⟩, ⟨s', rfl⟩⟩, b, hb⟩ := h
        refine Or.inl ⟨⟨t, s, s', b⟩, known, rfl, ?_, rfl, ?_, hb⟩
        · exact fun he => hname (congrArg Datum.text he)
        · exact fun he => hdomain (congrArg Datum.text he)
      · exact Or.inr ⟨_, .misfits known hname hdomain h⟩
    · exact Or.inr ⟨_, .unknownType key (not_exists.mp known)⟩

/-! ## What a user typed -/

theorem isFalsy_text {s : String} : (Datum.text s).isFalsy = false ↔ s ≠ "" := by
  simp [Datum.isFalsy]

theorem ne_empty_of_given (h : value.isFalsy = false) : value ≠ .text "" := by
  rintro rfl
  exact isFalsy_text.mp h rfl

/-- Where the name and the domain are something, both ways are one. -/
theorem ofInput_of_given (placed : domain.isFalsy = false) (given : name.isFalsy = false) :
    ofInput type name domain crud = build (named type name domain crud) := by
  rw [ofInput, if_neg (by simp [placed]), if_neg (by simp [given])]
  rfl

theorem Describes.given (h : r.Describes type name domain crud) :
    domain.isFalsy = false ∧ name.isFalsy = false := by
  rw [h.name, h.domain]
  exact ⟨isFalsy_text.mpr h.placed, isFalsy_text.mpr h.named⟩

theorem ofInput_of_refused (noBytes : ∀ bytes, name ≠ .bytes bytes)
    (noBytes' : ∀ bytes, domain ≠ .bytes bytes) (h : Refused type name domain crud failure) :
    ofInput type name domain crud = .error failure := by
  cases h with
  | missingDomain h => rw [ofInput, if_pos h]
  | missingName placed h => rw [ofInput, if_neg (by simp [placed]), if_pos h]
  | unhashable placed given h =>
      rw [ofInput_of_given placed given]
      exact build_of_declined noBytes noBytes' (.unhashable h)
  | unknownType placed given key h =>
      rw [ofInput_of_given placed given]
      exact build_of_declined noBytes noBytes' (.unknownType key h)
  | misfits placed given known h =>
      rw [ofInput_of_given placed given]
      exact build_of_declined noBytes noBytes'
        (.misfits known (ne_empty_of_given given) (ne_empty_of_given placed) h)

theorem described_or_refused (type name domain crud : Datum) :
    (∃ r : Request, r.Describes type name domain crud) ∨
      ∃ failure, Refused type name domain crud failure := by
  cases placed : domain.isFalsy with
  | true => exact Or.inr ⟨_, .missingDomain placed⟩
  | false =>
    cases given : name.isFalsy with
    | true => exact Or.inr ⟨_, .missingName placed given⟩
    | false =>
      rcases described_or_declined type name domain crud with described | ⟨failure, declined⟩
      · exact Or.inl described
      · right
        cases declined with
        | unhashable h => exact ⟨_, .unhashable placed given h⟩
        | unknownType key h => exact ⟨_, .unknownType placed given key h⟩
        | missingName known h => exact absurd h (ne_empty_of_given given)
        | missingDomain known named h => exact absurd h (ne_empty_of_given placed)
        | misfits known _ _ h => exact ⟨_, .misfits placed given known h⟩

/-! ## Both ways -/

/-- Rules for results and for failures that leave nothing out describe an outcome exactly. -/
theorem outcome_iff {ε α : Type} {outcome : Except ε α} {good : α → Prop} {bad : ε → Prop}
    (ok : ∀ a, good a → outcome = .ok a) (error : ∀ e, bad e → outcome = .error e)
    (total : (∃ a, good a) ∨ ∃ e, bad e) :
    (∀ a, outcome = .ok a ↔ good a) ∧ ∀ e, outcome = .error e ↔ bad e := by
  have good_of_ok (a : α) (h : outcome = .ok a) : good a := by
    rcases total with ⟨b, hb⟩ | ⟨e, he⟩
    · cases (ok b hb).symm.trans h
      exact hb
    · cases (error e he).symm.trans h
  have bad_of_error (e : ε) (h : outcome = .error e) : bad e := by
    rcases total with ⟨a, ha⟩ | ⟨e', he'⟩
    · cases (ok a ha).symm.trans h
    · cases (error e' he').symm.trans h
      exact he'
  constructor
  · intro a
    exact ⟨good_of_ok a, ok a⟩
  · intro e
    exact ⟨bad_of_error e, error e⟩

/-- Both ways to a request accept the same values and make the same request of them, whose type
they name and whose name and domain they are; and each reports exactly the first of the reasons
that it knows.  Bytes are left out, which are read as the text that they encode. -/
theorem ofInput_agrees (type name domain crud : Datum) (noBytes : ∀ bytes, name ≠ .bytes bytes)
    (noBytes' : ∀ bytes, domain ≠ .bytes bytes) :
    (∀ r, ofInput type name domain crud = .ok r ↔ build (named type name domain crud) = .ok r) ∧
      (∀ r, build (named type name domain crud) = .ok r ↔ r.Describes type name domain crud) ∧
      (∀ failure, ofInput type name domain crud = .error failure ↔
        Refused type name domain crud failure) ∧
      ∀ failure, build (named type name domain crud) = .error failure ↔
        Declined type name domain crud failure := by
  have built (r : Request) (h : r.Describes type name domain crud) :=
    build_of_describes noBytes noBytes' h
  have declined (failure : Failure) (h : Declined type name domain crud failure) :=
    build_of_declined noBytes noBytes' h
  have typed (r : Request) (h : r.Describes type name domain crud) :
      ofInput type name domain crud = .ok r := by
    rw [ofInput_of_given h.given.1 h.given.2]
    exact built r h
  have refused (failure : Failure) (h : Refused type name domain crud failure) :=
    ofInput_of_refused noBytes noBytes' h
  obtain ⟨build_ok, build_error⟩ :=
    outcome_iff built declined (described_or_declined type name domain crud)
  obtain ⟨input_ok, input_error⟩ :=
    outcome_iff typed refused (described_or_refused type name domain crud)
  refine ⟨?_, build_ok, input_error, build_error⟩
  intro r
  rw [input_ok, build_ok]

/-- A short type with fields of two wrong kinds, and a wrong type with a name that is empty and a
domain that is nothing. -/
theorem ofInput_agrees_on_faults :
    ofInput (.text "repo") (.int 7) (.text "d") (.text "perhaps") =
        .error (.invalid [.ofField "name" .notText, .ofField "crud" .unreadableBool]) ∧
      ofInput (.text "bogus") (.text "") (.list []) (.bool true) = .error (.input .missingDomain) ∧
      build (named (.text "bogus") (.text "") (.list []) (.bool true)) =
        .error (.input (.unknownType (.text "bogus"))) := by
  obtain ⟨-, -, wrongKinds, -⟩ := ofInput_agrees (.text "repo") (.int 7) (.text "d")
    (.text "perhaps") (fun _ h => by cases h) (fun _ h => by cases h)
  obtain ⟨-, -, refused, declined⟩ := ofInput_agrees (.text "bogus") (.text "") (.list [])
    (.bool true) (fun _ h => by cases h) (fun _ h => by cases h)
  have known : ComponentType.IsNamed .repository (.text "repo") := ⟨"repo", rfl, Or.inr (by decide)⟩
  have unnamed (t : ComponentType) : ¬ t.IsNamed (.text "bogus") := by
    rintro ⟨text, h, named⟩
    cases h
    rw [← ComponentType.parse?_eq_some_iff] at named
    cases t <;> exact absurd named (by decide)
  refine ⟨(wrongKinds _).mpr ?_, (refused _).mpr (.missingDomain rfl),
    (declined _).mpr (.unknownType rfl unnamed)⟩
  exact .misfits rfl rfl known (List.cons_ne_nil _ _)

end Request

end Scaffold
