import Scaffold.Proofs.Generation.Names
import Scaffold.Proofs.Naming.Forms
import Scaffold.Template.Filter

/-!
# Case forms of fill data

Templates have the case forms as filters.  What these make of the name in lower case is what the fill
data hold, so entities that share a file share the forms; and table names and the forms themselves
have one snake case.
-/

namespace Scaffold

open Template

/-! ## Filters -/

/-- The filters of the case forms take a text to its form. -/
theorem Template.Filter.recase_text (form : String → String) (function : String)
    (empty : form "" = "") (s : String) :
    Filter.recase form function [.text s] [] = pure (.text (form s)) := by
  have htruth : (Value.text s).truth = .ok (s != "") := rfl
  change (do
    if !(← (Value.text s).truth) then pure (.text "") else pure (.text (form s)) : Run Value) = _
  by_cases hs : s = ""
  · rw [hs, empty]
    rfl
  · rw [htruth, bne_iff_ne.mpr hs]
    rfl

theorem Template.Filter.apply_pascal (s : String) :
    Filter.apply "pascal_case" [.text s] [] = pure (.text (Naming.pascal s)) :=
  Filter.recase_text Naming.pascal _ (by decide) s

theorem Template.Filter.apply_camel (s : String) :
    Filter.apply "camel_case" [.text s] [] = pure (.text (Naming.camel s)) :=
  Filter.recase_text Naming.camel _ (by decide) s

theorem Template.Filter.apply_snake (s : String) :
    Filter.apply "snake_case" [.text s] [] = pure (.text (Naming.snake s)) :=
  Filter.recase_text Naming.snake _ (by decide) s

/-! ## Names in lower case -/

/-- The fill data name the entity's types and variables alike. -/
def FillData.SameForms (d d' : FillData) : Prop :=
  d.structName = d'.structName ∧ d.varName = d'.varName

theorem sameForms_of_lowerName {r r' : Request} {modulePath modulePath' : String}
    (h : (FillData.ofRequest r modulePath).lowerName =
      (FillData.ofRequest r' modulePath').lowerName) :
    (FillData.ofRequest r modulePath).SameForms (FillData.ofRequest r' modulePath') := by
  change Text.lowerString r.name = Text.lowerString r'.name at h
  change Naming.pascal r.name = Naming.pascal r'.name ∧ Naming.camel r.name = Naming.camel r'.name
  constructor
  · rw [← Naming.pascal_lowerString r.name, h, Naming.pascal_lowerString]
  · rw [← Naming.camel_lowerString r.name, h, Naming.camel_lowerString]

/-- The name in lower case says all that the Pascal form and the camel form are made of: templates
find the forms of the fill data in it, and entities that share a file share them. -/
theorem forms_of_lower_name :
    (∀ name : String, Naming.pascal (Text.lowerString name) = Naming.pascal name ∧
      Naming.camel (Text.lowerString name) = Naming.camel name) ∧
    (∀ (r : Request) (modulePath : String),
      let data := FillData.ofRequest r modulePath
      Filter.apply "pascal_case" [.text data.lowerName] [] = pure (.text data.structName) ∧
      Filter.apply "camel_case" [.text data.lowerName] [] = pure (.text data.varName)) ∧
    (∀ (r r' : Request) (modulePath modulePath' : String),
      (FillData.ofRequest r modulePath).lowerName =
        (FillData.ofRequest r' modulePath').lowerName →
      (FillData.ofRequest r modulePath).SameForms (FillData.ofRequest r' modulePath')) ∧
    ∀ (kind : ComponentKind) (root root' : Path) (r r' : Request) (modulePath modulePath' : String),
      kind.isWiring = false → '/' ∉ r.name.toList → '/' ∉ r'.name.toList →
      componentPath root kind (FillData.ofRequest r modulePath) =
        componentPath root' kind (FillData.ofRequest r' modulePath') →
      (FillData.ofRequest r modulePath).SameForms (FillData.ofRequest r' modulePath') := by
  refine ⟨fun name => ⟨Naming.pascal_lowerString name, Naming.camel_lowerString name⟩, ?_,
    fun r r' modulePath modulePath' => sameForms_of_lowerName, ?_⟩
  · intro r modulePath
    constructor
    · calc
        Filter.apply "pascal_case" [.text (Text.lowerString r.name)] [] =
            pure (.text (Naming.pascal (Text.lowerString r.name))) := Filter.apply_pascal _
        _ = pure (.text (Naming.pascal r.name)) := by rw [Naming.pascal_lowerString]
    · calc
        Filter.apply "camel_case" [.text (Text.lowerString r.name)] [] =
            pure (.text (Naming.camel (Text.lowerString r.name))) := Filter.apply_camel _
        _ = pure (.text (Naming.camel r.name)) := by rw [Naming.camel_lowerString]
  · intro kind root root' r r' modulePath modulePath' named slash slash' same
    apply sameForms_of_lowerName
    -- Equal paths end in equal file names, and these begin with the names in lower case.
    by_contra hne
    have low : '/' ∉ (FillData.ofRequest r modulePath).lowerName.toList :=
      Text.not_mem_lowerString slash (by decide)
    have low' : '/' ∉ (FillData.ofRequest r' modulePath').lowerName.toList :=
      Text.not_mem_lowerString slash' (by decide)
    refine place_ne_of_lowerName named [] [] root root' low low' hne ?_
    rw [same]

/-- Two spellings of one name, with a final letter that lower case writes in its own way and a
capital that lower case writes with a mark. -/
theorem forms_of_shared_name :
    (FillData.ofRequest ⟨.dto, "ΟΔΟΣ_İx", "a", true⟩ "m").lowerName =
      (FillData.ofRequest ⟨.full, "οδοΣ_İX", "b", false⟩ "n").lowerName ∧
    (FillData.ofRequest ⟨.dto, "ΟΔΟΣ_İx", "a", true⟩ "m").SameForms
      (FillData.ofRequest ⟨.full, "οδοΣ_İX", "b", false⟩ "n") ∧
    componentPath ⟨.root, ["r"]⟩ .service (FillData.ofRequest ⟨.dto, "ΟΔΟΣ_İx", "a", true⟩ "m") =
      componentPath ⟨.root, ["r"]⟩ .service
        (FillData.ofRequest ⟨.full, "οδοΣ_İX", "a", false⟩ "n") ∧
    (FillData.ofRequest ⟨.dto, "ΟΔΟΣ_İx", "a", true⟩ "m").SameForms
      (FillData.ofRequest ⟨.full, "οδοΣ_İX", "a", false⟩ "n") := by
  have shared : (FillData.ofRequest ⟨.dto, "ΟΔΟΣ_İx", "a", true⟩ "m").lowerName =
      (FillData.ofRequest ⟨.full, "οδοΣ_İX", "b", false⟩ "n").lowerName := by
    decide +kernel
  have file : componentPath ⟨.root, ["r"]⟩ .service
      (FillData.ofRequest ⟨.dto, "ΟΔΟΣ_İx", "a", true⟩ "m") =
      componentPath ⟨.root, ["r"]⟩ .service
        (FillData.ofRequest ⟨.full, "οδοΣ_İX", "a", false⟩ "n") := by
    decide +kernel
  obtain ⟨-, -, ofName, ofFile⟩ := forms_of_lower_name
  exact ⟨shared, ofName _ _ _ _ shared, file,
    ofFile .service _ _ _ _ _ _ (by decide) (by decide) (by decide) file⟩

/-! ## Snake case -/

theorem FillData.snake_tableName (r : Request) (modulePath : String) :
    Naming.snake (ofRequest r modulePath).tableName = (ofRequest r modulePath).tableName := by
  apply Naming.snake_of_lowered
  intro c hc
  change c ∈ (Naming.snake r.name ++ "s").toList at hc
  rw [String.toList_append, List.mem_append] at hc
  rcases hc with hc | hc
  · exact Naming.isLowered_of_mem_snake hc
  · have hs : c = 's' := by simpa using hc
    rw [hs]
    decide

/-- Snake case is in lower case and stays as it is, and neither table names nor the forms of the
entity's name get anything else from it. -/
theorem snake_case_settles :
    (∀ s : String, Naming.snake (Naming.snake s) = Naming.snake s) ∧
    (∀ s : String, Naming.snake (Naming.camel s) = Naming.snake (Naming.pascal s)) ∧
    (∀ s : String, ∀ c ∈ (Naming.snake s).toList, ¬ ('A' ≤ c ∧ c ≤ 'Z')) ∧
    ∀ (r : Request) (modulePath : String),
      let data := FillData.ofRequest r modulePath
      Filter.apply "snake_case" [.text data.tableName] [] = pure (.text data.tableName) ∧
      Naming.snake data.varName = Naming.snake data.structName ∧
      Filter.apply "snake_case" [.text data.varName] [] =
        Filter.apply "snake_case" [.text data.structName] [] := by
  refine ⟨Naming.snake_snake, Naming.snake_camel, ?_, ?_⟩
  · intro s c hc hcapital
    have hlow := Naming.isAsciiUpper_of_lowered (Naming.isLowered_of_mem_snake hc)
    simp [Naming.isAsciiUpper, hcapital.1, hcapital.2] at hlow
  · intro r modulePath data
    have forms : Naming.snake data.varName = Naming.snake data.structName :=
      Naming.snake_camel r.name
    refine ⟨?_, forms, ?_⟩
    · rw [Filter.apply_snake, FillData.snake_tableName]
    · rw [Filter.apply_snake, Filter.apply_snake, forms]

/-- A ligature that upper case takes apart, and a letter without a capital of its own. -/
theorem snake_case_settles_ligature :
    Naming.pascal "ﬁneSTRAßE ß" = "FInestraßeSS" ∧
    Naming.snake (Naming.camel "ﬁneSTRAßE ß") = "f_inestraße_s_s" ∧
    'ß' ∈ (Naming.snake "ﬁneSTRAßE ß").toList ∧ ¬ ('A' ≤ 'ß' ∧ 'ß' ≤ 'Z') := by
  obtain ⟨-, camelCase, low, -⟩ := snake_case_settles
  have member : 'ß' ∈ (Naming.snake "ﬁneSTRAßE ß").toList := by decide +kernel
  exact ⟨by decide +kernel, (camelCase _).trans (by decide +kernel), member, low _ 'ß' member⟩

end Scaffold
