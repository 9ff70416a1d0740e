import Scaffold.Bundle
import Scaffold.Proofs.Template.Imports

/-!
# The packaged templates as forms

Each of the seven packaged templates is spelled by a documented form.
-/

namespace Scaffold.Bundle

open Template

namespace Packaged

/-- Lines with their characters.  The characters are given beside a line, since comparing them with
the line costs much less than computing them from it. -/
inductive Spelled : List String → List (List Char) → Prop
  | nil : Spelled [] []
  | cons {lines : List String} {texts : List (List Char)} (text : List Char)
      (rest : Spelled lines texts) : Spelled (String.ofList text :: lines) (text :: texts)

theorem Spelled.unlines {lines : List String} {texts : List (List Char)}
    (h : Spelled lines texts) :
    Packaged.unlines lines = String.ofList (texts.flatMap fun text => text ++ ['\n']) := by
  induction h with
  | nil => rfl
  | @cons lines texts text rest ih =>
      have hline : Packaged.unlines (String.ofList text :: lines) =
          String.ofList (text ++ ['\n']) ++ Packaged.unlines lines := by
        simp [Packaged.unlines]
      rw [hline, ih, ← String.ofList_append, List.flatMap_cons]

end Packaged

/-- A resource whose lines are read as a documented form of some kind. -/
theorem exists_form {resource : String} {kind : ComponentKind} {lines : List String}
    {texts : List (List Char)} (source : packaged.get? resource = some (Packaged.unlines lines))
    (spelled : Packaged.Spelled lines texts)
    (found : (Form.read? (texts.flatMap fun text => text ++ ['\n'])).any
      (fun f => decide (f.WellFormed ∧ f.LaidOut kind)) = true) :
    ∃ f : Form, (f.WellFormed ∧ f.LaidOut kind) ∧
      packaged.get? resource = some (String.ofList f.source) := by
  rw [Option.any_eq_true] at found
  obtain ⟨f, hread, good⟩ := found
  refine ⟨f, of_decide_eq_true good, ?_⟩
  rw [source, spelled.unlines, Form.source_of_read hread]

/-- The packaged template of each kind is a documented one, laid out for files of that kind. -/
theorem exists_form_laid_out (kind : ComponentKind) :
    ∃ f : Form, (f.WellFormed ∧ f.LaidOut kind) ∧
      packaged.get? kind.resource = some (String.ofList f.source) := by
  cases kind
  all_goals
    apply exists_form
    · rfl
    · repeat first | exact .nil | apply Packaged.Spelled.cons
    · decide +kernel

/-- The packaged template of each kind is a documented one. -/
theorem exists_form_of_kind (kind : ComponentKind) :
    ∃ f : Form, f.WellFormed ∧ packaged.get? kind.resource = some (String.ofList f.source) := by
  obtain ⟨f, ⟨wf, -⟩, source⟩ := exists_form_laid_out kind
  exact ⟨f, wf, source⟩

end Scaffold.Bundle
