import Scaffold.Generate
import Scaffold.Proofs.Bundle.Decoding

/-!
# Bundles that serve alike

Calls see of a bundle the programs of its resources.  These do not depend on the line ends of the
texts.
-/

namespace Scaffold

namespace Text

theorem normalizeNewlines_twice (text : List Char) :
    normalizeNewlines (normalizeNewlines text) = normalizeNewlines text :=
  normalizeNewlines_of_not_mem (Template.not_mem_normalizeNewlines text)

end Text

namespace Bundle

/-- Text with one kind of line end. -/
def oneKind (text : String) : String := String.ofList (Text.normalizeNewlines text.toList)

theorem lex_oneKind (text : String) : Template.lex (oneKind text) = Template.lex text := by
  rw [Template.lex, Template.lex, oneKind, String.toList_ofList, Text.normalizeNewlines_twice]

theorem compile_oneKind (text : String) :
    Template.compile (oneKind text) = Template.compile text := by
  rw [Template.compile, Template.compile, lex_oneKind]

/-- Every call gives the same and leaves the same files, whichever of the bundles serves it. -/
structure Alike (b b' : Bundle) : Prop where
  program : ∀ resource, b.program resource = b'.program resource
  render : ∀ resource path data draws,
    Scaffold.render b resource path data draws = Scaffold.render b' resource path data draws
  renderFile : ∀ resource path data draws,
    Scaffold.renderFile b resource path data draws = Scaffold.renderFile b' resource path data draws
  generate : ∀ root module draws r,
    Scaffold.generate ⟨b, root, module, draws⟩ r = Scaffold.generate ⟨b', root, module, draws⟩ r

variable {b b' : Bundle}

theorem render_of_program (same : ∀ resource, b.program resource = b'.program resource)
    (resource : String) (path : Path) (data : List (String × Template.Value))
    (draws : Template.Draws) :
    Scaffold.render b resource path data draws = Scaffold.render b' resource path data draws := by
  rw [Scaffold.render, Scaffold.render, same]

theorem renderAll_of_program (same : ∀ resource, b.program resource = b'.program resource)
    (root : Path) (module : String) (draws : Path → Template.Draws) (data : FillData)
    (steps : List Step) :
    Generator.renderAll ⟨b, root, module, draws⟩ data steps =
      Generator.renderAll ⟨b', root, module, draws⟩ data steps := by
  induction steps with
  | nil => rfl
  | cons step rest ih =>
      simp only [Generator.renderAll, render_of_program same, ih]

/-- Bundles with the same programs serve alike. -/
theorem Alike.of_program (same : ∀ resource, b.program resource = b'.program resource) :
    Alike b b' where
  program := same
  render := render_of_program same
  renderFile := by
    intro resource path data draws
    rw [Scaffold.renderFile, Scaffold.renderFile, render_of_program same]
  generate := by
    intro root module draws r
    have attempts : Generator.attempt ⟨b, root, module, draws⟩ r =
        Generator.attempt ⟨b', root, module, draws⟩ r :=
      renderAll_of_program same root module draws _ _
    rw [Scaffold.generate, Scaffold.generate, attempts]
    rfl

/-- Bundles of one origin whose texts differ in line ends at most serve alike. -/
theorem Alike.of_get? (origin : b.origin = b'.origin)
    (texts : ∀ resource, b.get? resource = (b'.get? resource).map oneKind) : Alike b b' := by
  refine .of_program fun resource => ?_
  unfold Bundle.program read
  rw [texts, origin]
  cases b'.get? resource with
  | none => rfl
  | some text =>
      change (Template.compile (oneKind text)).mapError _ = (Template.compile text).mapError _
      rw [compile_oneKind]

/-! ## Bundles in memory -/

theorem putSource_of_not_mem {sources : List (String × String)} {name : String}
    (new : name ∉ sources.map Prod.fst) (text : String) :
    putSource sources name text = sources ++ [(name, text)] := by
  refine if_neg fun known => new ?_
  obtain ⟨s, hs, same⟩ := List.any_eq_true.mp known
  exact of_decide_eq_true same ▸ List.mem_map_of_mem hs

/-- Texts under different names are kept as they are. -/
theorem ofList_of_nodup {texts : List (String × String)} (distinct : (texts.map Prod.fst).Nodup)
    (origin : String) : ofList texts origin = ⟨texts, origin⟩ := by
  suffices kept : ∀ known, ((known ++ texts).map Prod.fst).Nodup →
      texts.foldl (fun sources item => putSource sources item.1 item.2) known =
        known ++ texts from
    congrArg (fun sources => Bundle.mk sources origin) (kept [] distinct)
  clear distinct
  induction texts with
  | nil => exact fun known _ => (List.append_nil known).symm
  | cons item rest ih =>
      intro known distinct
      have new : item.1 ∉ known.map Prod.fst := by
        rw [List.map_append, List.map_cons] at distinct
        exact fun old => (List.nodup_append.mp distinct).2.2 _ old _ List.mem_cons_self rfl
      rw [List.append_cons] at distinct ⊢
      rw [List.foldl_cons, putSource_of_not_mem new]
      exact ih _ distinct

end Bundle

end Scaffold
