import Scaffold.Generate
import Scaffold.Proofs.Generation.Names
import Scaffold.Proofs.Path.Lexical
import Scaffold.Proofs.Text.Lower

/-!
# Where the files of a request lie

The domain and the name of an entity are read as paths of their own.  They stay below the
directory of the applications for every output root as soon as they do so for one that says
nothing, and there are requests for which they do not.
-/

namespace Scaffold

/-- A file that stays below the applications where the output root says nothing stays there for
every output root. -/
theorem componentPath_isBelow {kind : ComponentKind} {data : FillData}
    (here : (componentPath "." kind data).IsBelow (applicationsPath ".")) (root : Path) :
    (componentPath root kind data).IsBelow (applicationsPath root) := by
  rw [componentPath_eq_join] at here ⊢
  exact Path.isBelow_join_of_here (by decide) here root

namespace Generator

/-- The generator with another output root. -/
def rootedAt (g : Generator) (root : Path) : Generator := { g with outputRoot := root }

/-- All files of a request lie below the directory of the applications. -/
def Confines (g : Generator) (r : Request) : Prop :=
  ∀ step ∈ g.plan r, step.path.IsBelow (applicationsPath g.outputRoot)

instance (g : Generator) (r : Request) : Decidable (g.Confines r) :=
  inferInstanceAs (Decidable (∀ step ∈ g.plan r, _))

/-- One output root tells whether a request is confined below every output root. -/
theorem confines_iff_here (g : Generator) (r : Request) :
    (∀ root, (g.rootedAt root).Confines r) ↔ (g.rootedAt ".").Confines r := by
  constructor
  · intro everywhere
    exact everywhere "."
  · intro here root step hstep
    obtain ⟨kind, hkind, rfl⟩ := List.mem_map.mp hstep
    have below := here _ (List.mem_map_of_mem hkind)
    exact componentPath_isBelow below root

end Generator

/-! ## Names without a slash -/

/-- The components of a file below the directory of the applications. -/
def ComponentKind.partsOf (kind : ComponentKind) (data : FillData) : List String :=
  kind.folder?.toList ++ [kind.fileName data.lowerName]

theorem ComponentKind.partsOf_plain (kind : ComponentKind) (data : FillData) :
    ".." ∉ kind.partsOf data := by
  have folder : ".." ∉ kind.folder?.toList := by
    cases kind <;> decide
  intro hm
  rcases List.mem_append.mp hm with hm | hm
  · exact folder hm
  · exact kind.fileName_ne_dots _ (List.mem_singleton.mp hm).symm

theorem componentPath_of_no_slash (root : Path) (kind : ComponentKind) (data : FillData)
    (domain : '/' ∉ data.domain.toList) (name : '/' ∉ data.lowerName.toList) :
    componentPath root kind data =
      root.below (applicationsRoot ++
        ((Path.parse data.domain).parts ++ kind.partsOf data)) := by
  have file := kind.parse_fileName name
  have top : Path.parse data.domain = ⟨.relative, (Path.parse data.domain).parts⟩ := by
    rw [Path.parse, Path.anchorOf_of_no_slash domain]
  have folders : ∀ folder ∈ kind.folder?, Path.parse folder = ⟨.relative, [folder]⟩ := by
    cases kind <;> simp only [ComponentKind.folder?, Option.mem_def, Option.some.injEq,
      forall_eq', reduceCtorEq, false_imp_iff, implies_true] <;> decide
  have fragment : kind.fragment data =
      ⟨.relative, (Path.parse data.domain).parts ++ kind.partsOf data⟩ := by
    unfold ComponentKind.fragment ComponentKind.partsOf
    cases hfolder : kind.folder? with
    | none =>
        change (Path.parse data.domain).join (Path.parse _) = _
        rw [file, top]
        rfl
    | some folder =>
        change ((Path.parse data.domain).join (Path.parse _)).join (Path.parse _) = _
        rw [file, folders folder hfolder, top, Path.join_assoc]
        rfl
  rw [componentPath_eq_join, fragment, ← Path.below_below]
  rfl

/-- Without slashes it is the parent directory alone that leads out of the applications. -/
theorem Generator.confines_iff_of_no_slash (g : Generator) {r : Request}
    (domain : '/' ∉ r.domain.toList) (name : '/' ∉ r.name.toList) :
    (∀ root, (g.rootedAt root).Confines r) ↔ r.domain ≠ ".." := by
  have lower : '/' ∉ (Text.lowerString r.name).toList := Text.not_mem_lowerString name (by decide)
  have path (root : Path) (kind : ComponentKind) := componentPath_of_no_slash root kind
    (.ofRequest r g.modulePath) domain lower
  constructor
  · intro confined up
    obtain ⟨kind, hkind⟩ : ∃ kind, kind ∈ r.type.kinds := by
      cases r.type <;> exact ⟨_, List.mem_cons_self⟩
    have down : (applicationsPath ".").way.down <+:
        (componentPath "." kind (FillData.ofRequest r g.modulePath)).way.down :=
      (confined "." _ (List.mem_map_of_mem hkind)).down
    -- The parent directory takes back `applications`, and no file has a part of that name.
    have above : (componentPath "." kind (FillData.ofRequest r g.modulePath)).way =
        ⟨0, "internal" :: kind.partsOf (FillData.ofRequest r g.modulePath)⟩ := by
      have parts : (Path.parse r.domain).parts = [".."] := by
        rw [up]
        decide
      rw [path, FillData.ofRequest, parts]
      exact Path.Way.follow_plain ⟨0, ["internal"]⟩ (kind.partsOf_plain _)
    have first : "applications" ∉ (kind.partsOf (FillData.ofRequest r g.modulePath)).head? := by
      cases kind <;> simp [ComponentKind.partsOf, ComponentKind.folder?, ComponentKind.fileName,
        ComponentKind.isWiring, ComponentKind.name]
    have dir : (applicationsPath ".").way.down = ["internal", "applications"] := by
      decide
    rw [dir, above, List.cons_prefix_cons] at down
    obtain ⟨rest, hrest⟩ := down.2
    rw [← hrest] at first
    exact first rfl
  · intro ne root step hstep
    obtain ⟨kind, -, rfl⟩ := List.mem_map.mp hstep
    show (componentPath root kind (FillData.ofRequest r g.modulePath)).IsBelow _
    rw [path]
    refine Path.isBelow_below root ?_ (by simp [ComponentKind.partsOf])
    rw [List.mem_append, List.mem_append, not_or, not_or]
    exact ⟨by decide, fun hm => ne (Path.eq_of_mem_parts domain hm).symm, kind.partsOf_plain _⟩

namespace Generator

/-- A request is confined below every output root as soon as it is below one.  Without slashes in
name and domain that is so unless the domain is the parent directory. -/
theorem confines_iff (g : Generator) (r : Request) :
    ((∀ root, (g.rootedAt root).Confines r) ↔ (g.rootedAt ".").Confines r) ∧
      ('/' ∉ r.domain.toList → '/' ∉ r.name.toList →
        ((∀ root, (g.rootedAt root).Confines r) ↔ r.domain ≠ "..")) :=
  ⟨g.confines_iff_here r, g.confines_iff_of_no_slash⟩

/-- An anchor in the domain leads away from the output root. -/
theorem anchored_domain_not_confined :
    Request.ofInput (.text "dto") (.text "product") (.text "/abs") (.bool false) =
        .ok ⟨.dto, "product", "/abs", false⟩ ∧
      ¬ (Generator.mk ⟨[], ""⟩ "r" "m" fun _ _ => 0).Confines ⟨.dto, "product", "/abs", false⟩ :=
  ⟨rfl, by decide +kernel⟩

end Generator

end Scaffold
