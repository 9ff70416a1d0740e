import Scaffold.Proofs.Generation.Confinement
import Scaffold.Proofs.Generation.Sequence

/-!
# Paths of files

Where the domain and the name of the entity are single components, the path of a file goes down
from the root one component after the other, and what it was made for can be read off it again.
Whatever they are, the files of a full stack have paths of their own.
-/

namespace Scaffold

/-- The domain is one component, and the entity's name in lower case cannot be more than a part of
one. -/
structure FillData.SingleComponents (data : FillData) : Prop where
  domain : '/' ∉ data.domain.toList
  given : data.domain ≠ ""
  elsewhere : data.domain ≠ "."
  name : '/' ∉ data.lowerName.toList

variable {data data' : FillData} {kind kind' : ComponentKind} {root : Path}

/-- The end of a path tells the kind of the file. -/
theorem kind_of_componentPath_eq
    (h : componentPath root kind data = componentPath root kind' data') : kind = kind' := by
  by_contra hne
  apply place_ne hne [] [] root root data data'
  rw [h]

namespace FillData.SingleComponents

theorem componentPath_eq (single : data.SingleComponents) (root : Path) (kind : ComponentKind) :
    componentPath root kind data =
      root.below (applicationsRoot ++ data.domain :: kind.partsOf data) := by
  have domain : (Path.parse data.domain).parts = [data.domain] := by
    rw [Path.parse_of_no_slash single.domain single.given single.elsewhere]
  rw [componentPath_of_no_slash root kind data single.domain single.name, domain,
    List.singleton_append]

/-- The component below the applications is the domain. -/
theorem domain_eq (single : data.SingleComponents) (single' : data'.SingleComponents)
    (h : componentPath root kind data = componentPath root kind' data') :
    data.domain = data'.domain := by
  rw [single.componentPath_eq, single'.componentPath_eq, Path.below, Path.below,
    Path.mk.injEq] at h
  have parts : data.domain :: kind.partsOf data = data'.domain :: kind'.partsOf data' :=
    List.append_cancel_left (List.append_cancel_left h.2)
  exact (List.cons.inj parts).1

theorem lowerName_eq (single : data.SingleComponents) (single' : data'.SingleComponents)
    (named : kind.isWiring = false)
    (h : componentPath root kind data = componentPath root kind data') :
    data.lowerName = data'.lowerName := by
  by_contra hne
  apply place_ne_of_lowerName named [] [] root root single.name single'.name hne
  rw [h]

end FillData.SingleComponents

/-- The path of a file has the components that it is made of, and one root leads to one file only
for one kind, one domain and, unless the file wires the domain together, one name. -/
theorem componentPath_components (root : Path) (kind kind' : ComponentKind) (data data' : FillData)
    (single : data.SingleComponents) (single' : data'.SingleComponents) :
    componentPath root kind data =
        ⟨root.anchor, root.parts ++ ["internal", "applications", data.domain] ++
          kind.folder?.toList ++ [kind.fileName data.lowerName]⟩ ∧
      (componentPath root kind data = componentPath root kind' data' ↔
        kind = kind' ∧ data.domain = data'.domain ∧
          (kind.isWiring = false → data.lowerName = data'.lowerName)) := by
  constructor
  · rw [single.componentPath_eq]
    simp [Path.below, applicationsRoot, ComponentKind.partsOf]
  · constructor
    · intro same
      obtain rfl := kind_of_componentPath_eq same
      refine ⟨rfl, single.domain_eq single' same, ?_⟩
      intro named
      exact single.lowerName_eq single' named same
    · rintro ⟨rfl, domain, lowerName⟩
      cases wiring : kind.isWiring with
      | true => exact componentPath_of_wiring wiring root domain
      | false =>
          simp only [componentPath, domain, lowerName wiring]

/-- A domain that is the parent directory stays a component, and a name that ends as another kind
does leads to a file of its own. -/
theorem componentPath_of_parent_domain :
    let data := FillData.ofRequest ⟨.full, "A_Service", "..", true⟩ "m"
    let data' := FillData.ofRequest ⟨.full, "A", "..", true⟩ "m"
    data.SingleComponents ∧ data'.SingleComponents ∧
      componentPath "//srv/./out" .validator data =
        ⟨.doubleRoot, ["srv", "out", "internal", "applications", "..", "validators",
          "a_service_validator.go"]⟩ ∧
      componentPath "//srv/./out" .service data' ≠ componentPath "//srv/./out" .service data := by
  intro data data'
  have single : data.SingleComponents := ⟨by decide, by decide, by decide, by decide +kernel⟩
  have single' : data'.SingleComponents := ⟨by decide, by decide, by decide, by decide +kernel⟩
  obtain ⟨shape, -⟩ := componentPath_components "//srv/./out" .validator .service data data'
    single single'
  obtain ⟨-, same⟩ := componentPath_components "//srv/./out" .service .service data' data
    single' single
  refine ⟨single, single', shape.trans (by decide +kernel), ?_⟩
  intro h
  exact absurd ((same.mp h).2.2 (by decide)) (by decide +kernel)

/-! ## Full stacks -/

/-- The paths of a plan end in names, and no two of them in one name. -/
theorem exists_finals (g : Generator) (r : Request) :
    ∃ finals : List String,
      ((g.plan r).map (·.path)).map (·.parts.getLast?) = finals.map some ∧
        ".." ∉ finals ∧ finals.Nodup := by
  choose final last tells using fun kind => last_componentPath g.outputRoot kind (g.fillData r)
  refine ⟨r.type.kinds.map final, ?ends, ?named, ?apart⟩
  case ends =>
    rw [Generator.plan, plan, List.map_map, List.map_map, List.map_map]
    exact List.map_congr_left fun kind _ => last kind
  case named =>
    intro dots
    obtain ⟨kind, -, hkind⟩ := List.mem_map.mp dots
    have hstem := tells kind
    rw [hkind, stem_dots] at hstem
    cases kind <;> exact absurd hstem (by decide)
  case apart =>
    refine (Generator.kinds_nodup r.type).map fun kind other same => ?_
    apply ComponentKind.ending_injective
    rw [← tells kind, same, tells other]

/-- What keeps the names at the ends of paths keeps the paths apart. -/
theorem nodup_map_of_finals {α : Type} {paths : List Path} {finals : List String}
    (ends : paths.map (·.parts.getLast?) = finals.map some) (named : ".." ∉ finals)
    (apart : finals.Nodup) (read : Path → α) (last : α → Option String)
    (keeps : ∀ {p : Path} {final : String}, p.parts.getLast? = some final → final ≠ ".." →
      last (read p) = some final) : (paths.map read).Nodup := by
  have same : (paths.map read).map last = finals.map some := by
    rw [← ends, List.map_map]
    refine List.map_congr_left fun p hp => ?_
    have hlast : p.parts.getLast? ∈ finals.map some := ends ▸ List.mem_map_of_mem hp
    obtain ⟨final, hfinal, hp⟩ := List.mem_map.mp hlast
    rw [← hp]
    exact keeps hp.symm fun dots => named (dots ▸ hfinal)
  apply List.Nodup.of_map last
  rw [same]
  exact apart.map (Option.some_injective String)

/-- The files of a full stack have paths of their own, whatever the root, the name and the domain
are made of: as they are written, when the parent directories in them are resolved by their text,
and at their places in any tree.  Each path ends in a name, and no two end in one name. -/
theorem full_stack_apart (g : Generator) (name domain : String) (crud : Bool) :
    let paths := (g.plan ⟨.full, name, domain, crud⟩).map (·.path)
    paths.length = 7 ∧ paths.Nodup ∧ (paths.map Path.way).Nodup ∧
      (∀ tree : FileTree, (paths.map tree.placeOf).Nodup) ∧
      ∃ finals : List String, paths.map (·.parts.getLast?) = finals.map some ∧
        ".." ∉ finals ∧ finals.Nodup := by
  intro paths
  obtain ⟨finals, ends, named, apart⟩ := exists_finals g ⟨.full, name, domain, crud⟩
  refine ⟨rfl, ?written, ?resolved, ?placed, finals, ends, named, apart⟩
  case written =>
    have written := nodup_map_of_finals ends named apart id (·.parts.getLast?) fun hp _ => hp
    rwa [List.map_id] at written
  case resolved =>
    exact nodup_map_of_finals ends named apart Path.way (·.down.getLast?) Path.getLast?_way
  case placed =>
    intro tree
    exact nodup_map_of_finals ends named apart tree.placeOf (·.getLast?) fun hp hne =>
      Path.getLast?_resolveFrom _ hp hne

end Scaffold
