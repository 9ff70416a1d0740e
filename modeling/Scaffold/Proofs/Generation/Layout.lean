import Scaffold.Proofs.Bundle.Packaged
import Scaffold.Proofs.Generation.Output
import Scaffold.Proofs.Generation.Paths

/-!
# Layout of generated code

A generated file names the directory in which it stands as its package, and imports other packages
of its domain from directories in which files of a full stack stand.
-/

namespace Scaffold

open Template

variable {data : FillData}

/-! ## Directories -/

namespace FillData.SingleComponents

theorem parent_componentPath (single : data.SingleComponents) (root : Path)
    (kind : ComponentKind) :
    (componentPath root kind data).parent =
      root.below (applicationsRoot ++ data.domain :: kind.folder?.toList) := by
  have split : applicationsRoot ++ data.domain :: kind.partsOf data =
      (applicationsRoot ++ data.domain :: kind.folder?.toList) ++
        [kind.fileName data.lowerName] := by
    simp [ComponentKind.partsOf]
  rw [single.componentPath_eq, split, Path.parent_below _ (by simp), List.dropLast_concat]

/-- The directory of a file bears the name of the kind's folder, or else of the domain. -/
theorem folder_componentPath (single : data.SingleComponents) (root : Path)
    (kind : ComponentKind) :
    (componentPath root kind data).parent.parts.getLast? =
      some (kind.folder?.getD data.domain) := by
  rw [single.parent_componentPath, Path.below]
  cases kind.folder? <;> simp

end FillData.SingleComponents

/-- The path of a wiring file is that of an entity without a name. -/
theorem folder_of_wiring {kind : ComponentKind} (wiring : kind.isWiring = true) (root : Path)
    (domain : '/' ∉ data.domain.toList) (given : data.domain ≠ "") (elsewhere : data.domain ≠ ".") :
    (componentPath root kind data).parent.parts.getLast? =
      some (kind.folder?.getD data.domain) := by
  let nameless : FillData := { data with lowerName := "" }
  have single : nameless.SingleComponents := ⟨domain, given, elsewhere, List.not_mem_nil⟩
  have same : componentPath root kind nameless = componentPath root kind data :=
    componentPath_of_wiring wiring root rfl
  rw [← same]
  exact single.folder_componentPath root kind

/-! ## Lines -/

namespace Template

theorem mem_of_mem_chosenLines {keep : Bool} {all : List (List Symbol)} {line : List Symbol}
    (h : line ∈ chosenLines data keep all) : line ∈ all := by
  induction all generalizing keep with
  | nil => cases h
  | cons first rest ih =>
      rw [chosenLines] at h
      split at h
      · exact List.mem_cons_of_mem _ (ih h)
      · rcases List.mem_append.mp h with h | h
        · cases keep with
          | false => cases h
          | true => exact List.mem_singleton.mp h ▸ List.mem_cons_self
        · exact List.mem_cons_of_mem _ (ih h)

theorem shown_literal (data : FillData) (text : String) :
    (literal text).flatMap (Symbol.shown data) = text.toList := by
  rw [literal, List.flatMap_map]
  exact List.flatMap_singleton' _

theorem shown_packageLine (data : FillData) (folder? : Option String) :
    (packageLine folder?).flatMap (Symbol.shown data) =
      "package ".toList ++ (folder?.getD data.packageName).toList ++ ['\n'] := by
  rw [packageLine, List.flatMap_append, List.flatMap_append, shown_literal]
  cases folder? with
  | none => simp [packageName, Symbol.shown, FillData.shown, FillData.context]
  | some folder => simp [packageName, Symbol.shown, shown_literal]

theorem shown_importOf (data : FillData) (folder : String) :
    (importOf folder).flatMap (Symbol.shown data) =
      (data.modulePath ++ "/" ++
        ("internal/applications/" ++ data.domain ++ "/" ++ folder)).toList := by
  have module : Symbol.shown data (.place "module_path") = data.modulePath.toList := rfl
  have domain : Symbol.shown data (.place "domain") = data.domain.toList := rfl
  have slash : Symbol.shown data (.char '/') = ['/'] := rfl
  rw [importOf, domainStem, List.flatMap_append, List.cons_append, List.flatMap_cons,
    List.flatMap_append, shown_literal, shown_literal, List.flatMap_cons, List.flatMap_singleton,
    module, domain, slash]
  simp

theorem tag?_literal (text : String) : (literal text).findSome? Symbol.tag? = none := by
  rw [List.findSome?_eq_none_iff]
  intro s hs
  obtain ⟨c, -, rfl⟩ := List.mem_map.mp hs
  rfl

theorem tag?_packageLine (folder? : Option String) :
    (packageLine folder?).findSome? Symbol.tag? = none := by
  cases folder? <;>
    simp [packageLine, packageName, List.findSome?_append, tag?_literal, Symbol.tag?]

/-- The file begins with the line of its package. -/
theorem Form.LaidOut.reference {f : Form} {kind : ComponentKind} (laidOut : f.LaidOut kind)
    (data : FillData) :
    "package ".toList ++ (kind.folder?.getD data.packageName).toList ++ ['\n'] <+:
      f.reference data := by
  obtain ⟨rest, hrest⟩ := List.head?_eq_some_iff.mp laidOut.package
  rw [Form.reference, hrest, chosenLines, tag?_packageLine]
  simp only [if_true, List.singleton_append, List.flatten_cons, List.flatMap_append,
    shown_packageLine]
  exact List.prefix_append _ _

/-- The imports of the file are those of the packages that files of its kind import. -/
theorem Form.LaidOut.import_eq {f : Form} {kind : ComponentKind} (laidOut : f.LaidOut kind)
    {keep : Bool} {line path : List Symbol} (hline : line ∈ chosenLines data keep (lines f.symbols))
    (hpath : path ∈ importsIn line) :
    ∃ kind' ∈ kind.imported, ∃ folder, kind'.folder? = some folder ∧ path = importOf folder := by
  have known : path ∈ (lines f.symbols).flatMap importsIn :=
    List.mem_flatMap.mpr ⟨line, mem_of_mem_chosenLines hline, hpath⟩
  rw [laidOut.imports] at known
  obtain ⟨folder, hfolder, rfl⟩ := List.mem_map.mp known
  obtain ⟨kind', hkind, hfolder⟩ := List.mem_filterMap.mp hfolder
  exact ⟨kind', hkind, folder, hfolder, rfl⟩

end Template

/-! ## Packaged templates -/

theorem ComponentKind.mem_fullStack (kind : ComponentKind) : kind ∈ fullStack := by
  cases kind <;> decide

/-- The directory of a file of a kind with a folder, seen from the root. -/
theorem FillData.SingleComponents.toString_parent (single : data.SingleComponents)
    {kind : ComponentKind} {folder : String} (hfolder : kind.folder? = some folder) :
    (componentPath "." kind data).parent.toString =
      "internal/applications/" ++ data.domain ++ "/" ++ folder := by
  have here : (Path.parse ".").below (applicationsRoot ++ data.domain :: [folder]) =
      ⟨.relative, ["internal", "applications", data.domain, folder]⟩ := by
    rw [show Path.parse "." = ⟨.relative, []⟩ from rfl]
    rfl
  have text : Path.toString ⟨.relative, ["internal", "applications", data.domain, folder]⟩ =
      "internal/" ++ ("applications/" ++ (data.domain ++ ("/" ++ folder))) := by
    simp [Path.toString, Path.anchorText, String.intercalate_cons_cons, String.append_assoc]
  have joined : "internal/applications/" = "internal/" ++ "applications/" := rfl
  rw [single.parent_componentPath, hfolder, Option.toList_some, here, text, joined]
  simp only [String.append_assoc]

/-- Each packaged template gives a file whose package is the directory in which it stands.  The
paths that it builds for other packages of the domain are those of the kinds that it imports, and
lead to directories in which files of a full stack stand. -/
theorem packaged_layout (r : Request) (module : String) (root : Path) (kind : ComponentKind)
    (domain : '/' ∉ r.domain.toList) (given : r.domain ≠ "") (elsewhere : r.domain ≠ ".") :
    let data := FillData.ofRequest r module
    ∃ (f : Form) (program : Program),
      Bundle.packaged.get? kind.resource = some (String.ofList f.source) ∧
      Bundle.packaged.program kind.resource = .ok program ∧
      (∀ draws, program.run data.context draws = ⟨String.ofList (f.reference data), none⟩) ∧
      (kind.isWiring = true ∨ '/' ∉ r.name.toList →
        ∃ folder, (componentPath root kind data).parent.parts.getLast? = some folder ∧
          "package ".toList ++ folder.toList ++ ['\n'] <+: f.reference data) ∧
      (lines f.symbols).flatMap importsIn =
        (kind.imported.filterMap ComponentKind.folder?).map importOf ∧
      ('/' ∉ r.name.toList →
        ∀ line ∈ chosenLines data true (lines f.symbols), ∀ path ∈ importsIn line,
          ∃ kind' ∈ ComponentKind.fullStack, ∃ relative : Path,
            relative.anchor = .relative ∧
            (componentPath root kind' data).parent = root.join relative ∧
            String.ofList (path.flatMap (Symbol.shown data)) =
              module ++ "/" ++ relative.toString) := by
  intro data
  obtain ⟨f, ⟨wf, laidOut⟩, source⟩ := Bundle.exists_form_laid_out kind
  obtain ⟨program, read, runs⟩ := Bundle.program_of_form wf source
  have single (name : '/' ∉ r.name.toList) : data.SingleComponents :=
    ⟨domain, given, elsewhere, Text.not_mem_lowerString name (by decide)⟩
  refine ⟨f, program, source, read, runs data, ?_, laidOut.imports, ?_⟩
  · intro plain
    refine ⟨kind.folder?.getD data.domain, ?_, laidOut.reference data⟩
    rcases plain with wiring | name
    · exact folder_of_wiring wiring root domain given elsewhere
    · exact (single name).folder_componentPath root kind
  · intro name line hline path hpath
    obtain ⟨kind', -, folder, hfolder, rfl⟩ := laidOut.import_eq hline hpath
    refine ⟨kind', kind'.mem_fullStack, (componentPath "." kind' data).parent, ?_, ?_, ?_⟩
    · rw [(single name).parent_componentPath]
      rfl
    · rw [(single name).parent_componentPath, (single name).parent_componentPath]
      rfl
    · rw [shown_importOf, String.ofList_toList, (single name).toString_parent hfolder]
      rfl

theorem packaged_layout_of_order :
    let data := FillData.ofRequest ⟨.full, "Order", "shop", true⟩ "example.com/m"
    ∃ (f : Form) (program : Program),
      Bundle.packaged.program "controller.go.j2" = .ok program ∧
      (∀ draws, program.run data.context draws = ⟨String.ofList (f.reference data), none⟩) ∧
      "package controller\n".toList <+: f.reference data ∧
      (lines f.symbols).flatMap importsIn = [importOf "dto", importOf "service"] ∧
      ∀ line ∈ chosenLines data true (lines f.symbols), ∀ path ∈ importsIn line,
        ∃ kind' ∈ ComponentKind.fullStack, ∃ relative : Path,
          relative.anchor = .relative ∧
          (componentPath "out" kind' data).parent = Path.join "out" relative ∧
          String.ofList (path.flatMap (Symbol.shown data)) =
            "example.com/m/" ++ relative.toString := by
  intro data
  obtain ⟨f, program, -, read, runs, package, imports, paths⟩ :=
    packaged_layout ⟨.full, "Order", "shop", true⟩ "example.com/m" "out" .controller (by decide)
      (by decide) (by decide)
  obtain ⟨folder, stands, begins⟩ := package (Or.inr (by decide))
  have folder_eq : (componentPath "out" .controller data).parent.parts.getLast? =
      some "controller" := by decide +kernel
  obtain rfl : folder = "controller" := Option.some.inj (stands.symm.trans folder_eq)
  exact ⟨f, program, read, runs, begins, imports, paths (by decide)⟩

/-- A name with a slash leads to a directory of its own, whose name is not that of the package. -/
theorem package_of_nested_name :
    let data := FillData.ofRequest ⟨.repository, "x/y", "d", false⟩ defaultModulePath
    (componentPath "." .repository data).parent.parts.getLast? = some "x" ∧
      ∃ program, Bundle.packaged.program "repository.go.j2" = .ok program ∧
        ∀ draws, ¬ "package x\n".toList <+: (program.run data.context draws).text.toList := by
  intro data
  refine ⟨by decide +kernel, ?_⟩
  obtain ⟨f, ⟨wf, laidOut⟩, source⟩ := Bundle.exists_form_laid_out .repository
  obtain ⟨program, read, runs⟩ := Bundle.program_of_form wf source
  refine ⟨program, read, fun draws other => ?_⟩
  simp only [runs, String.toList_ofList] at other
  rcases List.prefix_or_prefix_of_prefix other (laidOut.reference data) with h | h
  · exact absurd h (by decide +kernel)
  · exact absurd h (by decide +kernel)

end Scaffold
