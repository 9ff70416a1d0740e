import Scaffold.Plan
import Scaffold.Proofs.Path.Parts

/-!
# Names of generated files

Whatever the name of the entity is, the last component of a file's path ends in the name of its
kind, so files of different kinds have different names, and none is `..`.
-/

namespace Scaffold

/-- What stands behind the last underscore of a name. -/
def stem (name : String) : List Char := (name.toList.reverse.takeWhile (· ≠ '_')).reverse

theorem takeWhile_reverse_of_plain {name : List Char} (h : '_' ∉ name) (rest : List Char) :
    (name.reverse ++ rest).takeWhile (· ≠ '_') = name.reverse ++ rest.takeWhile (· ≠ '_') := by
  apply List.takeWhile_append_of_pos
  intro c hc
  exact decide_eq_true (fun he => h (he ▸ List.mem_reverse.mp hc))

theorem stem_of_plain {name : List Char} (h : '_' ∉ name) : stem (String.ofList name) = name := by
  have hall := takeWhile_reverse_of_plain h []
  rw [List.append_nil, List.takeWhile_nil, List.append_nil] at hall
  rw [stem, String.toList_ofList, hall, List.reverse_reverse]

theorem stem_of_underscore (front : List Char) {back : List Char} (h : '_' ∉ back) :
    stem (String.ofList (front ++ '_' :: back)) = back := by
  rw [stem, String.toList_ofList, List.reverse_append, List.reverse_cons, List.append_assoc,
    takeWhile_reverse_of_plain h, List.singleton_append, List.takeWhile_cons_of_neg (by simp),
    List.append_nil, List.reverse_reverse]

namespace ComponentKind

/-- The end of a file's name that tells its kind. -/
def ending (kind : ComponentKind) : List Char := (kind.name ++ ".go").toList

theorem ending_injective : Function.Injective ending := by
  intro kind other h
  cases kind <;> cases other <;> first | rfl | exact absurd h (by decide)

theorem ending_plain (kind : ComponentKind) : '_' ∉ kind.ending ∧ '/' ∉ kind.ending := by
  cases kind <;> decide

theorem ending_ne (kind : ComponentKind) (front : List Char) :
    front ++ kind.ending ≠ [] ∧ front ++ kind.ending ≠ ['.'] := by
  have hlast : (front ++ kind.ending).getLast? = some 'o' := by
    rw [List.getLast?_append]
    cases kind <;> rfl
  constructor
  · intro h
    rw [h] at hlast
    cases hlast
  · intro h
    rw [h] at hlast
    exact absurd hlast (by decide)

/-- The last component of a file's name, read as a path. -/
theorem last_fileName (kind : ComponentKind) (lowerName : String) :
    ∃ last, (Path.parse (kind.fileName lowerName)).parts.getLast? = some last ∧
      stem last = kind.ending := by
  unfold fileName
  split
  · refine ⟨String.ofList kind.ending, ?_, stem_of_plain kind.ending_plain.1⟩
    change (Path.components kind.ending).getLast? = _
    rw [Path.components_of_no_slash kind.ending_plain.2 (kind.ending_ne []).1 (kind.ending_ne []).2,
      List.getLast?_singleton]
  · have htext : (lowerName ++ "_" ++ kind.name ++ ".go").toList =
        lowerName.toList ++ '_' :: kind.ending := by
      simp [ending]
    obtain ⟨tail, -, hlast⟩ := Path.getLast?_components lowerName.toList ('_' :: kind.ending)
      (by simp [kind.ending_plain.2])
      (fun tail => by simpa using kind.ending_ne (tail ++ ['_']))
    refine ⟨_, ?_, stem_of_underscore tail kind.ending_plain.1⟩
    rw [Path.parse, htext]
    exact hlast

end ComponentKind

/-! ## Paths of files -/

/-- The directory that holds the domains. -/
def applicationsPath (root : Path) : Path := root.below applicationsRoot

/-- The path of a file of a kind below the directory of the applications. -/
def ComponentKind.fragment (kind : ComponentKind) (data : FillData) : Path :=
  match kind.folder? with
  | some folder => Path.parse data.domain / folder / kind.fileName data.lowerName
  | none => Path.parse data.domain / kind.fileName data.lowerName

theorem domainPath_eq_join (root : Path) (domain : String) :
    domainPath root domain = (applicationsPath root).join domain := by
  have internal : Path.parse "internal" = ⟨.relative, ["internal"]⟩ :=
    Path.parse_of_no_slash (by decide) (by decide) (by decide)
  have applications : Path.parse "applications" = ⟨.relative, ["applications"]⟩ :=
    Path.parse_of_no_slash (by decide) (by decide) (by decide)
  have down : root / "internal" / "applications" = applicationsPath root := by
    change (root.join (Path.parse "internal")).join (Path.parse "applications") = _
    rw [internal, applications]
    simp [Path.join, applicationsPath, Path.below, applicationsRoot]
  rw [← down]
  rfl

theorem componentPath_eq_join (root : Path) (kind : ComponentKind) (data : FillData) :
    componentPath root kind data = (applicationsPath root).join (kind.fragment data) := by
  rw [componentPath, domainPath_eq_join, ComponentKind.fragment]
  cases kind.folder? with
  | none => exact Path.join_assoc ..
  | some folder => exact (congrArg (Path.join · _) (Path.join_assoc ..)).trans (Path.join_assoc ..)

theorem last_componentPath (root : Path) (kind : ComponentKind) (data : FillData) :
    ∃ last, (componentPath root kind data).parts.getLast? = some last ∧
      stem last = kind.ending := by
  obtain ⟨last, hlast, hstem⟩ := kind.last_fileName data.lowerName
  have hne : (Path.parse (kind.fileName data.lowerName)).parts ≠ [] := by
    intro h
    rw [h] at hlast
    cases hlast
  refine ⟨last, ?_, hstem⟩
  unfold componentPath
  split
  · exact (Path.getLast?_join _ _ hne).trans hlast
  · exact (Path.getLast?_join _ _ hne).trans hlast

theorem stem_dots : stem ".." = ['.', '.'] := by decide

/-- The place of a file bears the name of its kind, wherever the path leads. -/
theorem last_place (start : List String) (root : Path) (kind : ComponentKind) (data : FillData) :
    ∃ last, (Path.resolveFrom start (componentPath root kind data).parts).getLast? = some last ∧
      stem last = kind.ending := by
  obtain ⟨last, hlast, hstem⟩ := last_componentPath root kind data
  refine ⟨last, Path.getLast?_resolveFrom start hlast ?_, hstem⟩
  rintro rfl
  rw [stem_dots] at hstem
  cases kind <;> exact absurd hstem (by decide)

/-- Files of different kinds stand at different places, also where their paths start apart or the
data differ. -/
theorem place_ne {kind other : ComponentKind} (h : kind ≠ other) (start start' : List String)
    (root root' : Path) (data data' : FillData) :
    Path.resolveFrom start (componentPath root kind data).parts ≠
      Path.resolveFrom start' (componentPath root' other data').parts := by
  intro he
  obtain ⟨last, hlast, hstem⟩ := last_place start root kind data
  obtain ⟨last', hlast', hstem'⟩ := last_place start' root' other data'
  rw [he, hlast'] at hlast
  cases hlast
  exact h (ComponentKind.ending_injective (hstem.symm.trans hstem'))

/-- Wiring files are the same for all entities of a domain. -/
theorem componentPath_of_wiring {kind : ComponentKind} (wiring : kind.isWiring = true) (root : Path)
    {data data' : FillData} (domain : data'.domain = data.domain) :
    componentPath root kind data' = componentPath root kind data := by
  have folder : kind.folder? = none := by simpa [ComponentKind.isWiring] using wiring
  simp only [componentPath, folder, domain, ComponentKind.fileName, wiring, if_true]

/-! ## Names without a slash -/

theorem ComponentKind.toList_fileName {kind : ComponentKind} (named : kind.isWiring = false)
    (lowerName : String) :
    (kind.fileName lowerName).toList = lowerName.toList ++ '_' :: kind.ending := by
  rw [fileName, if_neg (by simp [named])]
  simp [ending]

theorem ComponentKind.getLast?_fileName (kind : ComponentKind) (lowerName : String) :
    (kind.fileName lowerName).toList.getLast? = some 'o' := by
  cases kind <;> simp [fileName, isWiring, folder?, name]

/-- A file's name holds no signs but those of the entity's name and of the kind. -/
theorem ComponentKind.not_mem_fileName (kind : ComponentKind) {lowerName : String} {c : Char}
    (h : c ∉ lowerName.toList) (underscore : c ≠ '_') (ending : c ∉ kind.ending) :
    c ∉ (kind.fileName lowerName).toList := by
  cases wiring : kind.isWiring with
  | false =>
      rw [toList_fileName wiring, List.mem_append, List.mem_cons, not_or, not_or]
      exact ⟨h, underscore, ending⟩
  | true =>
      rw [fileName, if_pos wiring]
      exact ending

/-- A file's name is one component if the name of the entity holds no slash. -/
theorem ComponentKind.parse_fileName (kind : ComponentKind) {lowerName : String}
    (slash : '/' ∉ lowerName.toList) :
    Path.parse (kind.fileName lowerName) = ⟨.relative, [kind.fileName lowerName]⟩ := by
  have last := kind.getLast?_fileName lowerName
  refine Path.parse_of_no_slash ?_ ?_ ?_
  · exact kind.not_mem_fileName slash (by decide) kind.ending_plain.2
  · intro empty
    rw [empty] at last
    cases last
  · intro dot
    rw [dot] at last
    exact absurd last (by decide)

theorem ComponentKind.fileName_ne_dots (kind : ComponentKind) (lowerName : String) :
    kind.fileName lowerName ≠ ".." := by
  intro dots
  have last := kind.getLast?_fileName lowerName
  rw [dots] at last
  exact absurd last (by decide)

/-- The place of a file bears its whole name if that is one component. -/
theorem last_place_of_plain (kind : ComponentKind) (start : List String) (root : Path)
    {data : FillData} (slash : '/' ∉ data.lowerName.toList) :
    (Path.resolveFrom start (componentPath root kind data).parts).getLast? =
      some (kind.fileName data.lowerName) := by
  have single := kind.parse_fileName slash
  have last : (componentPath root kind data).parts.getLast? =
      some (kind.fileName data.lowerName) := by
    unfold componentPath
    split <;> exact (Path.getLast?_join _ _ (by simp [single])).trans (by simp [single])
  exact Path.getLast?_resolveFrom start last (kind.fileName_ne_dots _)

/-- Entities with different names in lower case have files of their own. -/
theorem place_ne_of_lowerName {kind : ComponentKind} (named : kind.isWiring = false)
    (start start' : List String) (root root' : Path) {data data' : FillData}
    (slash : '/' ∉ data.lowerName.toList) (slash' : '/' ∉ data'.lowerName.toList)
    (h : data.lowerName ≠ data'.lowerName) :
    Path.resolveFrom start (componentPath root kind data).parts ≠
      Path.resolveFrom start' (componentPath root' kind data').parts := by
  intro he
  have last := last_place_of_plain kind start root slash
  rw [he, last_place_of_plain kind start' root' slash', Option.some.injEq] at last
  have text := congrArg String.toList last
  rw [kind.toList_fileName named, kind.toList_fileName named] at text
  exact h (String.toList_inj.mp (List.append_cancel_right text)).symm

end Scaffold
