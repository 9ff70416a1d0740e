import Scaffold.Proofs.Bundle.Packaged
import Scaffold.Proofs.FileTree.Free
import Scaffold.Proofs.Generation.Output
import Scaffold.Proofs.Generation.Sequence
import Scaffold.Proofs.Text.Lower

/-!
# A full stack on free ground

Where nothing stands in the place of the applications, a full stack of the packaged templates is
written in full: seven files with the directories that hold them, and nothing else changes.
-/

namespace Scaffold

open Template FileTree

/-- The place of a file of a full stack, below the root. -/
def ComponentKind.place (lowerName domain : String) (kind : ComponentKind) : Location :=
  ["internal", "applications", domain] ++
    match kind with
    | dto => ["dto", lowerName ++ "_dto.go"]
    | validator => ["validators", lowerName ++ "_validator.go"]
    | repository => ["repository", lowerName ++ "_repository.go"]
    | service => ["service", lowerName ++ "_service.go"]
    | controller => ["controller", lowerName ++ "_controller.go"]
    | providers => ["providers.go"]
    | registry => ["registry.go"]

/-- The folders of a domain. -/
def stackFolders : List String := ["dto", "validators", "repository", "service", "controller"]

/-- The places of the directories of a full stack, below the root. -/
def stackDirectories (domain : String) : List Location :=
  [["internal"], ["internal", "applications"], ["internal", "applications", domain]] ++
    stackFolders.map fun folder => ["internal", "applications", domain, folder]

/-! ## Names -/

/-- All components on the way to a file of a stack are names. -/
theorem ComponentKind.place_names {lowerName domain : String} (slash : '/' ∉ lowerName.toList)
    (nul : '\x00' ∉ lowerName.toList) (fits : lowerName.utf8ByteSize ≤ 241)
    (name : EntryName domain) (kind : ComponentKind) :
    ∀ part ∈ kind.place lowerName domain, EntryName part := by
  have file {back : String} (hback : EntryName back ∧ 3 ≤ back.length ∧ back.utf8ByteSize ≤ 14) :
      EntryName (lowerName ++ back) := by
    refine .of_append slash nul hback.1 hback.2.1 ?_
    have := hback.2.2
    unfold nameLimit
    omega
  have root : ∀ part ∈ ["internal", "applications", domain], EntryName part := by
    simp only [List.forall_mem_cons]
    exact ⟨by decide, by decide, name, by simp⟩
  intro part hm
  rcases List.mem_append.mp hm with hm | hm
  · exact root part hm
  · cases kind <;> simp only [List.mem_cons, List.not_mem_nil, or_false] at hm
    case providers | registry => subst hm; decide
    all_goals
      rcases hm with rfl | rfl
      · decide
      · exact file (by decide)

theorem domainPath_eq (root : Path) {domain : String} (name : EntryName domain) :
    domainPath root domain = root.below ["internal", "applications", domain] := by
  rw [domainPath_eq_join]
  exact (name.div (applicationsPath root)).trans (Path.below_below ..)

theorem ComponentKind.place_eq (lowerName domain : String) (kind : ComponentKind) :
    kind.place lowerName domain =
      ["internal", "applications", domain] ++
        (kind.folder?.toList ++ [kind.fileName lowerName]) := by
  have ending (name : String) :
      lowerName ++ "_" ++ name ++ ".go" = lowerName ++ ("_" ++ (name ++ ".go")) := by
    rw [String.append_assoc, String.append_assoc]
  cases kind with
  | providers | registry => rfl
  | _ => simp [place, folder?, fileName, isWiring, ending, ComponentKind.name]

theorem ComponentKind.length_place (lowerName domain : String) (kind : ComponentKind) :
    (kind.place lowerName domain).length ≤ 5 := by
  cases kind <;> simp [place]

/-- The path of a file of a stack goes down from the root. -/
theorem componentPath_eq (root : Path) {data : FillData} (kind : ComponentKind)
    (name : EntryName data.domain)
    (names : ∀ part ∈ kind.place data.lowerName data.domain, EntryName part) :
    componentPath root kind data = root.below (kind.place data.lowerName data.domain) := by
  rw [ComponentKind.place_eq] at names ⊢
  have file := names (kind.fileName data.lowerName) (by simp)
  rw [componentPath, domainPath_eq root name]
  cases hfolder : kind.folder? with
  | none =>
      simp only [Option.toList_none, List.nil_append]
      rw [file.div, Path.below_below]
  | some folder =>
      simp only [Option.toList_some]
      rw [file.div, (names folder (by simp [hfolder])).div, Path.below_below, Path.below_below]

/-! ## Ways -/

section

variable {here : Location} {domain : String}

theorem visited_place (lowerName : String) (down : domain ≠ "..") (kind : ComponentKind) :
    visited here (kind.place lowerName domain).dropLast =
      ([["internal"], ["internal", "applications"], ["internal", "applications", domain]] ++
        kind.folder?.toList.map fun folder => ["internal", "applications", domain, folder]).map
          fun dir => here ++ dir := by
  cases kind <;> simp [ComponentKind.place, ComponentKind.folder?, visited, down]

/-- The ways to the files of a stack lead through its directories. -/
theorem mem_stackDirectories_of_visited (lowerName : String) (down : domain ≠ "..")
    (kind : ComponentKind) {loc : Location}
    (h : loc ∈ visited here (kind.place lowerName domain).dropLast) :
    ∃ dir ∈ stackDirectories domain, loc = here ++ dir := by
  have folders : kind.folder?.toList ⊆ stackFolders := by
    cases kind <;> decide
  rw [visited_place lowerName down kind] at h
  obtain ⟨dir, hdir, rfl⟩ := List.mem_map.mp h
  refine ⟨dir, ?_, rfl⟩
  rcases List.mem_append.mp hdir with hdir | hdir
  · exact List.mem_append_left _ hdir
  · exact List.mem_append_right _ (List.map_subset _ folders hdir)

/-- Each directory of a stack is on the way to one of its files. -/
theorem visited_of_mem_stackDirectories (lowerName : String) (down : domain ≠ "..")
    {dir : Location} (h : dir ∈ stackDirectories domain) :
    ∃ kind : ComponentKind, here ++ dir ∈ visited here (kind.place lowerName domain).dropLast := by
  have folders : ∀ folder ∈ stackFolders,
      ∃ kind ∈ ComponentKind.fullStack, folder ∈ kind.folder?.toList := by
    decide
  rcases List.mem_append.mp h with h | h
  · refine ⟨.dto, ?_⟩
    rw [visited_place lowerName down]
    exact List.mem_map_of_mem (List.mem_append_left _ h)
  · obtain ⟨folder, hfolder, rfl⟩ := List.mem_map.mp h
    obtain ⟨kind, -, hkind⟩ := folders folder hfolder
    refine ⟨kind, ?_⟩
    rw [visited_place lowerName down]
    exact List.mem_map_of_mem (List.mem_append_right _ (List.mem_map_of_mem hkind))

theorem ComponentKind.place_ne (lowerName : String) (kind : ComponentKind) {dir : Location}
    (h : dir ∈ stackDirectories domain) : kind.place lowerName domain ≠ dir := by
  rintro rfl
  cases kind <;> simp [ComponentKind.place, stackDirectories, stackFolders] at h

end

/-! ## Steps -/

/-- A file below a directory is written where nothing but directories and files is in the way. -/
theorem render_below {bundle : Bundle} {resource : String} {program : Program}
    {data : List (String × Value)} {draws : Draws} {root : Path} {here loc : Location}
    {last : String} {tree : FileTree} (walked : tree.walk (tree.start root) root.parts = .ok here)
    (nul : hasNul (root.below (loc ++ [last])) = false)
    (short : (root.below (loc ++ [last])).toString.utf8ByteSize ≤ pathLimit)
    (few : loc.length ≤ FileTree.callLimit) (plain : ∀ part ∈ loc ++ [last], FileTree.Plain part)
    (ways : ∀ l ∈ visited here loc, tree.get? l = none ∨ tree.get? l = some .directory)
    (file : ∀ e, tree.get? (here ++ (loc ++ [last])) = some e → ∃ content, e = .file content)
    (read : bundle.program resource = .ok program)
    (ended : (program.run data draws).trouble? = none) :
    ∃ final, Disk.on (render bundle resource (root.below (loc ++ [last])) data draws) tree =
      (.ok (), final) := by
  have parent : (root.below (loc ++ [last])).parent = root.below loc := by
    rw [Path.parent_below root (by simp), List.dropLast_concat]
  obtain ⟨made, hmade, opened, same⟩ := opens_below walked nul short few plain ways
    (fun h => by obtain ⟨content, hc⟩ := file _ h; cases hc)
  have nodevice : made.get? (here ++ (loc ++ [last])) ≠ some .fullDevice := by
    rw [same]
    intro device
    obtain ⟨content, hc⟩ := file _ device
    cases hc
  rw [← parent] at hmade
  have found : (tree.withDirectory (root.below (loc ++ [last])).parent).2 = some (here ++ loc) := by
    rw [hmade]
  have left : (tree.withDirectory (root.below (loc ++ [last])).parent).1 = made := by
    rw [hmade]
  rw [← left] at opened nodevice
  have filled := render_filled data draws read found opened (fun device => absurd device nodevice)
  rw [ended] at filled
  exact ⟨_, filled⟩

/-- The tree is on the way from another one to a stack below a place. -/
def Underway (here : Location) (lowerName domain : String) : FileTree → FileTree → Prop :=
  Grows {loc | ∃ dir ∈ stackDirectories domain, loc = here ++ dir}
    {loc | ∃ kind : ComponentKind, loc = here ++ kind.place lowerName domain}

section

variable {here : Location} {lowerName domain : String} {tree tree' : FileTree}

theorem Underway.directory (underway : Underway here lowerName domain tree tree')
    {dir : Location} (h : dir ∈ stackDirectories domain) (free : tree.get? (here ++ dir) = none) :
    tree'.get? (here ++ dir) = none ∨ tree'.get? (here ++ dir) = some .directory := by
  cases hs : tree'.get? (here ++ dir) with
  | none => exact Or.inl rfl
  | some e =>
      rcases underway.fresh _ e free hs with ⟨rfl, -⟩ | ⟨-, kind, he⟩
      · exact Or.inr rfl
      · exact absurd (List.append_cancel_left he).symm (kind.place_ne lowerName h)

theorem Underway.file (underway : Underway here lowerName domain tree tree')
    (kind : ComponentKind) (free : tree.get? (here ++ kind.place lowerName domain) = none)
    {e : Entry} (h : tree'.get? (here ++ kind.place lowerName domain) = some e) :
    ∃ content, e = .file content := by
  rcases underway.fresh _ e free h with ⟨-, dir, hdir, he⟩ | ⟨file, -⟩
  · exact absurd (List.append_cancel_left he) (kind.place_ne lowerName hdir)
  · exact file

end

/-- The conditions under which a full stack can be written below a root. -/
structure StackGround (root : Path) (data : FillData) (tree : FileTree) : Prop where
  walked : tree.walk (tree.start root) root.parts = .ok (tree.placeOf root)
  legal : hasNul root = false
  free : ∀ rest, tree.get? (tree.placeOf root ++ "internal" :: rest) = none
  domain : EntryName data.domain
  names : ∀ kind : ComponentKind, ∀ part ∈ kind.place data.lowerName data.domain, EntryName part
  short : ∀ kind : ComponentKind,
    (root.below (kind.place data.lowerName data.domain)).toString.utf8ByteSize ≤ pathLimit

namespace StackGround

variable {root : Path} {data : FillData} {tree before : FileTree}

theorem free_file (ground : StackGround root data tree) (kind : ComponentKind) :
    tree.get? (tree.placeOf root ++ kind.place data.lowerName data.domain) = none :=
  ground.free _

theorem free_directory (ground : StackGround root data tree) {dir : Location}
    (h : dir ∈ stackDirectories data.domain) : tree.get? (tree.placeOf root ++ dir) = none := by
  rcases List.mem_append.mp h with h | h
  · simp only [List.mem_cons, List.not_mem_nil, or_false] at h
    rcases h with rfl | rfl | rfl <;> exact ground.free _
  · obtain ⟨folder, -, rfl⟩ := List.mem_map.mp h
    exact ground.free _

/-- On the way to a stack each of its files can be written. -/
theorem render_succeeds (ground : StackGround root data tree)
    (underway : Underway (tree.placeOf root) data.lowerName data.domain tree before)
    {bundle : Bundle} {program : Program} {draws : Draws} (kind : ComponentKind)
    (read : bundle.program kind.resource = .ok program)
    (ended : (program.run data.context draws).trouble? = none) :
    ∃ final, Disk.on
        (render bundle kind.resource (componentPath root kind data) data.context draws) before =
          (.ok (), final) := by
  obtain ⟨loc, last, hplace⟩ : ∃ loc last,
      kind.place data.lowerName data.domain = loc ++ [last] := by
    rw [kind.place_eq]
    exact ⟨_, _, (List.append_assoc ..).symm⟩
  have ways : ∀ l ∈ visited (tree.placeOf root)
        (kind.place data.lowerName data.domain).dropLast,
      before.get? l = none ∨ before.get? l = some .directory := by
    intro l hm
    obtain ⟨dir, hdir, rfl⟩ :=
      mem_stackDirectories_of_visited data.lowerName ground.domain.down kind hm
    exact underway.directory hdir (ground.free_directory hdir)
  have file (e : Entry) (h : before.get?
        (tree.placeOf root ++ kind.place data.lowerName data.domain) = some e) :
      ∃ content, e = .file content :=
    underway.file kind (ground.free_file kind) h
  have walked := walk_of_grows underway ground.walked
  rw [← underway.start root] at walked
  have names := ground.names kind
  have short := ground.short kind
  have few := kind.length_place data.lowerName data.domain
  have nul := hasNul_below ground.legal names
  rw [componentPath_eq root kind ground.domain names]
  rw [hplace] at names short few nul ways file ⊢
  rw [List.dropLast_concat] at ways
  have few : loc.length ≤ FileTree.callLimit := by
    rw [List.length_append, List.length_singleton] at few
    exact (Nat.le_of_succ_le few).trans (by decide)
  exact render_below walked nul short few (fun part hm => (names part hm).toPlain) ways file read
    ended

/-- What rendering one of the files changes keeps the tree on the way to a stack. -/
theorem render_underway (ground : StackGround root data tree)
    (underway : Underway (tree.placeOf root) data.lowerName data.domain tree before)
    (kind : ComponentKind) {after : FileTree}
    (grows : Grows
      {loc | loc ∈ visited (before.start (componentPath root kind data))
        (componentPath root kind data).parent.parts}
      {before.placeOf (componentPath root kind data)} before after) :
    Underway (tree.placeOf root) data.lowerName data.domain tree after := by
  have names := ground.names kind
  have hne : kind.place data.lowerName data.domain ≠ [] := by
    simp [kind.place_eq]
  have start : before.start (root.below (kind.place data.lowerName data.domain)) =
      before.start root := rfl
  rw [componentPath_eq root kind ground.domain names, Path.parent_below root hne, start] at grows
  have walked := walk_of_grows underway ground.walked
  rw [← underway.start root] at walked
  refine underway.trans (grows.mono_of_free (fun loc hm free => ?_) (fun loc hm => ?_))
  · have hm : loc ∈ visited (before.start root)
        (root.parts ++ (kind.place data.lowerName data.domain).dropLast) := hm
    rw [visited_append, ← walk_eq_resolveFrom walked, List.mem_append] at hm
    rcases hm with hm | hm
    · rw [directory_of_walk walked hm] at free
      cases free
    · exact mem_stackDirectories_of_visited data.lowerName ground.domain.down kind hm
  · rw [Set.mem_singleton_iff.mp hm, placeOf_of_grows underway,
      placeOf_below tree root (fun part hp => (names part hp).toPlain)]
    exact ⟨kind, rfl⟩

end StackGround

/-! ## The whole stack -/

/-- The second tree is the first one with a full stack below a place: the directories and files are
new, each file holds what its packaged template gives for the data, and all else is as before. -/
structure Stacked (here : Location) (data : FillData) (tree final : FileTree) : Prop where
  base : final.base = tree.base
  directories : ∀ dir ∈ stackDirectories data.domain,
    tree.get? (here ++ dir) = none ∧ final.get? (here ++ dir) = some .directory
  files : ∀ kind : ComponentKind,
    tree.get? (here ++ kind.place data.lowerName data.domain) = none ∧
      ∃ f : Form, f.WellFormed ∧
        Bundle.packaged.get? kind.resource = some (String.ofList f.source) ∧
        final.get? (here ++ kind.place data.lowerName data.domain) =
          some (.file (String.ofList (f.reference data)).toUTF8)
  others : ∀ loc, (∀ dir ∈ stackDirectories data.domain, loc ≠ here ++ dir) →
    (∀ kind : ComponentKind, loc ≠ here ++ kind.place data.lowerName data.domain) →
    final.get? loc = tree.get? loc

namespace Generator

variable {root : Path} {data : FillData} {tree final : FileTree}

/-- The file of a completed step stands at its place, below directories. -/
theorem Holds.standing {g : Generator} (ground : StackGround root data tree)
    (underway : Underway (tree.placeOf root) data.lowerName data.domain tree final)
    {kind : ComponentKind}
    (holds : g.Holds data ⟨kind, kind.resource, componentPath root kind data⟩ final) :
    (∀ loc ∈ visited (tree.placeOf root) (kind.place data.lowerName data.domain).dropLast,
        final.get? loc = some .directory) ∧
      ∃ program draws, g.bundle.program kind.resource = .ok program ∧
        final.get? (tree.placeOf root ++ kind.place data.lowerName data.domain) =
          some (.file (program.run data.context draws).text.toUTF8) := by
  obtain ⟨program, read, -, content⟩ := holds
  have names := ground.names kind
  have hne : kind.place data.lowerName data.domain ≠ [] := by
    simp [kind.place_eq]
  rw [componentPath_eq root kind ground.domain names] at content
  obtain ⟨-, loc, e, target, found, bytes⟩ := (readBytes_eq_ok_iff ..).mp content
  have place := (place_eq_placeOf target).1
  rw [placeOf_of_grows underway, placeOf_below tree root (fun part hp => (names part hp).toPlain)]
    at place
  subst place
  constructor
  · intro loc hm
    refine directory_of_target target ?_
    have start : final.start (root.below (kind.place data.lowerName data.domain)) =
        tree.start root := underway.start root
    rw [Path.parent_below root hne, start]
    change loc ∈ visited (tree.start root) (root.parts ++ _)
    rw [visited_append, ← walk_eq_resolveFrom ground.walked]
    exact List.mem_append_right _ hm
  · obtain ⟨text, rfl⟩ := underway.file kind (ground.free_file kind) found
    cases bytes
    exact ⟨program, _, read, found⟩

theorem stacked_of_holds {g : Generator} (packaged : g.bundle = Bundle.packaged)
    (ground : StackGround root data tree)
    (underway : Underway (tree.placeOf root) data.lowerName data.domain tree final)
    (holds : ∀ kind : ComponentKind,
      g.Holds data ⟨kind, kind.resource, componentPath root kind data⟩ final) :
    Stacked (tree.placeOf root) data tree final where
  base := underway.base
  directories dir hdir := by
    obtain ⟨kind, above⟩ :=
      visited_of_mem_stackDirectories data.lowerName ground.domain.down hdir
    exact ⟨ground.free_directory hdir, ((holds kind).standing ground underway).1 _ above⟩
  files kind := by
    refine ⟨ground.free_file kind, ?_⟩
    obtain ⟨f, wf, source⟩ := Bundle.exists_form_of_kind kind
    obtain ⟨program, read, runs⟩ := Bundle.program_of_form wf source
    obtain ⟨program', draws, read', file⟩ := ((holds kind).standing ground underway).2
    rw [packaged, read] at read'
    cases read'
    rw [runs data draws] at file
    exact ⟨f, wf, source, file⟩
  others loc hd hf := by
    refine underway.unchanged ?_ ?_
    · rintro ⟨dir, hdir, rfl⟩
      exact hd dir hdir rfl
    · rintro ⟨kind, rfl⟩
      exact hf kind rfl

/-- On free ground all steps of a full stack are completed. -/
theorem attempt_full_stack {g : Generator} {r : Request} (packaged : g.bundle = Bundle.packaged)
    (full : r.type = .full) (ground : StackGround g.outputRoot (g.fillData r) tree) :
    ∃ final, (g.attempt r).run tree = (⟨g.plan r, none⟩, final) ∧
      Stacked (tree.placeOf g.outputRoot) (g.fillData r) tree final := by
  have succeeds : ∀ step ∈ g.plan r, ∀ before,
      Underway (tree.placeOf g.outputRoot) (g.fillData r).lowerName (g.fillData r).domain tree
        before →
        ∃ after, Disk.on (g.renderStep (g.fillData r) step) before = (.ok (), after) ∧
          Underway (tree.placeOf g.outputRoot) (g.fillData r).lowerName (g.fillData r).domain tree
            after := by
    intro step hstep before underway
    obtain ⟨kind, -, rfl⟩ := List.mem_map.mp hstep
    obtain ⟨f, wf, source⟩ := Bundle.exists_form_of_kind kind
    obtain ⟨program, read, runs⟩ := Bundle.program_of_form wf source
    rw [← packaged] at read
    have ended : (program.run (g.fillData r).context
        (g.draws (componentPath g.outputRoot kind (g.fillData r)))).trouble? = none := by
      rw [runs]
    obtain ⟨after, done⟩ := ground.render_succeeds underway kind read ended
    have grows := @renderStep_grows g (g.fillData r)
      ⟨kind, kind.resource, componentPath g.outputRoot kind (g.fillData r)⟩ before after _ done
    exact ⟨after, done, ground.render_underway underway kind grows⟩
  obtain ⟨final, ran, underway⟩ := renderAll_completes (g.plan r) succeeds (.refl ..)
  have holds := renderAll_holds g (g.fillData r) (g.plan r) tree (plan_apart g r tree)
  rw [ran] at holds
  refine ⟨final, ran, stacked_of_holds packaged ground underway (fun kind => holds _ ?_)⟩
  refine List.mem_map_of_mem ?_
  rw [full]
  cases kind <;> decide

/-- Where the output root is a directory without an entry `internal`, a full stack of the packaged
templates is generated in full. -/
theorem generate_full_stack (root : Path) (modulePath name domain : String) (crud : Bool)
    (draws : Path → Template.Draws) (tree : FileTree) (closed : tree.Closed)
    (rooted : tree.isDirectory root = .ok true)
    (free : tree.get? (tree.placeOf root ++ ["internal"]) = none)
    (slash : '/' ∉ name.toList) (nul : '\x00' ∉ name.toList)
    (fits : (Text.lowerString name).utf8ByteSize ≤ 241) (entry : EntryName domain)
    (short : ∀ kind : ComponentKind,
      (root.below (kind.place (Text.lowerString name) domain)).toString.utf8ByteSize < 4096) :
    ∃ log final,
      (generate ⟨Bundle.packaged, root, modulePath, draws⟩ ⟨.full, name, domain, crud⟩).run tree =
        ((ComponentKind.fullStack.map fun kind =>
            ⟨kind, kind.resource, root.below (kind.place (Text.lowerString name) domain)⟩,
          .ok ⟨ComponentKind.fullStack.map fun kind =>
              root.below (kind.place (Text.lowerString name) domain), ComponentKind.fullStack⟩,
          log), final) ∧
      Stacked (tree.placeOf root) (.ofRequest ⟨.full, name, domain, crud⟩ modulePath) tree
        final := by
  let g : Generator := ⟨Bundle.packaged, root, modulePath, draws⟩
  let r : Request := ⟨.full, name, domain, crud⟩
  have ground : StackGround g.outputRoot (g.fillData r) tree := {
    walked := walk_of_isDirectory rooted
    legal := ((isDirectory_eq_true_iff tree root).mp rooted).1
    free := fun rest => by
      have below := closed.free_below free rest
      rwa [List.append_assoc, List.singleton_append] at below
    domain := entry
    names := ComponentKind.place_names (Text.not_mem_lowerString slash (by decide))
      (Text.not_mem_lowerString nul (by decide)) fits entry
    short := fun kind => Nat.le_of_lt_succ (short kind) }
  have steps : g.plan r = ComponentKind.fullStack.map fun kind =>
      ⟨kind, kind.resource, root.below (kind.place (Text.lowerString name) domain)⟩ := by
    refine List.map_congr_left (fun kind _ => ?_)
    rw [componentPath_eq g.outputRoot kind entry (ground.names kind)]
    rfl
  obtain ⟨final, ran, stacked⟩ := attempt_full_stack rfl rfl ground
  refine ⟨((g.attempt r).run tree).1.log r (g.plan r).length, final, ?_, stacked⟩
  rw [generate_run g entry.filled, ran, steps]
  rfl

/-- A full stack in an empty tree. -/
theorem generate_first_stack :
    ∃ steps log final,
      (generate ⟨Bundle.packaged, "/", "m", fun _ _ => 0⟩ ⟨.full, "A", "d", true⟩).run ⟨[], []⟩ =
        ((steps, .ok ⟨["/internal/applications/d/dto/a_dto.go",
            "/internal/applications/d/validators/a_validator.go",
            "/internal/applications/d/repository/a_repository.go",
            "/internal/applications/d/service/a_service.go",
            "/internal/applications/d/controller/a_controller.go",
            "/internal/applications/d/providers.go", "/internal/applications/d/registry.go"],
          ComponentKind.fullStack⟩, log), final) ∧
      Stacked [] (.ofRequest ⟨.full, "A", "d", true⟩ "m") ⟨[], []⟩ final := by
  have closed : Closed ⟨[], []⟩ := by
    intro loc standing
    cases loc with
    | nil => rfl
    | cons part rest => exact absurd rfl standing
  obtain ⟨log, final, run, stacked⟩ := generate_full_stack "/" "m" "A" "d" true _ ⟨[], []⟩ closed
    (by decide +kernel) (by decide +kernel) (by decide) (by decide) (by decide +kernel)
    (by decide +kernel) (fun kind => by cases kind <;> decide +kernel)
  have written : (ComponentKind.fullStack.map fun kind =>
      (Path.parse "/").below (kind.place (Text.lowerString "A") "d")) =
      (["/internal/applications/d/dto/a_dto.go",
        "/internal/applications/d/validators/a_validator.go",
        "/internal/applications/d/repository/a_repository.go",
        "/internal/applications/d/service/a_service.go",
        "/internal/applications/d/controller/a_controller.go",
        "/internal/applications/d/providers.go", "/internal/applications/d/registry.go"] :
          List Path) := by
    decide +kernel
  rw [written] at run
  exact ⟨_, log, final, run, stacked⟩

end Generator

end Scaffold
