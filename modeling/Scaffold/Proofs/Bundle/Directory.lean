import Scaffold.Proofs.Bundle.Alike
import Scaffold.Proofs.FileTree.Listing
import Mathlib.Data.String.Basic

/-!
# Bundles of directories

A directory of template files serves like a bundle of their texts in memory.  Where an entry with
the name of a template is no such file, the first of these entries is reported.
-/

namespace Scaffold

namespace Bundle

open FileTree

/-- The entries of a directory that have names of templates, all of them files or directories. -/
structure Shelf (tree : FileTree) (dir : Path) (items : List (String × Entry)) : Prop where
  there : tree.isDirectory dir = .ok true
  places : (tree.entries.map Prod.fst).Nodup
  names : (items.map Prod.fst).Nodup
  resource : ∀ item ∈ items, isResource item.1 = true
  named : ∀ item ∈ items, EntryName item.1
  plain : ∀ item ∈ items, item.2 ≠ .fullDevice
  holds : ∀ name, isResource name = true →
    tree.get? (tree.placeOf dir ++ [name]) = items.lookup name

/-- The path is not too long, and the entry is a file of this text. -/
structure Legible (path : Path) (entry : Entry) (text : String) : Prop where
  fits : path.toString.utf8ByteSize ≤ pathLimit
  file : entry = .file text.toUTF8

/-- Why an entry is no template file. -/
inductive Spoiled (path : Path) : Entry → Reason → Prop
  | tooLong {entry : Entry} (long : pathLimit < path.toString.utf8ByteSize) :
      Spoiled path entry (.osAt path .nameTooLong)
  | directory (fits : path.toString.utf8ByteSize ≤ pathLimit) :
      Spoiled path .directory (.osAt path .isDirectory)
  | bytes {content : ByteArray} {fault : Text.Utf8Fault}
      (fits : path.toString.utf8ByteSize ≤ pathLimit)
      (noText : ∀ text : String, content ≠ text.toUTF8)
      (met : Text.decodeUtf8 content = .error fault) :
      Spoiled path (.file content) (.notText fault)

theorem legible_or_spoiled (path : Path) {entry : Entry} (plain : entry ≠ .fullDevice) :
    (∃ text, Legible path entry text) ∨ ∃ reason, Spoiled path entry reason := by
  by_cases long : pathLimit < path.toString.utf8ByteSize
  · exact .inr ⟨_, .tooLong long⟩
  have fits := Nat.not_lt.mp long
  cases entry with
  | directory => exact .inr ⟨_, .directory fits⟩
  | fullDevice => exact absurd rfl plain
  | file content =>
      cases decoded : Text.decodeUtf8 content with
      | ok text => exact .inl ⟨text, fits, by rw [Text.eq_toUTF8_of_decodeUtf8 decoded]⟩
      | error fault =>
          refine .inr ⟨_, .bytes fits (fun text same => ?_) decoded⟩
          rw [same, Text.decodeUtf8_toUTF8] at decoded
          cases decoded

variable {tree : FileTree} {dir : Path} {items : List (String × Entry)}

namespace Shelf

theorem mem_resourceNames_iff (shelf : Shelf tree dir items) (name : String) :
    name ∈ resourceNames tree dir ↔ name ∈ items.map Prod.fst := by
  rw [resourceNames, List.mem_mergeSort, List.mem_filter, mem_names_iff shelf.there]
  constructor
  · rintro ⟨standing, resource⟩
    rw [shelf.holds name resource, ← Option.isSome_iff_ne_none, List.lookup_isSome_iff] at standing
    obtain ⟨item, hitem, same⟩ := standing
    exact beq_iff_eq.mp same ▸ List.mem_map_of_mem hitem
  · intro hname
    obtain ⟨item, hitem, rfl⟩ := List.mem_map.mp hname
    have resource := shelf.resource item hitem
    refine ⟨?_, resource⟩
    rw [shelf.holds item.1 resource, Table.lookup_of_mem shelf.names hitem]
    exact Option.some_ne_none _

theorem nodup_resourceNames (shelf : Shelf tree dir items) : (resourceNames tree dir).Nodup :=
  (List.mergeSort_perm _ _).nodup_iff.mpr ((nodup_names shelf.there shelf.places).filter _)

theorem perm_resourceNames (shelf : Shelf tree dir items) :
    (resourceNames tree dir).Perm (items.map Prod.fst) :=
  (List.perm_ext_iff_of_nodup shelf.nodup_resourceNames shelf.names).mpr shelf.mem_resourceNames_iff

theorem ascending_resourceNames (shelf : Shelf tree dir items) :
    (resourceNames tree dir).Pairwise (· < ·) := by
  let le (a b : String) : Bool := a ≤ b
  have trans : ∀ a b c, le a b → le b c → le a c := by simpa [le] using fun _ _ _ => le_trans
  have total : ∀ a b, (le a b || le b a) = true := by simpa [le] using le_total
  have sorted : (resourceNames tree dir).Pairwise (· ≤ ·) := by
    simpa [le, resourceNames] using
      List.pairwise_mergeSort trans total ((tree.names dir).filter isResource)
  refine (sorted.and shelf.nodup_resourceNames).imp fun {a b} h => ?_
  exact lt_of_le_of_ne h.1 h.2

/-! ## Reading the files -/

variable {name : String} {entry : Entry}

theorem readBytes (shelf : Shelf tree dir items) (hitem : (name, entry) ∈ items) :
    tree.readBytes (dir / name) =
      if pathLimit < (dir / name).toString.utf8ByteSize then .error (.os .nameTooLong)
      else
        match entry.bytes? with
        | some content => .ok content
        | none => .error (.os .isDirectory) := by
  refine readBytes_div shelf.there (shelf.named _ hitem) ?_
  rw [shelf.holds name (shelf.resource _ hitem), Table.lookup_of_mem shelf.names hitem]

theorem readSource_legible (shelf : Shelf tree dir items) (hitem : (name, entry) ∈ items)
    {text : String} (legible : Legible (dir / name) entry text) :
    readSource tree dir name = .ok (name, oneKind text) := by
  have bytes : tree.readBytes (dir / name) = .ok text.toUTF8 := by
    rw [shelf.readBytes hitem, if_neg (Nat.not_lt.mpr legible.fits), legible.file]
    rfl
  simp only [readSource, bytes, decode_toUTF8]
  rfl

theorem readSource_spoiled (shelf : Shelf tree dir items) (hitem : (name, entry) ∈ items)
    {reason : Reason} (spoiled : Spoiled (dir / name) entry reason) :
    readSource tree dir name =
      .error (.generation ⟨.readTemplate, (dir / name).toString, reason⟩) := by
  have bytes := shelf.readBytes hitem
  cases spoiled with
  | tooLong long =>
      rw [if_pos long] at bytes
      simp only [readSource, bytes]
      rfl
  | directory fits =>
      rw [if_neg (Nat.not_lt.mpr fits)] at bytes
      simp only [readSource, bytes, Entry.bytes?]
      rfl
  | bytes fits noText met =>
      rw [if_neg (Nat.not_lt.mpr fits)] at bytes
      simp only [readSource, bytes, Entry.bytes?, decode, met]
      rfl

end Shelf

/-! ## Reading a directory -/

theorem mapM_of_ok {ε α β : Type} {f : α → Except ε β} {g : α → β} {xs : List α}
    (each : ∀ x ∈ xs, f x = .ok (g x)) : xs.mapM f = .ok (xs.map g) := by
  induction xs with
  | nil => rfl
  | cons x xs ih =>
      obtain ⟨here, later⟩ := List.forall_mem_cons.mp each
      rw [List.mapM_cons, here, ih later]
      rfl

/-- The first failure ends the run. -/
theorem mapM_of_error {ε α β : Type} {f : α → Except ε β} {before after : List α} {x : α} {e : ε}
    (passed : ∀ b ∈ before, ∃ v, f b = .ok v) (failed : f x = .error e) :
    (before ++ x :: after).mapM f = .error e := by
  induction before with
  | nil =>
      rw [List.nil_append, List.mapM_cons, failed]
      rfl
  | cons b before ih =>
      obtain ⟨⟨v, here⟩, later⟩ := List.forall_mem_cons.mp passed
      rw [List.cons_append, List.mapM_cons, here, ih later]
      rfl

/-- Texts as files. -/
def filesOf (texts : List (String × String)) : List (String × Entry) :=
  texts.map fun (name, text) => (name, .file text.toUTF8)

theorem names_filesOf (texts : List (String × String)) :
    (filesOf texts).map Prod.fst = texts.map Prod.fst :=
  List.map_map

/-- Template files are all read, in the order of their names. -/
theorem Shelf.ofDirectory_files {texts : List (String × String)}
    (shelf : Shelf tree dir (filesOf texts))
    (fits : ∀ item ∈ texts, (dir / item.1).toString.utf8ByteSize ≤ pathLimit) :
    ∃ sources, ofDirectory tree dir = .ok ⟨sources, dir.toString⟩ ∧
      sources.Perm (texts.map fun (name, text) => (name, oneKind text)) ∧
      (sources.map Prod.fst).Pairwise (· < ·) := by
  have distinct : (texts.map Prod.fst).Nodup := names_filesOf texts ▸ shelf.names
  let source (name : String) : String × String :=
    (name, oneKind ((texts.lookup name).getD ""))
  have source_of_mem : ∀ item ∈ texts, source item.1 = (item.1, oneKind item.2) := by
    intro item hitem
    simp only [source, Table.lookup_of_mem distinct hitem, Option.getD_some]
  have read : ∀ name ∈ resourceNames tree dir, readSource tree dir name = .ok (source name) := by
    intro name hname
    rw [shelf.mem_resourceNames_iff, names_filesOf] at hname
    obtain ⟨item, hitem, rfl⟩ := List.mem_map.mp hname
    rw [source_of_mem item hitem]
    exact shelf.readSource_legible (List.mem_map_of_mem hitem) ⟨fits item hitem, rfl⟩
  refine ⟨(resourceNames tree dir).map source, ?_, ?_, ?_⟩
  · rw [ofDirectory, shelf.there]
    simp only [mapM_of_ok read]
    rfl
  · have order : ((resourceNames tree dir).map source).Perm ((texts.map Prod.fst).map source) :=
      (names_filesOf texts ▸ shelf.perm_resourceNames).map source
    rw [List.map_map] at order
    exact order.trans (.of_eq (List.map_congr_left source_of_mem))
  · have names : ((resourceNames tree dir).map source).map Prod.fst = resourceNames tree dir := by
      rw [List.map_map]
      exact List.map_id _
    rw [names]
    exact shelf.ascending_resourceNames

/-- The first entry that is no template file is reported. -/
theorem Shelf.ofDirectory_spoiled (shelf : Shelf tree dir items) {item : String × Entry}
    (hitem : item ∈ items) (illegible : ∀ text, ¬ Legible (dir / item.1) item.2 text) :
    ∃ name entry reason, (name, entry) ∈ items ∧ Spoiled (dir / name) entry reason ∧
      (∀ other ∈ items, other.1 < name → ∃ text, Legible (dir / other.1) other.2 text) ∧
      ofDirectory tree dir =
        .error (.generation ⟨.readTemplate, (dir / name).toString, reason⟩) := by
  classical
  let legible (name : String) : Prop :=
    ∀ entry, (name, entry) ∈ items → ∃ text, Legible (dir / name) entry text
  have listed {other : String × Entry} (hother : other ∈ items) :
      other.1 ∈ resourceNames tree dir :=
    (shelf.mem_resourceNames_iff _).mpr (List.mem_map_of_mem hother)
  have found : ((resourceNames tree dir).find? (!legible ·)).isSome := by
    rw [List.find?_isSome]
    refine ⟨item.1, listed hitem, ?_⟩
    rw [Bool.not_eq_true', decide_eq_false_iff_not]
    intro legible
    obtain ⟨text, ltext⟩ := legible item.2 hitem
    exact illegible text ltext
  obtain ⟨name, first⟩ := Option.isSome_iff_exists.mp found
  obtain ⟨hbad, before, after, split, good⟩ := List.find?_eq_some_iff_append.mp first
  have good : ∀ b ∈ before, legible b := by simpa using good
  obtain ⟨entry, hmem, illegible⟩ : ∃ entry, (name, entry) ∈ items ∧
      ∀ text, ¬ Legible (dir / name) entry text := by
    simpa [legible] using hbad
  obtain ⟨reason, spoiled⟩ :=
    (legible_or_spoiled (dir / name) (shelf.plain _ hmem)).resolve_left (by simpa using illegible)
  refine ⟨name, entry, reason, hmem, spoiled, ?_, ?_⟩
  · intro other hother below
    have ascending := split ▸ shelf.ascending_resourceNames
    rcases List.mem_append.mp (split ▸ listed hother) with place | place
    · exact good _ place _ hother
    · rcases List.mem_cons.mp place with same | place
      · exact absurd same below.ne
      · exact absurd (List.rel_of_pairwise_cons (List.pairwise_append.mp ascending).2.1 place)
          below.not_gt
  · have passed : ∀ b ∈ before, ∃ v, readSource tree dir b = .ok v := by
      intro b hb
      have hb' : b ∈ resourceNames tree dir := split ▸ List.mem_append_left _ hb
      obtain ⟨other, hother, rfl⟩ := List.mem_map.mp ((shelf.mem_resourceNames_iff b).mp hb')
      obtain ⟨text, legible⟩ := good _ hb _ hother
      exact ⟨_, shelf.readSource_legible hother legible⟩
    rw [ofDirectory, shelf.there]
    simp only [split, mapM_of_error passed (shelf.readSource_spoiled hmem spoiled)]
    rfl

/-! ## Trees of one directory -/

/-- A tree with one directory, in which these items stand. -/
def stocked (folder : String) (items : List (String × Entry)) : FileTree :=
  ⟨[], ([folder], .directory) :: items.map fun (name, entry) => ([folder, name], entry)⟩

theorem get?_stocked (folder : String) (items : List (String × Entry)) (name : String) :
    (stocked folder items).get? [folder, name] = items.lookup name := by
  have below : (items.map fun (n, e) => ([folder, n], e)).lookup [folder, name] =
      items.lookup name := by
    induction items with
    | nil => rfl
    | cons item rest ih =>
        have same : ([folder, name] == [folder, item.1]) = (name == item.1) := by simp
        rw [List.map_cons, List.lookup_cons, List.lookup_cons, ih, same]
  have top : ([folder, name] == [folder]) = false := by simp
  rw [get?_eq_lookup _ (by simp), stocked, List.lookup_cons, top, ← below]

theorem shelf_stocked {folder : String} (there : (stocked folder items).isDirectory dir = .ok true)
    (place : (stocked folder items).placeOf dir = [folder]) (distinct : (items.map Prod.fst).Nodup)
    (named : ∀ item ∈ items, EntryName item.1) (plain : ∀ item ∈ items, item.2 ≠ .fullDevice) :
    Shelf (stocked folder items) dir (items.filter (isResource ·.1)) where
  there := there
  places := by
    have names : (stocked folder items).entries.map Prod.fst =
        [folder] :: (items.map Prod.fst).map ([folder, ·]) := by
      simp [stocked, Function.comp_def]
    rw [names, List.nodup_cons]
    exact ⟨by simp, distinct.map fun _ _ same => by simpa using same⟩
  names := distinct.sublist (List.filter_sublist.map _)
  resource := fun item hitem => (List.mem_filter.mp hitem).2
  named := fun item hitem => named item (List.mem_filter.mp hitem).1
  plain := fun item hitem => plain item (List.mem_filter.mp hitem).1
  holds := by
    intro name resource
    rw [place]
    change (stocked folder items).get? [folder, name] = _
    rw [get?_stocked]
    refine Option.ext fun entry => ?_
    rw [Table.lookup_eq_some_iff_mem distinct,
      Table.lookup_eq_some_iff_mem (distinct.sublist (List.filter_sublist.map _)), List.mem_filter]
    exact ⟨fun h => ⟨h, resource⟩, And.left⟩

/-! ## Directories and memory -/

/-- A directory serves like its texts in memory.  If an entry is no template file, the first such
entry is reported. -/
theorem ofDirectory_agrees (shelf : Shelf tree dir items) :
    (∀ texts, items = filesOf texts →
        (∀ item ∈ texts, (dir / item.1).toString.utf8ByteSize ≤ pathLimit) →
        ∃ b, ofDirectory tree dir = .ok b ∧ b.names.Perm (texts.map Prod.fst) ∧
          b.names.Pairwise (· < ·) ∧ b.Alike (ofList texts dir.toString)) ∧
      ((∃ item ∈ items, ∀ text, ¬ Legible (dir / item.1) item.2 text) →
        ∃ name entry reason, (name, entry) ∈ items ∧ Spoiled (dir / name) entry reason ∧
          (∀ other ∈ items, other.1 < name → ∃ text, Legible (dir / other.1) other.2 text) ∧
          ofDirectory tree dir =
            .error (.generation ⟨.readTemplate, (dir / name).toString, reason⟩)) := by
  constructor
  · rintro texts rfl fits
    obtain ⟨sources, done, order, ascending⟩ := shelf.ofDirectory_files fits
    have distinct : (texts.map Prod.fst).Nodup := names_filesOf texts ▸ shelf.names
    have names : (texts.map fun (name, text) => (name, oneKind text)).map Prod.fst =
        texts.map Prod.fst := List.map_map
    refine ⟨_, done, names ▸ order.map Prod.fst, ascending, ?_⟩
    rw [ofList_of_nodup distinct]
    refine .of_get? rfl fun resource => ?_
    rw [get?, get?, Table.lookup_perm (names.symm ▸ distinct) order, Table.lookup_map]
  · rintro ⟨item, hitem, illegible⟩
    exact shelf.ofDirectory_spoiled hitem illegible

/-- Two templates beside another file. -/
def pair : List (String × Entry) :=
  [("b.go.j2", .file "one\r\ntwo".toUTF8), ("notes.txt", .file ⟨#[0xff]⟩),
    ("a.go.j2", .file "three".toUTF8)]

/-- Entries with names of templates, but no texts. -/
def rubbish : List (String × Entry) := [("b.go.j2", .file ⟨#[0xff]⟩), ("a.go.j2", .directory)]

theorem ofDirectory_agrees_on_stocked :
    (∃ b, ofDirectory (stocked "t" pair) "t" = .ok b ∧
        b.names.Perm ["b.go.j2", "a.go.j2"] ∧ b.names.Pairwise (· < ·) ∧
        b.Alike (ofList [("b.go.j2", "one\r\ntwo"), ("a.go.j2", "three")] "t")) ∧
      ∃ name entry reason, (name, entry) ∈ rubbish ∧
        Spoiled (Path.parse "t" / name) entry reason ∧
        (∀ other ∈ rubbish, other.1 < name →
          ∃ text, Legible (Path.parse "t" / other.1) other.2 text) ∧
        ofDirectory (stocked "t" rubbish) "t" =
          .error (.generation ⟨.readTemplate, (Path.parse "t" / name).toString, reason⟩) := by
  constructor
  · have shelf : Shelf (stocked "t" pair) "t" (pair.filter (isResource ·.1)) :=
      shelf_stocked (by decide +kernel) (by decide +kernel) (by decide +kernel)
        (by decide +kernel) (by simp [pair])
    exact (ofDirectory_agrees shelf).1 [("b.go.j2", "one\r\ntwo"), ("a.go.j2", "three")] rfl
      (by decide +kernel)
  · have shelf : Shelf (stocked "t" rubbish) "t" rubbish :=
      shelf_stocked (by decide +kernel) (by decide +kernel) (by decide +kernel)
        (by decide +kernel) (by simp [rubbish])
    refine (ofDirectory_agrees shelf).2 ⟨("a.go.j2", .directory), by simp [rubbish], ?_⟩
    intro text legible
    cases legible.file

/-- A name so long that few steps up and down make a path as long as paths may be. -/
def longName : String := String.ofList (List.replicate 252 'x')

/-- A long path to the directory of that name. -/
def longDir : Path :=
  ⟨.relative, longName :: (List.replicate 15 ["..", longName]).flatten⟩

theorem size_longDir (rest : List String) :
    (longDir.below rest).toString.utf8ByteSize =
      252 + Path.width ((List.replicate 15 ["..", longName]).flatten ++ rest) := by
  have size : (Path.anchorText .relative).utf8ByteSize + longName.utf8ByteSize = 252 := by
    decide +kernel
  have filled : longName ≠ "" := by decide +kernel
  rw [← size]
  exact Path.size_toString .relative filled _

theorem hasNul_longDir : hasNul longDir = false := by
  have known : ∀ part ∈ longDir.parts, part = longName ∨ part = ".." := by
    decide +kernel
  have plain (n : Nat) :
      ((String.ofList (List.replicate n 'x')).toList.contains '\x00') = false := by
    simp
  rw [hasNul, List.any_eq_false]
  intro part hpart
  rcases known part hpart with rfl | rfl
  · exact Bool.not_eq_true _ ▸ plain 252
  · decide

/-- The directory of that name with a template in it. -/
def longTree : FileTree := stocked longName [("a.go.j2", .file "x".toUTF8)]

theorem isDirectory_longDir : longTree.isDirectory longDir = .ok true := by
  have short : longDir.toString.utf8ByteSize ≤ pathLimit := by
    have size := size_longDir []
    rw [Path.below, List.append_nil] at size
    rw [size]
    decide +kernel
  have standing : longTree.get? [longName] = some .directory :=
    (get?_eq_lookup _ (List.cons_ne_nil _ _)).trans List.lookup_cons_self
  have walked : longTree.walk [] longDir.parts.dropLast = .ok [] := by decide +kernel
  refine (isDirectory_eq_true_iff _ _).mpr ⟨hasNul_longDir, .place [longName], ?_, standing⟩
  refine (target_eq_place_iff _ _ _).mpr ⟨short, [], longName, ?_, walked, ?_, ?_, rfl⟩
  · decide +kernel
  · decide +kernel
  · decide +kernel

/-- A directory whose path is so long that no file in it can be read. -/
theorem ofDirectory_long :
    Shelf longTree longDir (filesOf [("a.go.j2", "x")]) ∧
      ¬ ∃ b, ofDirectory longTree longDir = .ok b := by
  have shelf : Shelf longTree longDir (filesOf [("a.go.j2", "x")]) :=
    shelf_stocked isDirectory_longDir (by decide +kernel) (by decide +kernel)
      (by decide +kernel) (by simp)
  have long : pathLimit < (longDir / "a.go.j2").toString.utf8ByteSize := by
    rw [EntryName.div longDir (by decide +kernel), size_longDir]
    decide +kernel
  refine ⟨shelf, ?_⟩
  rintro ⟨b, read⟩
  obtain ⟨name, entry, reason, -, -, -, refused⟩ :=
    shelf.ofDirectory_spoiled List.mem_cons_self fun text legible =>
      Nat.not_lt.mpr legible.fits long
  rw [read] at refused
  cases refused

end Bundle

end Scaffold
