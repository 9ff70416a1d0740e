import Scaffold.Proofs.Bundle.Decoding
import Scaffold.Proofs.Settings.Fields
import Scaffold.Proofs.Yaml.Lines

/-!
# Writing settings

A settings file with a line for each text of valid settings, in any order, gives these settings
back, whatever printable texts they hold.
-/

namespace Scaffold

namespace Settings

/-- The settings that are texts, with their names. -/
def texts (s : Settings) : List (String × String) :=
  [("output_root", some s.outputRoot), ("module_path", s.modulePath),
    ("templates_dir", s.templatesDir)].filterMap fun (name, text?) => text?.map (name, ·)

variable {s : Settings}

theorem names_texts (s : Settings) : (s.texts.map Prod.fst).Sublist fieldNames := by
  obtain ⟨root, module?, templates?⟩ := s
  cases module? <;> cases templates? <;> exact of_decide_eq_true rfl

theorem known_of_mem_texts {setting : String × String} (h : setting ∈ s.texts) :
    setting.1 ∈ fieldNames :=
  (names_texts s).subset (List.mem_map_of_mem h)

theorem distinct_texts (s : Settings) : (s.texts.map Prod.fst).Nodup :=
  (names_texts s).nodup (by decide)

/-- Texts under their names as fields. -/
def textual (settings : List (String × String)) : Fields :=
  settings.map fun (name, text) => (name, .text text)

theorem names_textual (settings : List (String × String)) :
    (textual settings).map Prod.fst = settings.map Prod.fst :=
  List.map_map

/-- Settings read from their texts, in whatever order, are as they were. -/
theorem ofDatum_texts (valid : s.Valid) {settings : List (String × String)}
    (order : settings.Perm s.texts) : ofDatum (mappingOf (textual settings)) = .ok s := by
  have known : ∀ field ∈ textual settings, field.1 ∈ fieldNames := by
    intro field hf
    obtain ⟨setting, hs, rfl⟩ := List.mem_map.mp hf
    exact known_of_mem_texts (order.mem_iff.mp hs)
  have found (name : String) : (textual settings).lookup name = (textual s.texts).lookup name :=
    Table.lookup_perm (names_textual s.texts ▸ distinct_texts s) (order.map _) name
  rw [ofDatum_mappingOf known]
  obtain ⟨root, module?, templates?⟩ := s
  apply ofFields_of_lookup valid
  · exact found _
  · rw [found]
    cases module? <;> cases templates? <;> rfl
  · rw [found]
    cases module? <;> cases templates? <;> rfl

end Settings

namespace SettingsFile

/-- A line with a name and, in double quotes, a text, in which a backslash stands before each double
quote and each backslash. -/
def line (setting : String × String) : String :=
  setting.1 ++ ": \"" ++ String.ofList (Yaml.Quoted.inside setting.2.toList) ++ "\""

/-- A line for each setting. -/
def written (settings : List (String × String)) : String :=
  "\n".intercalate (settings.map line)

/-- A setting as a line of YAML. -/
def yamlLine (setting : String × String) : Yaml.Line := ⟨setting.1.toList, setting.2.toList⟩

theorem toList_line (setting : String × String) :
    (line setting).toList = (yamlLine setting).source := by
  simp [line, yamlLine, Yaml.Line.source, Yaml.Line.behindKey]

theorem toList_written (setting : String × String) (rest : List (String × String))
    (ending : String) :
    (written (setting :: rest) ++ ending).toList =
      (yamlLine setting).source ++ Yaml.Lexer.behindLines ending.toList (rest.map yamlLine) := by
  induction rest generalizing setting with
  | nil => simp [written, toList_line, Yaml.Lexer.behindLines]
  | cons next rest ih =>
      have later := ih next
      simp only [written, List.map_cons, Yaml.Lexer.behindLines, List.flatMap_cons,
        String.toList_append] at later ⊢
      rw [String.intercalate_cons_cons, String.toList_append, String.toList_append,
        List.append_assoc, later, toList_line]
      simp

/-- The names of settings are keys that are text of their own accord. -/
theorem key_of_mem_fieldNames {name : String} (h : name ∈ Settings.fieldNames) :
    name.toList ≠ [] ∧ name.toList.all Yaml.Line.isKeyChar = true ∧
      name.toList.length ≤ Yaml.keyLimit ∧ Yaml.Tag.ofPlain name.toList = .str := by
  revert name
  decide +kernel

variable {s : Settings} {settings : List (String × String)} {ending : String}

/-- The lines of a settings file can be read back. -/
theorem flat_yamlLines (order : settings.Perm s.texts)
    (printable : ∀ setting ∈ s.texts, ∀ c ∈ setting.2.toList, Yaml.Quoted.IsPrintable c) :
    Yaml.Flat (settings.map yamlLine) where
  legible := by
    intro l hl
    obtain ⟨setting, hs, rfl⟩ := List.mem_map.mp hl
    have hs := order.mem_iff.mp hs
    obtain ⟨filled, plain, short, -⟩ := key_of_mem_fieldNames (Settings.known_of_mem_texts hs)
    exact ⟨filled, List.all_eq_true.mp plain, short, printable setting hs⟩
  plain := by
    intro l hl
    obtain ⟨setting, hs, rfl⟩ := List.mem_map.mp hl
    exact (key_of_mem_fieldNames (Settings.known_of_mem_texts (order.mem_iff.mp hs))).2.2.2
  distinct := by
    have names : (settings.map Prod.fst).Nodup :=
      (order.map Prod.fst).nodup_iff.mpr (Settings.distinct_texts s)
    have keys : (settings.map yamlLine).map Yaml.Line.key =
        (settings.map Prod.fst).map String.toList := by
      rw [List.map_map, List.map_map]
      rfl
    rw [keys]
    exact names.map fun _ _ => String.ext

/-- The data of a settings file are the texts under their names. -/
theorem mappingOf_textual (settings : List (String × String)) :
    Settings.mappingOf (Settings.textual settings) =
      .dict ((settings.map yamlLine).map Yaml.Line.entry) := by
  rw [Settings.mappingOf, Settings.textual, List.map_map, List.map_map]
  refine congrArg Datum.dict (List.map_congr_left fun setting _ => ?_)
  simp [Yaml.Line.entry, yamlLine]

/-- What was written has one kind of line end, and is read as the texts under their names. -/
theorem read_written (order : settings.Perm s.texts)
    (printable : ∀ setting ∈ s.texts, ∀ c ∈ setting.2.toList, Yaml.Quoted.IsPrintable c)
    (ends : ending = "" ∨ ending = "\n") :
    '\r' ∉ (written settings ++ ending).toList ∧
      Yaml.read (written settings ++ ending).toList =
        .ok (Settings.mappingOf (Settings.textual settings)) := by
  have flat := flat_yamlLines order printable
  have ends : ending.toList = [] ∨ ending.toList = ['\n'] :=
    ends.imp (congrArg String.toList) (congrArg String.toList)
  cases settings with
  | nil => cases order.symm.eq_nil
  | cons setting rest =>
      rw [toList_written]
      rw [List.map_cons] at flat
      constructor
      · intro hc
        rcases Yaml.printable_or_newline ends flat.legible _ hc with printable | newline
        · exact absurd printable (by decide)
        · exact absurd newline (by decide)
      · rw [flat.read ends, mappingOf_textual]
        rfl

/-- Text that can be read, unless there is none, is in a file. -/
theorem isFile_of_readBytes {tree : FileTree} {path : Path} {text : String}
    (read : tree.readBytes path = .ok text.toUTF8) (filled : text ≠ "") :
    tree.isFile path = .ok true := by
  unfold FileTree.readBytes at read
  split at read
  · cases read
  · next nul =>
      rw [FileTree.isFile, FileTree.isKind, if_neg nul]
      split at read
      · cases read
      · next found => rw [found]
      · exact absurd (String.toByteArray_inj.mp (Except.ok.inj read).symm) filled
      · cases read

/-- The report of a settings file. -/
def loaded (path : Path) : Log := [.ofPart .info "config" s!"Loaded settings from {path}"]

/-- Settings are loaded as they were written. -/
theorem load_written (valid : s.Valid)
    (printable : ∀ setting ∈ s.texts, ∀ c ∈ setting.2.toList, Yaml.Quoted.IsPrintable c)
    (order : settings.Perm s.texts) (ends : ending = "" ∨ ending = "\n") {tree : FileTree}
    {path? : Option String} {dir : String}
    (file : tree.readBytes (place path? dir) = .ok (written settings ++ ending).toUTF8) :
    load tree path? dir = .ok (s, loaded (place path? dir)) := by
  obtain ⟨oneKind, data⟩ := read_written order printable ends
  have there : tree.isFile (place path? dir) = .ok true := by
    refine isFile_of_readBytes file fun nothing => ?_
    rw [nothing] at data
    cases data
  have found : SettingsFile.data tree (place path? dir) =
      .ok (Settings.mappingOf (Settings.textual settings)) := by
    simp only [SettingsFile.data, file, Bundle.decode_of_not_mem oneKind, data]
  have said : ofDatum (place path? dir) (Settings.mappingOf (Settings.textual settings)) =
      .ok s := by
    rw [Settings.mappingOf, ofDatum, ← Settings.mappingOf, Settings.ofDatum_texts valid order]
    rfl
  rw [load_eq, there]
  simp only [read, found]
  change ((ofDatum _ _).mapError _ >>= _) = _
  rw [said]
  rfl

/-- Settings whose texts look like other things. -/
def deceptive : Settings where
  outputRoot := "---"
  modulePath := some "<<: &a \"2024-01-01\" # \\"
  templatesDir := some " 0x1F "

/-- The settings above in a file of the usual name, the last one first. -/
def deceptiveTree : FileTree :=
  ⟨[], [([usualName], .file (written deceptive.texts.reverse ++ "\n").toUTF8)]⟩

theorem load_written_deceptive :
    load deceptiveTree none "." = .ok (deceptive, loaded (place none ".")) := by
  have printable : deceptive.texts.all (fun setting =>
      setting.2.toList.all fun c => decide (Yaml.Quoted.IsPrintable c)) = true := by decide
  exact load_written (by unfold Settings.Valid; decide) (by simpa using printable)
    (List.reverse_perm deceptive.texts) (Or.inr rfl) rfl

end SettingsFile

end Scaffold
