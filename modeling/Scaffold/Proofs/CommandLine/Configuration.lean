import Scaffold.GoModule
import Scaffold.Proofs.CommandLine.Preparation
import Scaffold.SettingsFile

/-!
# Failures of the configuration

Settings and the module path are read from files.  What is wrong with a file is reported as a
failure of the configuration, but not where the look for the file is refused, where its bytes are
no text, and where a scalar holds less than its tag promises.
-/

namespace Scaffold

/-- A good result, a failure of the configuration, or one of the faults that escape. -/
inductive Reported {α : Type} (good : α → Prop) (escapes : Fault → Prop) :
    Except Failure α → Prop
  | ok {a : α} (h : good a) : Reported good escapes (.ok a)
  | config (cause : ConfigCause) : Reported good escapes (.error (.input (.config cause)))
  | fault {fault : Fault} (h : escapes fault) : Reported good escapes (.error (.fault fault))

namespace Reported

variable {α β : Type} {good : α → Prop} {escapes : Fault → Prop}

theorem bind {part : Except Failure α} {next : α → Except Failure β} {best : β → Prop}
    (first : Reported good escapes part) (rest : ∀ a, good a → Reported best escapes (next a)) :
    Reported best escapes (part >>= next) := by
  cases first with
  | ok h => exact rest _ h
  | config cause => exact .config cause
  | fault h => exact .fault h

theorem mapConfig {part : Except ConfigCause α} (h : ∀ a, part = .ok a → good a) :
    Reported good escapes (part.mapError fun cause => .input (.config cause)) := by
  cases part with
  | ok a => exact .ok (h a rfl)
  | error cause => exact .config cause

theorem mono {result : Except Failure α} {escapes' : Fault → Prop}
    (h : Reported good escapes result) (wider : ∀ fault, escapes fault → escapes' fault) :
    Reported good escapes' result := by
  cases h with
  | ok h => exact .ok h
  | config cause => exact .config cause
  | fault h => exact .fault (wider _ h)

end Reported

/-- A file's text cannot be had, and no refusal of the file system is the cause. -/
inductive NoText (tree : FileTree) (path : Path) : Fault → Prop
  | nul (nul : FileTree.hasNul path = true) : NoText tree path .embeddedNul
  | undecoded {bytes : ByteArray} {fault : Text.Utf8Fault}
      (read : tree.readBytes path = .ok bytes) (decode : Bundle.decode bytes = .error fault) :
      NoText tree path (.notUtf8 fault)

theorem FileTree.readBytes_ne_tooDeep {tree : FileTree} {path : Path} :
    tree.readBytes path ≠ .error .tooDeep := by
  unfold readBytes
  split
  · simp
  · split <;> simp

theorem FileTree.hasNul_of_readBytes {tree : FileTree} {path : Path}
    (h : tree.readBytes path = .error .embeddedNul) : FileTree.hasNul path = true := by
  unfold readBytes at h
  split at h
  · assumption
  · split at h <;> cases h

theorem Reported.unreadable {α : Type} {good : α → Prop} {escapes : Fault → Prop}
    {tree : FileTree} {path : Path} {fault : DiskFault}
    (read : tree.readBytes path = .error fault)
    (nul : NoText tree path .embeddedNul → escapes .embeddedNul) :
    Reported good escapes (.error (Failure.ofDisk
      (fun cause => .input (.config (.unreadable path cause))) fault)) := by
  cases fault with
  | embeddedNul => exact .fault (nul (.nul (FileTree.hasNul_of_readBytes read)))
  | tooDeep => exact absurd read FileTree.readBytes_ne_tooDeep
  | os cause => exact .config _

namespace SettingsFile

/-- The place where settings are looked for. -/
def place (path? : Option String) (dir : String) : Path :=
  match path? with
  | some path => path
  | none => Path.parse dir / usualName

/-- The faults of a settings file that are not reported as failures of the configuration. -/
inductive Escapes (tree : FileTree) (path : Path) : Fault → Prop
  | refused {cause : OsError} (look : tree.isFile path = .error cause) :
      Escapes tree path (.osAt path cause)
  | noText {fault : Fault} (there : tree.isFile path = .ok true) (text : NoText tree path fault) :
      Escapes tree path fault
  | noData {bytes : ByteArray} {text : String} {trouble : Yaml.Trouble}
      (there : tree.isFile path = .ok true) (read : tree.readBytes path = .ok bytes)
      (decode : Bundle.decode bytes = .ok text) (data : Yaml.read text.toList = .error trouble)
      (other : trouble ≠ .malformed) : Escapes tree path (.noData trouble)

variable {tree : FileTree} {path : Path}

theorem data_reported (there : tree.isFile path = .ok true) :
    Reported (fun _ => True) (Escapes tree path) (data tree path) := by
  unfold data
  cases read : tree.readBytes path with
  | error fault => exact .unreadable read (.noText there)
  | ok bytes =>
      cases decode : Bundle.decode bytes with
      | error fault => simpa only [decode] using .fault (.noText there (.undecoded read decode))
      | ok text =>
          simp only [decode]
          cases data : Yaml.read text.toList with
          | ok d => exact .ok trivial
          | error trouble =>
              cases trouble with
              | malformed => exact .config _
              | _ => exact .fault (.noData there read decode data (by simp))

theorem data_of_escapes {fault : Fault} (there : tree.isFile path = .ok true)
    (h : Escapes tree path fault) : data tree path = .error (.fault fault) := by
  cases h with
  | refused look =>
      rw [there] at look
      cases look
  | noText _ text =>
      cases text with
      | nul nul =>
          rw [FileTree.isFile, FileTree.isKind, if_pos nul] at there
          cases there
      | undecoded read decode =>
          rw [data, read]
          simp only [decode]
  | noData _ read decode yaml other =>
      rw [data, read]
      simp only [decode, yaml]

end SettingsFile

/-! ## Settings -/

namespace Settings

/-- Settings name an output root. -/
def Valid (s : Settings) : Prop := s.outputRoot ≠ ""

theorem valid_default : ({} : Settings).Valid := by
  unfold Valid
  decide

theorem readRoot_ne {d : Datum} {root : String} (h : readRoot d = .ok root) : root ≠ "" := by
  obtain ⟨text, -, h⟩ := bind_eq_ok h
  split at h
  · cases h
  · next hn =>
      cases h
      exact hn

theorem valid_of_ofFields {fields : Fields} {others : List Issue} {s : Settings}
    (h : ofFields fields others = .ok s) : s.Valid := by
  have given : ∀ root, fields.optional "output_root" readRoot "." = .ok root → root ≠ "" := by
    intro root hroot
    unfold Fields.optional at hroot
    split at hroot
    · next d _ =>
        cases hread : readRoot d with
        | error cause =>
            rw [hread] at hroot
            cases hroot
        | ok text =>
            rw [hread] at hroot
            cases hroot
            exact readRoot_ne hread
    · cases hroot
      decide
  unfold ofFields at h
  simp only at h
  split at h
  · next hroot _ _ =>
      cases h
      exact given _ hroot
  · cases h

end Settings

namespace SettingsFile

variable {tree : FileTree} {path : Path}

theorem valid_of_ofDatum {data : Datum} {s : Settings} (h : ofDatum path data = .ok s) :
    s.Valid := by
  unfold ofDatum at h
  split at h
  · cases h
    exact Settings.valid_default
  · next entries =>
      cases hs : Settings.ofDatum (.dict entries) with
      | error issues =>
          rw [hs] at h
          cases h
      | ok s' =>
          rw [hs] at h
          cases h
          exact Settings.valid_of_ofFields hs
  · cases h

theorem read_reported (there : tree.isFile path = .ok true) :
    Reported (fun result => result.1.Valid) (Escapes tree path) (read tree path) := by
  refine (data_reported there).bind fun data _ => ?_
  have settings : Reported Settings.Valid (Escapes tree path)
      ((ofDatum path data).mapError fun cause => .input (.config cause)) :=
    .mapConfig fun _ h => valid_of_ofDatum h
  exact settings.bind fun _ valid => .ok valid

theorem load_eq (tree : FileTree) (path? : Option String) (dir : String) :
    load tree path? dir =
      match tree.isFile (place path? dir) with
      | .error cause => .error (.fault (.osAt (place path? dir) cause))
      | .ok true => read tree (place path? dir)
      | .ok false =>
          match path? with
          | some path => .error (.input (.config (.notFound path)))
          | none =>
              .ok ({},
                [.ofPart .debug "config" s!"No {usualName} found in {dir}, using defaults."]) := by
  unfold load isThere
  cases path? with
  | none =>
      change (Except.mapError _ (tree.isFile (place none dir)) >>= _) = _
      cases tree.isFile (place none dir) with
      | error cause => rfl
      | ok found => cases found <;> rfl
  | some path =>
      change (Except.mapError _ (tree.isFile (place (some path) dir)) >>= _) = _
      cases tree.isFile (place (some path) dir) with
      | error cause => rfl
      | ok found => cases found <;> rfl

theorem load_reported (tree : FileTree) (path? : Option String) (dir : String) :
    Reported (fun result => result.1.Valid) (Escapes tree (place path? dir))
      (load tree path? dir) := by
  rw [load_eq]
  cases look : tree.isFile (place path? dir) with
  | error cause => exact .fault (.refused look)
  | ok found =>
      cases found with
      | true => exact read_reported look
      | false =>
          cases path? with
          | some path => exact .config _
          | none => exact .ok Settings.valid_default

/-- The faults that may escape do so. -/
theorem load_of_escapes {path? : Option String} {dir : String} {fault : Fault}
    (h : Escapes tree (place path? dir) fault) : load tree path? dir = .error (.fault fault) := by
  have present (there : tree.isFile (place path? dir) = .ok true) :
      load tree path? dir = .error (.fault fault) := by
    rw [load_eq, there]
    simp only [read, data_of_escapes there h]
    rfl
  cases h with
  | refused look => rw [load_eq, look]
  | noText there => exact present there
  | noData there => exact present there

end SettingsFile

/-! ## Module paths -/

namespace GoModule

/-- The file that may declare a module path for settings without one. -/
def file (s : Settings) : Path := Path.parse s.outputRoot / "go.mod"

theorem read_reported (tree : FileTree) (root : Path) :
    Reported (fun _ => True) (NoText tree (root / "go.mod")) (read tree root) := by
  unfold read
  simp only
  split
  · exact .ok trivial
  · next fault _ read => exact .unreadable read id
  · next bytes read =>
      split
      · next fault decode => exact .fault (.undecoded read decode)
      · split <;> exact .ok trivial

theorem declared_reported (tree : FileTree) (s : Settings) :
    Reported (fun result => result.1 ≠ "") (NoText tree (file s))
      (resolve.declaredOrDefault tree s) := by
  refine (read_reported tree s.outputRoot).bind fun result _ => .ok ?_
  split
  · exact of_decide_eq_true (rfl : decide (defaultModulePath ≠ "") = true)
  · assumption

theorem resolve_eq (tree : FileTree) (s : Settings) :
    resolve tree s =
      if s.modulePath.getD "" = "" then resolve.declaredOrDefault tree s
      else .ok (s.modulePath.getD "", []) := by
  unfold resolve
  cases s.modulePath with
  | none => rfl
  | some module =>
      rw [Option.getD_some]
      exact ite_not ..

theorem resolve_reported (tree : FileTree) (s : Settings) :
    Reported (fun result => result.1 ≠ "")
      (fun fault => s.modulePath.getD "" = "" ∧ NoText tree (file s) fault) (resolve tree s) := by
  rw [resolve_eq]
  split
  · next unset => exact (declared_reported tree s).mono fun _ escapes => ⟨unset, escapes⟩
  · next set => exact .ok set

theorem read_of_noText {tree : FileTree} {root : Path} {fault : Fault}
    (h : NoText tree (root / "go.mod") fault) : read tree root = .error (.fault fault) := by
  unfold read
  simp only
  cases h with
  | nul nul =>
      rw [FileTree.readBytes, if_pos nul]
      rfl
  | undecoded read decode =>
      rw [read]
      simp only [decode]

theorem resolve_of_noText {tree : FileTree} {s : Settings} {fault : Fault}
    (unset : s.modulePath.getD "" = "") (h : NoText tree (file s) fault) :
    resolve tree s = .error (.fault fault) := by
  rw [resolve_eq, if_pos unset, resolve.declaredOrDefault, read_of_noText h]
  rfl

end GoModule

/-! ## The configuration as a whole -/

/-- Loading settings and resolving the module path give valid results or failures of the
configuration, but for the faults that are named here, and these do escape. -/
theorem configuration_reported (tree : FileTree) :
    (∀ path? dir,
      Reported (fun result => result.1.Valid)
          (SettingsFile.Escapes tree (SettingsFile.place path? dir))
          (SettingsFile.load tree path? dir) ∧
        ∀ fault, SettingsFile.Escapes tree (SettingsFile.place path? dir) fault →
          SettingsFile.load tree path? dir = .error (.fault fault)) ∧
      ∀ s : Settings,
        Reported (fun result => result.1 ≠ "")
            (fun fault => s.modulePath.getD "" = "" ∧ NoText tree (GoModule.file s) fault)
            (GoModule.resolve tree s) ∧
          ∀ fault, s.modulePath.getD "" = "" ∧ NoText tree (GoModule.file s) fault →
            GoModule.resolve tree s = .error (.fault fault) := by
  constructor
  · intro path? dir
    refine ⟨SettingsFile.load_reported tree path? dir, ?_⟩
    intro fault escapes
    exact SettingsFile.load_of_escapes escapes
  · intro s
    refine ⟨GoModule.resolve_reported tree s, ?_⟩
    rintro fault ⟨unset, text⟩
    exact GoModule.resolve_of_noText unset text

/-- A settings file whose only byte begins no character. -/
def brokenSettings : FileTree := ⟨[], [(["s.yaml"], .file ⟨#[0xff]⟩)]⟩

/-- Such a file gives no settings, and the failure is not one of the configuration. -/
theorem load_brokenSettings :
    ¬ Reported (fun result => result.1.Valid) (fun _ => False)
      (SettingsFile.load brokenSettings (some "s.yaml") ".") := by
  have undecoded : (Bundle.decode ⟨#[0xff]⟩).toOption = none := by
    decide +kernel
  cases decode : Bundle.decode ⟨#[0xff]⟩ with
  | ok text =>
      rw [decode] at undecoded
      cases undecoded
  | error fault =>
      have there : brokenSettings.isFile "s.yaml" = .ok true := rfl
      have escapes : SettingsFile.Escapes brokenSettings
          (SettingsFile.place (some "s.yaml") ".") (.notUtf8 fault) :=
        .noText there (.undecoded rfl decode)
      rw [SettingsFile.load_of_escapes escapes]
      rintro ⟨⟩
      contradiction

end Scaffold
