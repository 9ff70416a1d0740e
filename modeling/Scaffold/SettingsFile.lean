import Scaffold.Bundle
import Scaffold.Log
import Scaffold.Settings
import Scaffold.Yaml.Document

/-!
# Settings files

Where settings come from: a file that is named, a file of the usual name in a directory, or else the
defaults.
-/

namespace Scaffold

namespace SettingsFile

/-- The name under which a settings file is looked for. -/
def usualName : String := ".ichigen.yaml"

/-- The settings that the data of a file says; no data says nothing. -/
def ofDatum (path : Path) (data : Datum) : Except ConfigCause Settings :=
  match data with
  | .null => .ok {}
  | .dict entries => (Settings.ofDatum (.dict entries)).mapError (.badSettings path)
  | data => .error (.notMapping path data.typeName)

/-- The data of a file. -/
def data (tree : FileTree) (path : Path) : Except Failure Datum :=
  match tree.readBytes path with
  | .error fault =>
      .error (Failure.ofDisk (fun cause => .input (.config (.unreadable path cause))) fault)
  | .ok bytes =>
    match Bundle.decode bytes with
    | .error fault => .error (.fault (.notUtf8 fault))
    | .ok text =>
      match Yaml.read text.toList with
      | .ok data => .ok data
      | .error .malformed => .error (.input (.config (.notYaml path)))
      | .error trouble => .error (.fault (.noData trouble))

/-- The settings of a file that is there. -/
def read (tree : FileTree) (path : Path) : Except Failure (Settings × Log) := do
  let settings ← (ofDatum path (← data tree path)).mapError fun cause => .input (.config cause)
  return (settings, [.ofPart .info "config" s!"Loaded settings from {path}"])

/-- Whether a path leads to a file. -/
def isThere (tree : FileTree) (path : Path) : Except Failure Bool :=
  (tree.isFile path).mapError fun cause => .fault (.osAt path cause)

/-- The settings of the named file, else of the file of the usual name in a directory, else the
defaults. -/
def load (tree : FileTree) (path? : Option String) (dir : String) :
    Except Failure (Settings × Log) := do
  match path? with
  | some path =>
    if ← isThere tree path then read tree path
    else throw (.input (.config (.notFound path)))
  | none =>
    let path := Path.parse dir / usualName
    if ← isThere tree path then read tree path
    else
      return ({}, [.ofPart .debug "config" s!"No {usualName} found in {dir}, using defaults."])

end SettingsFile

end Scaffold
