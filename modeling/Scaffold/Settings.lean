import Scaffold.Failure

/-!
# Settings

Where files go, and what may be set once for a whole project.
-/

namespace Scaffold

structure Settings where
  outputRoot : String := "."
  modulePath : Option String := none
  templatesDir : Option String := none
  deriving DecidableEq, Repr

namespace Settings

def fieldNames : List String := ["output_root", "module_path", "templates_dir"]

def readRoot (d : Datum) : Except IssueCause String := do
  let root ← Fields.readText d
  if root = "" then .error .tooShort else .ok root

/-- Text or nothing. -/
def readOptional : Datum → Except IssueCause (Option String)
  | .null => .ok none
  | d => some <$> Fields.readText d

def ofFields (fields : Fields) (others : List Issue) : Except (List Issue) Settings :=
  let root := fields.optional "output_root" readRoot "."
  let module := fields.optional "module_path" readOptional none
  let templates := fields.optional "templates_dir" readOptional none
  match root, module, templates, others with
  | .ok r, .ok m, .ok t, [] => .ok ⟨r, m, t⟩
  | root, module, templates, others =>
      .error (Fields.issues root ++ Fields.issues module ++ Fields.issues templates ++ others)

/-- The entries with text keys. -/
def textFields : List (Datum × Datum) → Fields
  | [] => []
  | (.text key, value) :: rest => (key, value) :: textFields rest
  | _ :: rest => textFields rest

/-- An issue for each entry that is no setting. -/
def surplus (entries : List (Datum × Datum)) : List Issue :=
  entries.filterMap fun
    | (.text key, _) => if fieldNames.contains key then none else some (.ofField key .unexpected)
    | (key, _) => some ⟨some key, .keyNotText⟩

/-- Settings of plain data. -/
def ofDatum : Datum → Except (List Issue) Settings
  | .dict entries => ofFields (textFields entries) (surplus entries)
  | _ => .error [⟨none, .notMapping⟩]

/-- One setting changed to an allowed value. -/
def assign (s : Settings) (name : String) (value : Datum) : Except Failure Settings :=
  let issue (cause : IssueCause) : Failure := .invalid [.ofField name cause]
  match name with
  | "output_root" => (readRoot value).map (fun r => { s with outputRoot := r }) |>.mapError issue
  | "module_path" =>
      (readOptional value).map (fun m => { s with modulePath := m }) |>.mapError issue
  | "templates_dir" =>
      (readOptional value).map (fun t => { s with templatesDir := t }) |>.mapError issue
  | name => .error (issue (.noSuchField name))

/-- Text, or nothing. -/
def optionalData : Option String → Datum
  | some text => .text text
  | none => .null

/-- The settings as plain data. -/
def dump (s : Settings) : Fields :=
  [("output_root", .text s.outputRoot), ("module_path", optionalData s.modulePath),
    ("templates_dir", optionalData s.templatesDir)]

/-- Named fields as plain data. -/
def mappingOf (fields : Fields) : Datum :=
  .dict (fields.map fun (name, value) => (.text name, value))

/-- Fields with another output root. -/
def withRoot (root : Datum) (fields : Fields) : Fields :=
  fields.map fun (name, value) => (name, if name = "output_root" then root else value)

/-- The settings with another output root, if one is given; all of them are checked anew. -/
def override (s : Settings) (root : Datum) : Except Failure Settings :=
  match root with
  | .null => .ok s
  | root =>
      (ofDatum (mappingOf (withRoot root s.dump))).mapError fun issues =>
        .input (.config (.badRoot root issues))

end Settings

end Scaffold
