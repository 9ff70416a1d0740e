import Scaffold.Component
import Scaffold.Proofs.Template.Spelling

/-!
# Packages and imports

A template of a kind of component names the package of its file in the first line.  It builds the
paths of the packages that it imports from its domain of the module path and the domain.
-/

namespace Scaffold

/-- The kinds whose packages the files of a kind import. -/
def ComponentKind.imported : ComponentKind → List ComponentKind
  | dto => [repository]
  | validator | repository => []
  | service => [dto, repository]
  | controller => [dto, service]
  | providers => [controller, repository, service]
  | registry => [controller]

namespace Template

def literal (text : String) : List Symbol := text.toList.map .char

/-- The name of the package of a folder, or else of the domain. -/
def packageName : Option String → List Symbol
  | some folder => literal folder
  | none => [.place "package_name"]

/-- The line that names a package. -/
def packageLine (folder? : Option String) : List Symbol :=
  literal "package " ++ packageName folder? ++ [.char '\n']

/-- What the import paths of the domain's packages begin with. -/
def domainStem : List Symbol :=
  .place "module_path" :: literal "/internal/applications/" ++ [.place "domain", .char '/']

example : (Form.read?
    "\x7b\x7b module_path \x7d\x7d/internal/applications/\x7b\x7b domain \x7d\x7d/".toList).map
      Form.symbols = some domainStem := by decide +kernel

/-- The import path of a folder of the domain. -/
def importOf (folder : String) : List Symbol := domainStem ++ literal folder

/-- The paths in a line that are built from the beginning of those import paths, each up to the
quote behind it. -/
def importsIn : List Symbol → List (List Symbol)
  | [] => []
  | s :: rest =>
      if domainStem.isPrefixOf (s :: rest) then
        (s :: rest).takeWhile (· ≠ .char '"') :: importsIn rest
      else importsIn rest

/-- The template is one for files of a kind. -/
structure Form.LaidOut (f : Form) (kind : ComponentKind) : Prop where
  package : (lines f.symbols).head? = some (packageLine kind.folder?)
  imports : (lines f.symbols).flatMap importsIn =
    (kind.imported.filterMap ComponentKind.folder?).map importOf

instance (f : Form) (kind : ComponentKind) : Decidable (f.LaidOut kind) :=
  decidable_of_iff
    ((lines f.symbols).head? = some (packageLine kind.folder?) ∧
      (lines f.symbols).flatMap importsIn =
        (kind.imported.filterMap ComponentKind.folder?).map importOf)
    ⟨fun h => ⟨h.1, h.2⟩, fun h => ⟨h.package, h.imports⟩⟩

end Template

end Scaffold
