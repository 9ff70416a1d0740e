import Scaffold.FillData

/-!
# Plans

The files that a request leads to, in the order in which they are written.
-/

namespace Scaffold

/-- The directory, under the output root, that holds the domains. -/
def applicationsRoot : List String := ["internal", "applications"]

structure Step where
  kind : ComponentKind
  resource : String
  path : Path
  deriving DecidableEq, Repr

/-- The directory of a domain. -/
def domainPath (root : Path) (domain : String) : Path :=
  applicationsRoot.foldl (fun (path : Path) (part : String) => path / part) root / domain

/-- The path of a file of a kind. -/
def componentPath (root : Path) (kind : ComponentKind) (data : FillData) : Path :=
  match kind.folder? with
  | some folder => domainPath root data.domain / folder / kind.fileName data.lowerName
  | none => domainPath root data.domain / kind.fileName data.lowerName

/-- The steps for a request. -/
def plan (root : Path) (type : ComponentType) (data : FillData) : List Step :=
  type.kinds.map fun kind => ⟨kind, kind.resource, componentPath root kind data⟩

end Scaffold
