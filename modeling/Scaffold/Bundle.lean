import Scaffold.Bundle.Packaged
import Scaffold.Failure
import Scaffold.Text.Lines

/-!
# Bundles

A bundle is a table of template texts by the names of their resources, with a word on where it
comes from.
-/

namespace Scaffold

structure Bundle where
  sources : List (String × String)
  origin : String
  deriving DecidableEq, Repr

namespace Bundle

/-- The name that stands for the place of the packaged templates. -/
def packagedOrigin : String := "<templates>"

def memoryOrigin : String := "<memory>"

/-- The table with an entry; a name that is there keeps its place. -/
def putSource (sources : List (String × String)) (name text : String) :
    List (String × String) :=
  if sources.any fun s => s.1 = name then
    sources.map fun s => if s.1 = name then (name, text) else s
  else sources ++ [(name, text)]

/-- A bundle of texts that are given one after the other. -/
def ofList (entries : List (String × String)) (origin : String) : Bundle :=
  ⟨entries.foldl (fun sources (name, text) => putSource sources name text) [], origin⟩

def packaged : Bundle := ⟨Packaged.sources, packagedOrigin⟩

def names (b : Bundle) : List String := b.sources.map (·.1)

def get? (b : Bundle) (name : String) : Option String := b.sources.lookup name

/-- The text of a resource. -/
def read (b : Bundle) (name : String) : Except GenerationFailure String :=
  match b.get? name with
  | some text => .ok text
  | none => .error ⟨.readTemplate, name, .noTemplate b.origin⟩

/-- The form in which messages show a bundle. -/
def describe (b : Bundle) : String :=
  s!"<TemplateBundle {b.sources.length} templates from {b.origin}>"

/-! ## Directories -/

def isResource (name : String) : Bool :=
  ComponentKind.resourceSuffix.toList.isSuffixOf name.toList

/-- The text of a file, with one kind of line end. -/
def decode (bytes : ByteArray) : Except Text.Utf8Fault String :=
  (Text.decodeUtf8 bytes).map fun s => String.ofList (Text.normalizeNewlines s.toList)

/-- One template file of a directory. -/
def readSource (tree : FileTree) (dir : Path) (name : String) :
    Except Failure (String × String) :=
  let path := dir / name
  let failed (reason : Reason) : Failure :=
    .generation ⟨.readTemplate, path.toString, reason⟩
  match tree.readBytes path with
  | .error fault => .error (Failure.ofDisk (fun cause => failed (.osAt path cause)) fault)
  | .ok bytes =>
    match decode bytes with
    | .ok text => .ok (name, text)
    | .error fault => .error (failed (.notText fault))

/-- The names of the template files of a directory, in the order of their code points. -/
def resourceNames (tree : FileTree) (dir : Path) : List String :=
  ((tree.names dir).filter isResource).mergeSort fun a b => a ≤ b

/-- All template files of a directory. -/
def ofDirectory (tree : FileTree) (dir : Path) : Except Failure Bundle :=
  match tree.isDirectory dir with
  | .error cause => .error (.fault (.osAt dir cause))
  | .ok false => .error (.generation ⟨.readTemplate, dir.toString, .notDirectory⟩)
  | .ok true => do
      return ⟨← (resourceNames tree dir).mapM (readSource tree dir), dir.toString⟩

/-- The templates that settings name: those of a directory, else the packaged ones. -/
def ofOptional (tree : FileTree) (dir? : Option String) : Except Failure Bundle :=
  match dir? with
  | some dir => ofDirectory tree dir
  | none => .ok packaged

end Bundle

end Scaffold
