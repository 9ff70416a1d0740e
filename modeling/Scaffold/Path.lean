/-!
# Paths

File paths as they are written: an anchor and the components below it.  Empty components and `.`
say nothing and are dropped; `..` is kept, because what it means depends on the files.
-/

namespace Scaffold

/-- Where a path starts.  Exactly two leading slashes are a root of their own. -/
inductive Anchor where
  | relative
  | root
  | doubleRoot
  deriving DecidableEq, Repr

structure Path where
  anchor : Anchor
  parts : List String
  deriving DecidableEq, Repr

namespace Path

/-- The components of a text, cut at slashes. -/
def components (text : List Char) : List String :=
  ((text.splitOn '/').map String.ofList).filter fun part => part ≠ "" && part ≠ "."

def anchorOf : List Char → Anchor
  | '/' :: '/' :: '/' :: _ => .root
  | '/' :: '/' :: _ => .doubleRoot
  | '/' :: _ => .root
  | _ => .relative

def parse (text : String) : Path := ⟨anchorOf text.toList, components text.toList⟩

instance : Coe String Path := ⟨parse⟩

/-- The second path below the first one; a path with an anchor starts anew. -/
def join (p q : Path) : Path :=
  match q.anchor with
  | .relative => ⟨p.anchor, p.parts ++ q.parts⟩
  | _ => q

instance : HDiv Path Path Path := ⟨join⟩
instance : HDiv Path String Path := ⟨fun p s => p.join (parse s)⟩

/-- Without the last component; an anchor is its own parent. -/
def parent (p : Path) : Path := ⟨p.anchor, p.parts.dropLast⟩

def anchorText : Anchor → String
  | .relative => ""
  | .root => "/"
  | .doubleRoot => "//"

def toString (p : Path) : String :=
  let text := anchorText p.anchor ++ "/".intercalate p.parts
  if text = "" then "." else text

instance : ToString Path := ⟨toString⟩

/-- The components that remain when each `..` takes back the component before it, starting from
components that are already resolved; at the top `..` stays there. -/
def resolveFrom (start : List String) (parts : List String) : List String :=
  parts.foldl (fun here part => if part = ".." then here.dropLast else here ++ [part]) start

end Path

end Scaffold
