import Scaffold.Bundle
import Scaffold.FillData
import Scaffold.Log
import Scaffold.Settings

/-!
# Go modules

The module path that a module file declares, and the one that settings lead to.
-/

namespace Scaffold

namespace GoModule

open Text

/-- The directive that names the module. -/
def keyword : List Char := "module".toList

/-- Without quotes at both ends. -/
def unquote (word : List Char) : List Char :=
  dropTrailing (· = '"') (word.dropWhile (· = '"'))

/-- The word behind the directive, if the text begins with it; white space of any kind may stand
before the directive and between the two. -/
def directive? (text : List Char) : Option (List Char) :=
  let text := text.dropWhile isBlank
  if keyword.isPrefixOf text then
    let rest := text.drop keyword.length
    let word := (rest.dropWhile isBlank).takeWhile (!isBlank ·)
    if (rest.head?.map isBlank).getD false && !word.isEmpty then some (unquote word) else none
  else none

/-- The first directive that stands at the beginning of a line. -/
def declaration? : List Char → Option (List Char)
  | [] => none
  | '\n' :: rest =>
      match directive? rest with
      | some word => some word
      | none => declaration? rest
  | _ :: rest => declaration? rest

/-- The module path that the text of a module file declares. -/
def declared? (text : String) : Option String :=
  (declaration? ('\n' :: text.toList)).map String.ofList

/-- The module path declared under a root, with what there is to say about it. -/
def read (tree : FileTree) (root : Path) : Except Failure (Option String × Log) :=
  let path := root / "go.mod"
  match tree.readBytes path with
  | .error (.os .notFound) => .ok (none, [])
  | .error fault =>
      .error (Failure.ofDisk (fun cause => .input (.config (.unreadable path cause))) fault)
  | .ok bytes =>
    match Bundle.decode bytes with
    | .error fault => .error (.fault (.notUtf8 fault))
    | .ok text =>
      match declared? text with
      | some module => .ok (some module, [])
      | none =>
        .ok (none, [.ofPart .warning "config" s!"No module directive in {path}"])

/-- The module path of settings, else the declared one, else the default. -/
def resolve (tree : FileTree) (s : Settings) : Except Failure (String × Log) :=
  match s.modulePath with
  | some module => if module ≠ "" then .ok (module, []) else declaredOrDefault
  | none => declaredOrDefault
where
  declaredOrDefault : Except Failure (String × Log) := do
    let (module?, log) ← read tree s.outputRoot
    let module := module?.getD ""
    return (if module = "" then defaultModulePath else module, log)

end GoModule

end Scaffold
