import Scaffold.CommandLine.Run

/-!
# Places

The places in the file system that a command line looks at or writes to.  Where the output goes is
known once the settings are.
-/

namespace Scaffold

namespace FileTree

/-- The places that are passed on the way to a path, and the place it leads to. -/
def passed (tree : FileTree) (path : Path) : List Location :=
  (List.range (path.parts.length + 1)).map fun n =>
    Path.resolveFrom (tree.start path) (path.parts.take n)

/-- The entries that are new or hold something else than before. -/
def changesSince (after before : FileTree) : List (Location × Entry) :=
  after.entries.filter fun (loc, entry) =>
    match entry, before.get? loc with
    | .directory, some .directory => false
    | .file new, some (.file old) => new != old
    | .fullDevice, some .fullDevice => false
    | _, _ => true

end FileTree

namespace CommandLine

/-- The paths that settings lead to. -/
def Order.settledPaths (o : Order) (s : Settings) : List Path :=
  let output := match o.request with
    | .ok request =>
        (plan s.outputRoot request.type (.ofRequest request defaultModulePath)).map (·.path)
    | .error _ => []
  [Path.parse s.outputRoot / "go.mod"] ++ s.templatesDir.toList.map Path.parse ++ output

/-- The paths that an order is known to lead to when this much of the files has been read. -/
def Order.paths (tree : FileTree) (o : Order) : List Path :=
  let file : Path := match o.config with
    | .text path => path
    | _ => SettingsFile.usualName
  match (o.settings tree).run.run [] with
  | (.ok s, _) => file :: o.settledPaths s
  | (.error _, _) => [file]

/-- The paths that a command line leads to. -/
def paths (tree : FileTree) (arguments : List String) : List Path :=
  match Command.ofArguments arguments with
  | .ok (.generate order) => order.paths tree
  | _ => []

end CommandLine

end Scaffold
