import Scaffold.CommandLine.Places

/-!
# The program

The files that a command line leads to are read, the run is worked out on them, and what it changed
is written.
-/

namespace Scaffold.Program

/-- The name of a place in the file system. -/
def nameOf (here : Location) : String := "/" ++ "/".intercalate here

/-- What stands at a place, if anything does. -/
def entryAt (here : Location) : IO (Option Entry) := do
  try
    let path ← IO.FS.realPath (nameOf here)
    if ← path.isDir then return some .directory
    else if ← path.pathExists then return some (.file (← IO.FS.readBinFile path))
    else return none
  catch _ => return none

/-- The tree with the entry at a place. -/
def readPlace (tree : FileTree) (here : Location) : IO FileTree := do
  match ← entryAt here with
  | some entry => return tree.put here entry
  | none => return tree

/-- The tree with the entry at a place and, if it is a directory, with those in it. -/
def readAround (tree : FileTree) (here : Location) : IO FileTree := do
  let tree ← readPlace tree here
  match tree.get? here with
  | some .directory =>
      let path ← IO.FS.realPath (nameOf here)
      (← path.readDir).toList.foldlM (fun tree entry => readPlace tree (here ++ [entry.fileName]))
        tree
  | _ => return tree

/-- The tree with all that a path passes and leads to. -/
def readPath (tree : FileTree) (path : Path) : IO FileTree := do
  let places := tree.passed path
  let tree ← places.dropLast.foldlM readPlace tree
  places.getLast?.toList.foldlM readAround tree

/-- The tree of the working directory. -/
def readBase : IO FileTree := do
  let base := Path.parse (← IO.currentDir).toString
  readPath ⟨base.parts, []⟩ base

/-- Write one change. -/
def writeChange (change : Location × Entry) : IO Unit := do
  match change.2 with
  | .directory => IO.FS.createDirAll (nameOf change.1)
  | .file content => IO.FS.writeBinFile (nameOf change.1) content
  | .fullDevice => return

/-- Read the files that the arguments lead to: first those that are known, then those that the
settings name. -/
def readFor (arguments : List String) : IO FileTree := do
  let tree ← readBase
  let tree ← (CommandLine.paths tree arguments).foldlM readPath tree
  (CommandLine.paths tree arguments).foldlM readPath tree

/-- The numbers for each file, by the seed of a run. -/
def drawsOf (seed : UInt64) (path : Path) : Template.Draws :=
  .ofSeed (mixHash seed (hash path.toString))

/-- Run the program. -/
def run (arguments : List String) : IO UInt32 := do
  let before ← readFor arguments
  let draws := drawsOf (← IO.rand 0 (UInt64.size - 1)).toUInt64
  let (outcome, after) := (CommandLine.run arguments draws).run before
  (after.changesSince before).forM writeChange
  (← IO.getStdout).putStr outcome.stdout
  (← IO.getStderr).putStr outcome.stderr
  match outcome.result with
  | .ok code => return code.toUInt32
  | .error failure =>
      (← IO.getStderr).putStr s!"{failure.message}\n"
      return 1

end Scaffold.Program

def main (arguments : List String) : IO UInt32 := Scaffold.Program.run arguments
