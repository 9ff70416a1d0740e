import Scaffold.Bundle
import Scaffold.Template.Compile

/-!
# Rendering one file

Five stages, each with a failure of its own: read the template, parse it, make the directories,
create the file, run the template.  What a template wrote before it failed stays in the file.
-/

namespace Scaffold

namespace Bundle

/-- The failure of the second stage for a template that has no program. -/
def refusal (resource : String) : Template.Refusal → Failure
  | .fault fault => .generation ⟨.parseTemplate, resource, .syntaxFault fault⟩
  | .escape cause => .fault (.uncompiled cause)

/-- The program of a resource: the first two stages. -/
def program (b : Bundle) (resource : String) : Except Failure Template.Program := do
  let text ← (b.read resource).mapError .generation
  (Template.compile text).mapError (refusal resource)

end Bundle

namespace Render

/-- A failure of the file system in a stage. -/
def diskFailure (stage : Stage) (path : Path) : DiskFault → Failure :=
  Failure.ofDisk fun cause => .generation ⟨stage, path.toString, .os cause⟩

/-- Make the directories above a file. -/
def makeParents (path : Path) : Disk Failure Unit :=
  ExceptT.adapt (diskFailure .createDirectory path.parent)
    (FileTree.ensureDirectory path.parent)

/-- Create the file, or empty it. -/
def createFile (path : Path) : Disk Failure Location :=
  ExceptT.adapt (diskFailure .createFile path) (FileTree.openFile path)

/-- Write what the template gives into the open file. -/
def execute (resource : String) (path : Path) (loc : Location) (outcome : Template.Outcome) :
    Disk Failure Unit := do
  ExceptT.adapt (diskFailure .createFile path) (FileTree.fill loc outcome.text.toUTF8)
  match outcome.trouble? with
  | some trouble =>
    throw (.generation ⟨.executeTemplate, resource, .trouble trouble⟩)
  | none => pure ()

end Render

/-- Write the output of a resource for some data to a path.  The draws are the numbers that the
template may draw at random. -/
def render (bundle : Bundle) (resource : String) (path : Path)
    (data : List (String × Template.Value)) (draws : Template.Draws) : Disk Failure Unit := do
  match bundle.program resource with
  | .error failure => throw failure
  | .ok program =>
    Render.makeParents path
    let loc ← Render.createFile path
    Render.execute resource path loc (program.run data draws)

/-- Write the output of a resource for some data to a path, which is the result. -/
def renderFile (bundle : Bundle) (resource : String) (path : Path)
    (data : List (String × Template.Value)) (draws : Template.Draws) : Disk Failure Path := do
  render bundle resource path data draws
  return path

end Scaffold
