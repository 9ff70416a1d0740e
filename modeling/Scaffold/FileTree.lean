import Scaffold.Path
import Scaffold.Text.Utf8

/-!
# File trees

The files that a run can see, as a value: what stands at which place, and the place where relative
paths start.  Operations on it fail as the file system fails, one cause at a time.
-/

namespace Scaffold

/-- The components from the root down to a place. -/
abbrev Location := List String

/-- What stands at a place. -/
inductive Entry where
  | directory
  | file (content : ByteArray)
  /-- A device that takes no data. -/
  | fullDevice

/-- Files are the same by their bytes. -/
instance : DecidableEq Entry
  | .directory, .directory | .fullDevice, .fullDevice => isTrue rfl
  | .file a, .file b =>
      decidable_of_iff (a.data = b.data)
        ⟨fun h => congrArg Entry.file (ByteArray.ext h), fun h => by rw [Entry.file.inj h]⟩
  | .directory, .file _ | .directory, .fullDevice | .file _, .directory | .file _, .fullDevice
  | .fullDevice, .directory | .fullDevice, .file _ => isFalse nofun

structure FileTree where
  base : Location
  entries : List (Location × Entry)

/-- Why the file system refuses. -/
inductive OsError where
  | notFound
  | notDirectory
  | isDirectory
  | exists
  | nameTooLong
  | noSpace
  deriving DecidableEq, Repr

namespace OsError

def number : OsError → Nat
  | .notFound => 2
  | .exists => 17
  | .notDirectory => 20
  | .isDirectory => 21
  | .noSpace => 28
  | .nameTooLong => 36

def message : OsError → String
  | .notFound => "No such file or directory"
  | .exists => "File exists"
  | .notDirectory => "Not a directory"
  | .isDirectory => "Is a directory"
  | .noSpace => "No space left on device"
  | .nameTooLong => "File name too long"

/-- The message with number and path. -/
def messageAt (e : OsError) (path : Path) : String :=
  s!"[Errno {e.number}] {e.message}: {Text.quote path.toString}"

end OsError

/-- A path that no file system operation can take, a refusal, or calls that are nested too deep. -/
inductive DiskFault where
  | embeddedNul
  | os (cause : OsError)
  | tooDeep
  deriving DecidableEq, Repr

/-- Operations that change a file tree.  What they changed before a failure stays. -/
abbrev Disk (ε : Type) := ExceptT ε (StateM FileTree)

namespace FileTree

/-- The longest name of one component, in bytes. -/
def nameLimit : Nat := 255

/-- The longest path, in bytes. -/
def pathLimit : Nat := 4095

def get? (tree : FileTree) (loc : Location) : Option Entry :=
  if loc.isEmpty then some .directory else tree.entries.lookup loc

/-- The tree with an entry put at a place. -/
def put (tree : FileTree) (loc : Location) (entry : Entry) : FileTree :=
  if tree.entries.any fun e => e.1 = loc then
    { tree with entries := tree.entries.map fun e => if e.1 = loc then (loc, entry) else e }
  else { tree with entries := tree.entries ++ [(loc, entry)] }

/-- The tree without a place and all that is below it. -/
def erase (tree : FileTree) (loc : Location) : FileTree :=
  { tree with entries := tree.entries.filter fun e => !loc.isPrefixOf e.1 }

/-- The place where a path starts. -/
def start (tree : FileTree) (path : Path) : Location :=
  match path.anchor with
  | .relative => tree.base
  | _ => []

/-- One step down or up, into a directory. -/
def enter (tree : FileTree) (here : Location) (part : String) : Except OsError Location :=
  if part = ".." then .ok here.dropLast
  else if nameLimit < part.utf8ByteSize then .error .nameTooLong
  else
    match tree.get? (here ++ [part]) with
    | some .directory => .ok (here ++ [part])
    | some _ => .error .notDirectory
    | none => .error .notFound

/-- The directory at the end of a walk through directories. -/
def walk (tree : FileTree) (here : Location) : List String → Except OsError Location
  | [] => .ok here
  | part :: rest => do tree.walk (← tree.enter here part) rest

/-- What a path leads to: a directory, or a place in a directory that may be free. -/
inductive Target where
  | directory (loc : Location)
  | place (loc : Location)

def target (tree : FileTree) (path : Path) : Except OsError Target :=
  if pathLimit < path.toString.utf8ByteSize then .error .nameTooLong
  else
    match path.parts.getLast? with
    | none => .ok (.directory (tree.start path))
    | some last => do
        let dir ← tree.walk (tree.start path) path.parts.dropLast
        if last = ".." then .ok (.directory dir.dropLast)
        else if nameLimit < last.utf8ByteSize then .error .nameTooLong
        else .ok (.place (dir ++ [last]))

/-- The entry that a path leads to. -/
def find (tree : FileTree) (path : Path) : Except OsError Entry := do
  match ← tree.target path with
  | .directory _ => .ok .directory
  | .place loc =>
    match tree.get? loc with
    | some entry => .ok entry
    | none => .error .notFound

/-- Text that holds a NUL character names nothing. -/
def hasNul (path : Path) : Bool := path.parts.any fun part => part.toList.contains '\x00'

/-- A path that leads nowhere is not the kind of entry asked for; other refusals remain. -/
def isKind (tree : FileTree) (path : Path) (kind : Entry → Bool) : Except OsError Bool :=
  if hasNul path then .ok false
  else
    match tree.find path with
    | .ok entry => .ok (kind entry)
    | .error .notFound | .error .notDirectory => .ok false
    | .error e => .error e

def isDirectory (tree : FileTree) (path : Path) : Except OsError Bool :=
  tree.isKind path fun
    | .directory => true
    | _ => false

def isFile (tree : FileTree) (path : Path) : Except OsError Bool :=
  tree.isKind path fun
    | .file _ => true
    | _ => false

/-- The bytes of a file. -/
def readBytes (tree : FileTree) (path : Path) : Except DiskFault ByteArray :=
  if hasNul path then .error .embeddedNul
  else
    match tree.find path with
    | .ok .directory => .error (.os .isDirectory)
    | .ok (.file content) => .ok content
    | .ok .fullDevice => .ok .empty
    | .error e => .error (.os e)

/-- The names of the entries of a directory. -/
def names (tree : FileTree) (path : Path) : List String :=
  match tree.target path with
  | .ok (.directory loc) | .ok (.place loc) =>
      tree.entries.filterMap fun e =>
        if e.1.dropLast = loc then e.1.getLast? else none
  | .error _ => []

/-- Make one directory in an existing one. -/
def makeDirectory (path : Path) : Disk DiskFault Unit := do
  if hasNul path then throw .embeddedNul
  match (← get).target path with
  | .error e => throw (.os e)
  | .ok (.directory _) => throw (.os .exists)
  | .ok (.place loc) =>
    match (← get).get? loc with
    | some _ => throw (.os .exists)
    | none => modify fun tree => tree.put loc .directory

/-- A refusal to make a directory is none if the directory is there. -/
def acceptDirectory (path : Path) (fault : DiskFault) : Disk DiskFault Unit := do
  match fault with
  | .os .notFound | .embeddedNul | .tooDeep => throw fault
  | .os _ =>
    match (← get).isDirectory path with
    | .ok true => pure ()
    | .ok false => throw fault
    | .error e => throw (.os e)

/-- Make the directory with these components, the last one first; where its parent is missing,
make that before it, by a call of its own.  `limit` bounds how deep such calls may be nested. -/
def ensureParts (anchor : Anchor) (limit : Nat) : List String → Disk DiskFault Unit
  | [] => tryCatch (makeDirectory ⟨anchor, []⟩) (acceptDirectory ⟨anchor, []⟩)
  | last :: rest => do
      let path : Path := ⟨anchor, (last :: rest).reverse⟩
      tryCatch (makeDirectory path) fun
        | .os .notFound => do
            match limit with
            | 0 => throw .tooDeep
            | limit + 1 => ensureParts anchor limit rest
            tryCatch (makeDirectory path) (acceptDirectory path)
        | fault => acceptDirectory path fault

/-- About as many calls may be nested where a directory is made: a thousand, less those that are
under way already. -/
def callLimit : Nat := 980

/-- Make a directory and whatever is missing above it. -/
def ensureDirectory (path : Path) (limit : Nat := callLimit) : Disk DiskFault Unit :=
  ensureParts path.anchor limit path.parts.reverse

/-- Open a file for writing: it is there and empty afterwards. -/
def openFile (path : Path) : Disk DiskFault Location := do
  if hasNul path then throw .embeddedNul
  match (← get).target path with
  | .error e => throw (.os e)
  | .ok (.directory _) => throw (.os .isDirectory)
  | .ok (.place loc) =>
    match (← get).get? loc with
    | some .directory => throw (.os .isDirectory)
    | some .fullDevice => pure loc
    | some (.file _) | none =>
        modify fun tree => tree.put loc (.file .empty)
        pure loc

/-- Write all of an open file. -/
def fill (loc : Location) (content : ByteArray) : Disk DiskFault Unit := do
  match (← get).get? loc with
  | some .fullDevice => if content.isEmpty then pure () else throw (.os .noSpace)
  | _ => modify fun tree => tree.put loc (.file content)

end FileTree

end Scaffold
