import SheetCompiler.FileTree.Basic
import SheetCompiler.Stateful

/-!
# Changing file trees

Operations that make directories and write or remove files. An operation that fails keeps what it
has changed before: the tree after a failure is part of its result. `writeAtomic` writes a file
beside its place and then moves it there, so that a failure leaves the old file as it was and no
other file behind.
-/

namespace SheetCompiler.FileTree

/-- An operation on a tree: its result or why it failed, and the tree afterwards. -/
abbrev Update (α : Type) := Stateful FileError FileTree α

/-- Fails on a path. -/
def failAt {α : Type} (cause : FileCause) (path : String) : Update α :=
  throw ⟨cause, path, none⟩

/-- The location a path leads to. -/
def locateM (path : String) : Update Location := do
  match (← get).locate path with
  | .ok loc => return loc
  | .error cause => failAt cause path

/-! ## Directories -/

/-- Makes one directory, where no entry may be. -/
def makeDirectory (path : String) : Update Unit := do
  let loc ← locateM path
  match (← get).node? loc with
  | some _ => failAt .exists path
  | none => modify fun t => t.put loc .directory

/-- Makes a directory unless the path leads to an entry. -/
def makeMissing (path : String) : Update Unit := do
  if (← get).contains path then return () else makeDirectory path

/-- Makes a directory unless the path leads to one. -/
def ensureDirectory (path : String) : Update Unit := do
  if (← get).isDirectory path then return () else makeDirectory path

/-- Makes a directory and, before it, those above it. -/
def makeDirectories (path : String) : Update Unit := do
  (Path.above path).forM makeMissing
  ensureDirectory path

/-- Makes a directory that is not there yet and, before it, those above it. One point behind a
directory that has just been made names that one. -/
def makeNewDirectories (path : String) : Update Unit := do
  let t ← get
  let isMade := (Path.above path).getLast?.any fun directory => !t.contains directory
  (Path.above path).forM makeMissing
  if isMade && Path.last path = "." then return () else makeDirectory path

/-! ## Files -/

/-- Writes a file in its place. -/
def write (path : String) (content : Content) : Update Unit := do
  let loc ← locateM path
  match (← get).node? loc with
  | some .directory => failAt .isDirectory path
  | _ => modify fun t => t.put loc (.file content)

/-- Removes a file. -/
def removeFile (path : String) : Update Unit := do
  match (← get).lookup path with
  | .ok (_, .directory) => failAt .isDirectory path
  | .ok (loc, .file _) => modify fun t => t.erase loc
  | .error cause => failAt cause path

/-- Removes a file, or a directory with everything below it. -/
def removeAll (path : String) : Update Unit := do
  match (← get).lookup path with
  | .ok (loc, .directory) => modify fun t => t.eraseBelow loc
  | .ok (loc, .file _) => modify fun t => t.erase loc
  | .error cause => failAt cause path

/-! ## Atomic writes -/

/-- The name of a temporary file. -/
def temporaryName (k : Nat) : String := ".tmp-" ++ toString k ++ ".part"

/-- How messages show the name of a temporary file, whose middle part is not fixed. -/
def temporaryPattern : String := ".tmp-*.part"

/-- The first name of a temporary file that no entry of a directory has. -/
def freshName (t : FileTree) (directory : Location) : String :=
  -- there are more names than entries, so one of them is free
  let taken (k : Nat) : Bool := (t.node? (directory ++ [temporaryName k])).isSome
  temporaryName <|
    ((List.range (t.entries.length + 1)).find? fun k => !taken k).getD t.entries.length

/-- Where a new file may take the place of what a path leads to, or why it may not. -/
def replaceable (t : FileTree) (path : String) : Except FileCause Location := do
  let loc ← t.locate path
  if Path.last path = "." ∨ Path.last path = ".." then .error .busy
  else if Text.endsWith "/" path then .error .notDirectory
  else
    match t.node? loc with
    | some .directory => .error .isDirectory
    | _ => .ok loc

/-- Moves the file at a location to a path. If that fails the file is removed. -/
def moveTo (source : Location) (shown path : String) (content : Content) : Update Unit := do
  match (← get).replaceable path with
  | .ok loc => modify fun t => (t.erase source).put loc (.file content)
  | .error cause =>
    modify fun t => t.erase source
    throw ⟨cause, shown, some path⟩

/-- What bounds writes from outside a tree: the bytes that are left for the paths of temporary files
behind the path of the working directory, and how many directories can be made one inside the
other. -/
structure Bounds where
  room : Option Nat
  depth : Option Nat

/-- No bounds. -/
def Bounds.none : Bounds := ⟨.none, .none⟩

/-- Whether a number goes beyond a bound. -/
def isBeyond (bound : Option Nat) (n : Nat) : Bool := bound.any fun most => decide (most < n)

/-- Fails if a number goes beyond a bound. -/
def checkBound (bound : Option Nat) (n : Nat) (cause : FileCause) (path : String) : Update Unit :=
  if isBeyond bound n then failAt cause path else return ()

/-- The directories above a path that are missing. -/
def missingAbove (t : FileTree) (path : String) : List String :=
  (Path.above path).filter fun u => !t.contains u

/-- How messages show a temporary file in a directory. -/
def temporaryIn (directory : String) : String :=
  Path.join (Path.lexical directory) temporaryPattern

/-- The bytes of the path of a temporary file in a directory, behind the path of the working
directory. In its name there are eight characters where messages show one. -/
def temporarySize (directory : String) : Nat := (temporaryIn directory).utf8ByteSize + 7

/-- Makes the directory of a path, within bounds, and gives where a temporary file has room in it. -/
def prepareWithin (b : Bounds) (directory : String) : Update Location := do
  checkBound b.depth ((← get).missingAbove directory).length .tooDeep directory
  makeDirectories directory
  let loc ← locateM directory
  checkBound b.room (temporarySize directory) .nameTooLong (temporaryIn directory)
  return loc

/-- Writes a text to a path, within bounds, by way of a temporary file in the same directory, which
is made if it is missing. -/
def writeWithin (b : Bounds) (path text : String) : Update Unit := do
  let directory := Path.directory path
  let loc ← prepareWithin b directory
  let source := loc ++ [freshName (← get) loc]
  modify fun t => t.put source (.file (.text text))
  moveTo source (temporaryIn directory) path (.text text)

/-- Writes a text to a path where nothing bounds writes. -/
def writeAtomic (path text : String) : Update Unit := writeWithin .none path text

/-- What is left of a write whose text cannot be encoded: the directory has been made. -/
def writeNothing (path : String) : Update Unit := do
  let _ ← prepareWithin .none (Path.directory path)

end SheetCompiler.FileTree
