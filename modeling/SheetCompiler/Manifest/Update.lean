import SheetCompiler.Json.Reader
import SheetCompiler.Project

/-!
# Keeping the manifest

Every change of the manifest is written to its file at once. Removing a compilation deletes its
files first, and the manifest's file is written even if a deletion fails.
-/

namespace SheetCompiler

/-! ## Places that are read from files -/

/-- The numbers that stand for open files are below this one. -/
def descriptorBound : Int := 2147483648

/-- Whether there is a file at a place: a path, or the number of an open file, of which there are
the three standard ones. -/
def FileTree.containsAt (files : FileTree) : Json → Except Failure Bool
  | .text path => .ok (files.contains path)
  | .truth _ => .ok true
  | .integer i =>
    if descriptorBound ≤ i then .error (.range .greatDescriptor)
    else if i < -descriptorBound then .error (.range .smallDescriptor)
    else .ok (decide (0 ≤ i) && decide (i ≤ 2))
  | .broken _ => .ok false
  | _ => .error .shape

/-- The compilations that the file of a manifest records; none if there is no file. -/
def Manifest.ofFile (files : FileTree) (place : Json) :
    Except Failure (Option (List Compilation)) := do
  if ← files.containsAt place then
    match place with
    | .text path =>
      let text ← (files.readText path).mapError .file
      let value ← (Json.read text).mapError .json
      return some (← Manifest.compilationsOf value)
    | _ => throw .shape
  else return none

namespace Action

/-- Writes a value to a file. One that is not whole cannot be encoded. -/
def writeValue (path : String) (value : Json) : Action Unit :=
  if value.isWhole then onFiles (FileTree.writeAtomic path value.print)
  else do
    onFiles (FileTree.writeNothing path)
    throw (.encoding value.printedPoints)

/-- Writes the file of the manifest. -/
def persist : Action Unit := do
  let p ← get
  match p.manifest.isOrdered, p.loaded.manifest with
  | true, .text path => writeValue path p.manifest.toJson
  | _, _ => throw .shape

/-- Reads the manifest from the file that the settings name. If that fails the manifest stays as it
is. -/
def loadManifest : Action Unit := do
  let p ← get
  match Manifest.ofFile p.files p.settings.manifest with
  | .error e => throw e
  | .ok none => set { p with manifest := .empty, loaded := p.settings }
  | .ok (some compilations) =>
    report (.manifestLoaded compilations.length p.settings.manifest.display)
    if compilations.all fun c => c.name.isKey then
      modify fun p => { p with manifest := .ofList compilations, loaded := p.settings }
    else throw .shape

/-- Records a compilation in the place of one of the same name. -/
def record (c : Compilation) : Action Unit := do
  if c.name.isKey then
    modify fun p => { p with manifest := p.manifest.insert c }
    persist
  else throw .shape

/-- The files of a compilation: those recorded, and the data file of a Convert table. -/
def filesOf (s : Settings) (c : Compilation) : Except Failure (List Json) :=
  match c.isOf TableKind.convert.name, s.data with
  | false, _ | _, .null => .ok c.outputs
  | true, _ =>
    -- no file can have a name with a half in it
    if !c.name.isWhole then .ok c.outputs else
    match s.dataPath? c.name.display with
    | some path =>
      if (c.outputs.filterMap Json.text?).contains path then .ok c.outputs
      else .ok (c.outputs ++ [.text path])
    | none => .error .shape

/-- Deletes the file at a place if there is one. -/
def deleteFile (place : Json) : Action Unit := do
  if ← ofExcept ((← get).files.containsAt place) then
    match place with
    | .text path =>
      onFiles (FileTree.removeFile path)
      report (.fileDeleted path)
    | _ => throw .shape

/-- Deletes the files of a compilation and drops it. -/
def discard (c : Compilation) : Action Unit := do
  let files ← ofExcept (filesOf (← get).loaded c)
  files.forM deleteFile
  if c.name.isKey then modify fun p => { p with manifest := p.manifest.erase c.name }
  else throw .shape

/-- Deletes the files of compilations and drops them, one after the other. -/
def remove (compilations : List Compilation) : Action Unit :=
  always (compilations.forM discard) persist

end Action

end SheetCompiler
