import SheetCompiler.Manifest.Update
import SheetCompiler.Settings.Config

/-!
# Loading settings

The settings of a project come from a configuration file, and its manifest from the file that the
settings name.
-/

namespace SheetCompiler

/-- The values of a configuration file over the defaults; a file that is not there says nothing. -/
def readConfig (files : FileTree) (path : String) : Except Failure Config :=
  if path ≠ "" ∧ files.contains path then do
    let text ← (files.readText path).mapError .file
    match Config.forbidden? text with
    | some (c, position) => throw (.character c position path)
    | none => return (← Config.ofText text).overDefaults
  else .ok (Config.ofValues [])

/-- Makes settings those of the project, and loads their manifest. -/
def Action.useSettings (s : Settings) : Action Unit := do
  modify fun p => { p with settings := s }
  Action.loadManifest

end SheetCompiler
