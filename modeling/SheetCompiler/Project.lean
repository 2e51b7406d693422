import SheetCompiler.Event
import SheetCompiler.FileTree.Update
import SheetCompiler.Manifest.Basic
import SheetCompiler.Registry.Basic
import SheetCompiler.Settings.Basic
import SheetCompiler.Stateful

/-!
# Projects

A project as a value: its settings, its manifest, the files of its directory, what its scripts have
declared, and what has been reported. An action on a project gives a result or fails; either way it
leaves a project behind.
-/

namespace SheetCompiler

/-- A project. The manifest and the batches that it records keep to the settings under which it was
loaded. `refreshes` counts how often listeners have been told of changes. -/
structure Project where
  settings : Settings
  loaded : Settings
  manifest : Manifest
  files : FileTree
  registry : Registry
  events : List Event
  refreshes : Nat

/-- An action on a project: its result or failure, and the project afterwards. -/
abbrev Action (α : Type) := Stateful Failure Project α

namespace Project

/-- A project without entries in a working directory. -/
def ofFiles (settings : Settings) (files : FileTree) (data : String) : Project :=
  ⟨settings, settings, .empty, files, .empty data, [], 0⟩

/-- A project in an empty working directory, with the usual directories. -/
def empty : Project := ofFiles (.ofDirectories "Dist" "Resources") .empty "Resources"

end Project

namespace Action

variable {α β : Type}

/-- Reports an event. -/
def report (e : Event) : Action Unit := modify fun p => { p with events := p.events ++ [e] }

/-- Tells the listeners of changes. -/
def refresh : Action Unit := modify fun p => { p with refreshes := p.refreshes + 1 }

/-- The result of a computation that looks at no project. -/
def ofExcept (r : Except Failure α) : Action α :=
  match r with
  | .ok a => return a
  | .error e => throw e

/-- An operation on the files of a project. -/
def onFiles (u : FileTree.Update α) : Action α := fun p =>
  let (r, files) := u.apply p.files
  (r.mapError .file, { p with files })

/-- A question to the registry of a project. -/
def onRegistry (q : Registry.Query α) : Action α := fun p =>
  let (r, registry) := q.apply p.registry
  (r, { p with registry })

/-- An action that keeps its failure as a result. -/
def attempt (a : Action α) : Action (Except Failure α) := fun p =>
  let (r, p) := a.apply p
  (.ok r, p)

/-- An action, and after it another one, whether or not the first fails. A failure of the second
one counts before one of the first. -/
def always (a : Action α) (after : Action Unit) : Action α := fun p =>
  let (r, p) := a.apply p
  match after.apply p with
  | (.ok (), p) => (r, p)
  | (.error e, p) => (.error e, p)

end Action

end SheetCompiler
