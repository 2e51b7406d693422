import SheetCompiler.Project
import SheetCompiler.Registry.Value
import SheetCompiler.Table.Kind

/-!
# Loading scripts

The scripts of a directory declare what they hold: first containers of enumerations, then groups of
constants, then tables. A script that fails ends the loading; what was declared before stays, but of
constants only those of a whole loading count.
-/

namespace SheetCompiler.Action

open SheetCompiler.Text

/-- The extension of scripts. -/
def scriptExtension : String := ".py"

/-- The names of the scripts in a directory, sorted. -/
def scriptsIn (files : FileTree) (directory : String) : List String :=
  match files.lookup directory with
  | .ok (loc, .directory) => (files.children loc).filter (endsWith scriptExtension)
  | _ => []

/-- A script that has been run: its kind, its table, and the group of constants that it declares, if
it declares one. -/
structure LoadedScript where
  kind : TableKind
  table : String
  group : Option ConstantGroup

/-- The name of the module that a script is. -/
def LoadedScript.module (s : LoadedScript) : String := s.kind.moduleOf s.table

/-- Runs a script of a kind and takes over what it declares. -/
def loadScript (kind : TableKind) (directory file : String) : Action LoadedScript := do
  let text ← ofExcept (((← get).files.readText (Path.join directory file)).mapError .file)
  let table := (Path.splitExtension file).1
  let (declared, fault) := Script.run (kind.moduleOf table) text
  modify fun p => { p with registry := p.registry.declare declared }
  match fault with
  | some fault => throw (.script fault)
  | none => return ⟨kind, table, Script.constants? declared.names ("Va" ++ table)⟩

/-- Runs the scripts of a kind in a directory of scripts. -/
def loadKind (scripts : String) (kind : TableKind) : Action (List LoadedScript) := do
  let directory := Path.join scripts kind.name
  (scriptsIn (← get).files directory).mapM (loadScript kind directory)

/-- Runs every script in a directory of scripts, and gives the names of the modules. If none fails,
their constants take the place of those of earlier runs. -/
def loadScripts (scripts : String) : Action (List String) := do
  let enums ← loadKind scripts .enum
  let groups ← loadKind scripts .variable
  let tables ← loadKind scripts .convert
  let constants := groups.map fun s => (s.table, s.group)
  modify fun p => { p with registry := { p.registry with constants } }
  return (enums ++ groups ++ tables).map LoadedScript.module

end SheetCompiler.Action
