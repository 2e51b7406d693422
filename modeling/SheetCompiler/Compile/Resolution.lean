import SheetCompiler.Project
import SheetCompiler.Table.Cell
import SheetCompiler.Table.Kind

/-!
# Resolution of types

What the scripts of a project say about other tables: a reference exists once the script of its
table does, an enumeration once the script of its container declares it. A script that cannot be run
declares nothing; that is reported once for each type that asks for it. Settings without a place for
scripts resolve nothing, and asking them fails.
-/

namespace SheetCompiler

open SheetCompiler.Text

/-- Whether the table that a reference names exists. The table at hand always does. -/
def referenceExists (s : Settings) (files : FileTree) (table : Option String) (type : String) :
    Except Failure Bool :=
  let name := TypeToken.referencedTable type
  if name = "" then .ok false
  else if table = some name then .ok true
  else
    match s.scriptPath? TableKind.convert.name name with
    | some script => .ok (files.contains script)
    | none => .error .shape

/-- The outcome of looking for the script of an enumeration type. -/
inductive EnumScript
  | absent
  | broken (path : String) (declared : Script.Declared)
  | present (declared : Script.Declared)

/-- Runs the script of a container at a path, if it is there. -/
def enumScriptAt (files : FileTree) (table script : String) : EnumScript :=
  if !files.contains script then .absent
  else
    match files.readText script with
    | .error _ => .broken script Script.Declared.nothing
    | .ok text =>
      match Script.run (TableKind.enum.moduleOf table) text with
      | (declared, none) => .present declared
      | (declared, some _) => .broken script declared

/-- Looks for the script of an enumeration type and runs it. -/
def enumScript (s : Settings) (files : FileTree) (type : String) : Except Failure EnumScript :=
  let (container, path) := TypeToken.splitContainer type
  let table := TypeToken.unmarked container
  if table = "" ∨ path = "" then .ok .absent
  else
    match s.scriptPath? TableKind.enum.name table with
    | some script => .ok (enumScriptAt files table script)
    | none => .error .shape

/-- The members of an enumeration type, if a script declares it. -/
def enumMembers? (s : Settings) (files : FileTree) (type : String) : Option (List String) :=
  match enumScript s files type with
  | .ok (.present declared) =>
    let (container, path) := TypeToken.splitContainer type
    match Script.findPath? declared.names (container :: pieces '.' path) with
    | some (.enumeration e) => some e.members.names
    | _ => none
  | _ => none

/-- What the files of a project say about other tables than the one at hand. -/
def Resolver.ofFiles (s : Settings) (files : FileTree) (table : Option String) : Resolver where
  tableExists type := (referenceExists s files table type).toOption.getD false
  members? := enumMembers? s files

theorem members?_ofFiles (s : Settings) (files : FileTree) (table : Option String) (type : String) :
    (Resolver.ofFiles s files table).members? type = enumMembers? s files type := by
  rw [Resolver.ofFiles]

namespace Action

/-- Runs the script of an enumeration type: takes over what it declares, and reports a script that
fails. -/
def consult (s : Settings) (type : String) : Action Unit := do
  let p ← get
  match ← ofExcept (enumScript s p.files type) with
  | .absent => return ()
  | .present declared => set { p with registry := p.registry.declare declared }
  | .broken path declared =>
    set { p with registry := p.registry.declare declared }
    report (.enumsUnavailable path)

/-- Consults the scripts of the types, each type once. -/
def consultAll (s : Settings) (types : List String) : Action Unit :=
  types.eraseDups.forM (consult s)

/-- Looks up the type of a column, if types of its kind are looked up. -/
def lookUp (s : Settings) (table : String) (type : String) : Action Unit := do
  match TypeToken.classify type with
  | .tableReference =>
    let _ ← ofExcept (referenceExists s (← get).files (some table) type)
  | .enumeration => consult s type
  | _ => return ()

/-- What is known of other tables than the one at hand. -/
def resolver (s : Settings) (table : Option String) : Action Resolver := do
  let p ← get
  return .ofFiles s p.files table

/-- Scans the columns of a sheet, and looks up their types, each type once. -/
def scanOf (s : Settings) (table : String) (sheet : Sheet) : Action (Scan Column) := do
  let scan := scanColumns sheet (← resolver s (some table))
  (lookedUpTypes scan).eraseDups.forM (lookUp s table)
  return scan

/-- Reads the columns of a sheet, and consults the scripts of their enumerations. -/
def columnsOf (s : Settings) (table : String) (sheet : Sheet) : Action (List Column) := do
  match (← scanOf s table sheet).result with
  | .ok columns => return columns
  | .error fault => throw (.table table fault)

/-- Checks a cell, and consults the script of its enumeration if the check comes to it. -/
def cellOf (s : Settings) (table row column type : String) (kind : ColumnKind) (isArray : Bool)
    (cell : String) : Action (List String) := do
  let isOne := decide ((splitCell cell).length ≤ 1)
  if kind = .enumeration && cell ≠ "" && (isArray || isOne) then consult s type
  match checkCell (← resolver s none) row column type kind isArray cell with
  | .ok values => return values
  | .error fault => throw (.table table fault)

end Action

end SheetCompiler
