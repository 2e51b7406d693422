import SheetCompiler.Compile.Resolution
import SheetCompiler.Compile.Table

/-!
# Writing what a table compiles to

The data file of a Convert table, then the script. Nothing is written for a table with a fault.
-/

namespace SheetCompiler

/-- The text of a data file. -/
def printRecords (records : List (Pairs Json)) : String :=
  (Json.list (records.map Json.object)).print

namespace Action

/-- Writes the data file of a table and gives its path. -/
def writeData (s : Settings) (table : String) (rows : List Row) : Action String := do
  match s.dataPath? table with
  | none => throw .shape
  | some path =>
    onFiles (FileTree.writeAtomic path (printRecords (rows.map Row.cells)))
    report (.rowsWritten rows.length path)
    return path

/-- Writes the script of a table and gives its path. -/
def writeScript (s : Settings) (kind table script : String) : Action String := do
  match s.scriptPath? kind table with
  | none => throw .shape
  | some path =>
    onFiles (FileTree.writeAtomic path script)
    report (.scriptWritten path)
    return path

/-- Writes what a table compiled to, and gives the files written: the script and, behind it, the
data file. -/
def writeCompiled (s : Settings) (kind : TableKind) (table : String) (c : Compiled) :
    Action (List String) :=
  match c.rows with
  | some rows => do
    let data ← writeData s table rows
    let script ← writeScript s kind.name table c.script
    return [script, data]
  | none => do return [← writeScript s kind.name table c.script]

/-- Refuses the name of a table that is no identifier. -/
def checkTableName (table : String) : Action Unit :=
  if Text.isIdentifier table then return ()
  else throw (.table table (.schema (.notIdentifier "Table name" table)))

/-- Compiles a sheet as the table of a kind and writes the outcome. -/
def compileSheet (s : Settings) (kind : TableKind) (table source : String) (sheet : Sheet) :
    Action Compilation := do
  checkTableName table
  let p ← get
  -- only headers ask for enumerations that have not been asked for before
  if kind = .convert then
    let _ ← scanOf s table sheet
  let compiled ← ofExcept <|
    compile kind table sheet (← resolver s (some table)) (Template.ofSettings s p.files kind)
  let outputs ← writeCompiled s kind table compiled
  report compiled.event
  return .ofTexts kind.name table source outputs

/-- Reads the first worksheet of a workbook. -/
def readSheet (path : String) : Action Sheet := do
  let extension := Text.lower (Path.splitExtension (Path.base path)).2
  if !workbookFormats.contains extension then throw (.workbook (.format extension))
  match (← get).files.read path with
  | .error e => throw (.file e)
  | .ok (.text _) => throw (.workbook .content)
  | .ok (.container _ fault) => throw (.workbook (.container fault))
  | .ok (.workbook cells) =>
    let sheet := Sheet.ofCells cells
    report (.sheetRead sheet.rowCount path)
    return sheet

/-- Compiles a workbook as a table of a kind that is given by its label. -/
def compileFile (s : Settings) (label path : String) : Action Compilation := do
  match TableKind.ofLabel? label with
  | none => throw (.unknownKind label)
  | some kind => compileSheet s kind (tableNameOf path) path (← readSheet path)

end Action

end SheetCompiler
