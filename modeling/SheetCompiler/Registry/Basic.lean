import SheetCompiler.Failure
import SheetCompiler.Json.Equality
import SheetCompiler.Schema.Header
import SheetCompiler.Stateful

/-!
# Registries

The tables, containers of enumerations and groups of constants that scripts have declared. The
records of a table are read from its data file when they are first asked for, and kept until another
directory of data files is set. Main statements: `rows_of_loaded` (kept records are not read again)
and `table?_configure` (setting the directory drops them).

A column can have a name that means something else to a record type, so that no record of it can be
made or looked at; `RecordType.makingFault?` and `innate` tell which.
-/

namespace SheetCompiler

/-- A record of a data file: the ID it is found by, and its cells. -/
structure StoredRecord where
  key : Json
  cells : Pairs Json

/-- A declared table: the type of its records, and the records once they are read. -/
structure DeclaredTable where
  type : RecordType
  rows : Option (List StoredRecord)

/-- What scripts have declared, and the directory of the data files. The constants are those of the
Variable scripts that were run last, of which each has a group if it declares one. -/
structure Registry where
  data : String
  tables : Pairs DeclaredTable
  containers : Pairs Container
  constants : Pairs (Option ConstantGroup)

/-- Why no record of a type can be made: a field has the name of what makes a record. -/
def RecordType.makingFault? (type : RecordType) : Option Failure :=
  if type.hasField "__new__" then some .shape
  else if type.hasField "__init__" ∨ type.hasField "__setattr__" then some .attribute
  else none

namespace Registry

/-- A registry without declarations. -/
def empty (data : String) : Registry := ⟨data, [], [], []⟩

/-- A question to a registry: answering it may read data files. -/
abbrev Query (α : Type) := Stateful Failure Registry α

/-! ## Declarations -/

/-- Declares a table, in the place of one with its name. -/
def declareTable (r : Registry) (name : String) (type : RecordType) : Registry :=
  { r with tables := r.tables.put name ⟨type, none⟩ }

/-- Registers a container, in the place of one with its name. -/
def declareContainer (r : Registry) (c : Container) : Registry :=
  { r with containers := r.containers.put c.name c }

/-- Takes over what a run of a script has declared. -/
def declare (r : Registry) (d : Script.Declared) : Registry :=
  d.tables.foldl (fun r (name, type) => r.declareTable name type)
    (d.containers.foldl declareContainer r)

/-- Sets the directory of the data files and drops the records read so far. -/
def configure (r : Registry) (data : String) : Registry :=
  { r with
    data := data
    tables := r.tables.map fun (name, t) => (name, { t with rows := none }) }

/-! ## Records -/

/-- The data file of a table. -/
def dataPath (r : Registry) (name : String) : String := Path.join r.data (name ++ ".json")

/-- Puts a record among others: in the place of one with its ID, which is still found by the ID that
came first, or at the end. -/
def putRecord (record : StoredRecord) : List StoredRecord → List StoredRecord
  | [] => [record]
  | other :: rest =>
    if other.key.isSameKey record.key then ⟨other.key, record.cells⟩ :: rest
    else other :: putRecord record rest

/-- The record that a value of a data file is. -/
def recordOf (type : RecordType) (value : Json) : Except Failure StoredRecord :=
  match value.members? with
  | some cells =>
    match cells.get? idName, type.makingFault? with
    | none, _ => .error (.key (.text idName))
    | some _, some fault => .error fault
    | some id, none => if id.isKey then .ok ⟨id, cells⟩ else .error .shape
  | none => .error .shape

/-- The records of a data file: one for each ID, in the order in which the IDs come first. -/
def recordsOf (type : RecordType) (value : Json) : Except Failure (List StoredRecord) :=
  match value.elements? with
  | some items => do
    let records ← items.mapM (recordOf type)
    return records.foldl (fun acc record => putRecord record acc) []
  | none => .error .shape

/-- Reads a data file. -/
def readRecords (files : FileTree) (type : RecordType) (path : String) :
    Except Failure (List StoredRecord) := do
  let text ← (files.readText path).mapError .file
  let value ← (Json.read text).mapError .json
  recordsOf type value

/-- The declared table of a name. -/
def table (name : String) : Query DeclaredTable := do
  match (← get).tables.get? name with
  | some t => return t
  | none => throw (.key (.text name))

/-- The records of a table, read now unless they have been read before. -/
def rows (files : FileTree) (name : String) : Query (List StoredRecord) := do
  let t ← table name
  match t.rows with
  | some records => return records
  | none =>
    match readRecords files t.type ((← get).dataPath name) with
    | .error e => throw e
    | .ok records =>
      modify fun r => { r with tables := r.tables.put name { t with rows := some records } }
      return records

/-- The record of an ID among records. -/
def findRecord? (records : List StoredRecord) (id : Json) : Option StoredRecord :=
  records.find? fun record => record.key.isSameKey id

/-- The record of an ID, if the table has one. -/
def record? (files : FileTree) (name : String) (id : Json) : Query (Option StoredRecord) := do
  let records ← rows files name
  if id.isKey then return findRecord? records id else throw .shape

/-- The record of an ID. -/
def record (files : FileTree) (name : String) (id : Json) : Query StoredRecord := do
  match ← record? files name id with
  | some found => return found
  | none => throw (.key id)

/-- Records that have been read are given again, whatever the files hold now. -/
theorem rows_of_loaded {r : Registry} {name : String} {t : DeclaredTable}
    {records : List StoredRecord} (ht : r.tables.get? name = some t) (hr : t.rows = some records)
    (files : FileTree) : (rows files name).apply r = (.ok records, r) := by
  simp [rows, table, ht, hr]

theorem get?_map {tables : Pairs DeclaredTable} (f : DeclaredTable → DeclaredTable)
    (name : String) :
    Pairs.get? (tables.map fun (key, t) => (key, f t)) name = (tables.get? name).map f := by
  induction tables with
  | nil => rfl
  | cons p rest ih =>
    obtain ⟨key, t⟩ := p
    by_cases h : key = name <;> simp [Pairs.get?_cons, h, ih]

/-- Setting the directory keeps the tables and drops their records. -/
theorem table?_configure (r : Registry) (data name : String) :
    (r.configure data).tables.get? name =
      (r.tables.get? name).map fun t => { t with rows := none } :=
  get?_map (fun t => { t with rows := none }) name

end Registry

end SheetCompiler
