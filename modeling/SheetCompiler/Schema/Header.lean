import SheetCompiler.Schema.Column
import SheetCompiler.Schema.Fault
import SheetCompiler.Workbook.Sheet

/-!
# Headers

A header is a row of names. Its cells are visited from left to right up to the first blank one;
names that begin with `#` are passed over, and every other name must not begin with a digit nor
repeat an earlier one. `scanHeader` visits the named cells, and `Scan` keeps what was found before
a fault as well as the fault. `readColumns` reads the two header rows of a Convert table.
-/

namespace SheetCompiler

open SheetCompiler.Text

/-- Names and IDs that begin so are left out. -/
def exclusionMark : String := "#"

/-- Whether a text is marked as left out. -/
def isExcluded (text : String) : Bool := startsWith exclusionMark text

/-- The name of the column that identifies rows. -/
def idName : String := "ID"

/-- The type of the column that identifies rows. -/
def idType : String := "string"

/-- Refuses a name that begins with a digit or has been seen. -/
def checkName (what : String) (seen : List String) (name : String) : Except Fault Unit :=
  match name.toList with
  | [] => .error .blankName
  | c :: _ =>
    if isDigit c then .error (.schema (.leadingDigit what name))
    else if seen.contains name then .error (.schema (.duplicateName what name))
    else .ok ()

/-- What a scan found, and the fault that ended it early. -/
structure Scan (α : Type) where
  found : List α
  fault : Option Fault

namespace Scan

variable {α : Type}

/-- What was found, unless a fault ended the scan. -/
def result (s : Scan α) : Except Fault (List α) :=
  match s.fault with
  | none => .ok s.found
  | some fault => .error fault

/-- The scan with something found before it. -/
def cons (a : α) (s : Scan α) : Scan α := ⟨a :: s.found, s.fault⟩

end Scan

/-- What names of header cells are called in messages. -/
def columnName : String := "Column name"

/-- Visits the named cells of a header row at the given columns. -/
def scanCells {α : Type} (sheet : Sheet) (row : Nat) (visit : Nat → String → Except Fault α) :
    List Nat → List String → Scan α
  | [], _ => ⟨[], none⟩
  | index :: rest, seen =>
    let name := normalize (sheet.cell row index)
    if isExcluded name then scanCells sheet row visit rest seen
    else if name = "" then ⟨[], none⟩
    else
      match checkName columnName seen name with
      | .error fault => ⟨[], some fault⟩
      | .ok () =>
        match visit index name with
        | .error fault => ⟨[], some fault⟩
        | .ok a => (scanCells sheet row visit rest (name :: seen)).cons a

/-- Visits the named cells of a header row from a column on. -/
def scanHeader {α : Type} (sheet : Sheet) (row start : Nat) (seen : List String)
    (visit : Nat → String → Except Fault α) : Scan α :=
  scanCells sheet row visit (List.range' start (sheet.rowWidth row - start)) seen

/-- The named cells of a header row counted from the first cell in both directions. There is nothing
before it: a row there has no cells, and a blank cell there ends the header. -/
def namedCells (sheet : Sheet) (row start : Int) (seen : List String) :
    Except Fault (List (Nat × String)) :=
  match row, start with
  | .ofNat row, .ofNat start =>
    (scanHeader sheet row start seen fun index name => .ok (index, name)).result
  | _, _ => .ok []

/-! ## Columns of Convert tables -/

/-- What is known of other tables: which of them exist, and the members of their enumerations. -/
structure Resolver where
  tableExists : String → Bool
  members? : String → Option (List String)

/-- Whether the type of a column exists. -/
def Column.typeExists (c : Column) (resolver : Resolver) : Bool :=
  match c.kind with
  | .primitive | .variable => true
  | .tableReference => resolver.tableExists c.type
  | .enumeration => (resolver.members? c.type).isSome
  | .invalid => false

/-- Reads the column of a named header cell. -/
def visitColumn (sheet : Sheet) (resolver : Resolver) (index : Nat) (_name : String) :
    Except Fault Column :=
  let column := Column.ofHeader index (sheet.cell 0 index) (sheet.cell 1 index)
  if !isIdentifier column.name then
    .error (.schema (.notIdentifier columnName column.name))
  else if !column.typeExists resolver then
    .error (.schema (.columnType column.type column.name))
  else .ok column

/-- The first header cells name the ID column and its type. -/
def hasIdColumn (sheet : Sheet) : Bool :=
  decide (sheet.cell 0 0 = idName) && decide (sheet.cell 1 0 = idType)

/-- Reads the columns behind the ID column, in sheet order. -/
def scanColumns (sheet : Sheet) (resolver : Resolver) : Scan Column :=
  if hasIdColumn sheet then
    scanHeader sheet 0 1 [idName] (visitColumn sheet resolver)
  else ⟨[], some (.schema .idColumn)⟩

/-- The columns of a Convert table, or the first fault of its header. -/
def readColumns (sheet : Sheet) (resolver : Resolver) : Except Fault (List Column) :=
  (scanColumns sheet resolver).result

/-- The types that reading the columns asks for, in order: those of the columns found, and that of a
column refused for its type. -/
def lookedUpTypes (scan : Scan Column) : List String :=
  let found := scan.found.map Column.type
  match scan.fault with
  | some (.schema (.columnType type _)) => found ++ [type]
  | _ => found

end SheetCompiler
