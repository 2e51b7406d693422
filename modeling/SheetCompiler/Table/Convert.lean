import SheetCompiler.Json.Basic
import SheetCompiler.Table.Cell

/-!
# Convert tables

The data rows of a Convert table, from the third row of its sheet to the first with an empty ID.
Each becomes a record: the ID, and the cells that are not left out under the keys of their columns.
-/

namespace SheetCompiler

open SheetCompiler.Text

/-- A data row: its ID, and the values of its record in order. -/
structure Row where
  id : String
  cells : Pairs Json

/-- The row of an ID and further values; a value under the name of the ID takes its place. -/
def Row.ofCells (id : String) (cells : List (String × Json)) : Row :=
  ⟨id, Pairs.putAll [(idName, .text id)] cells⟩

/-- The record of a row. -/
def Row.toJson (row : Row) : Json := .object row.cells

/-- The first data row of a sheet. -/
def firstDataRow : Nat := 2

/-- What a record holds of a cell: its text, or in an array column its elements. -/
def storedCell (column : Column) (cell : String) (values : List String) : Json :=
  if column.isArray then Json.ofTexts values else .text cell

/-- Adds the cells of a row to its record, column by column. -/
def readCells (sheet : Sheet) (resolver : Resolver) (r : Nat) (id : String) :
    List Column → Pairs Json → Except Fault (Pairs Json)
  | [], cells => .ok cells
  | column :: rest, cells =>
    let cell := sheet.cell r column.index
    if isExcluded cell then readCells sheet resolver r id rest cells
    else do
      let values ←
        checkCell resolver id column.name column.type column.kind column.isArray cell
      readCells sheet resolver r id rest (cells.put column.key (storedCell column cell values))

/-- Reads the given rows up to the first with an empty ID. -/
def readRowsAt (sheet : Sheet) (columns : List Column) (resolver : Resolver) :
    List Nat → List String → Except Fault (List Row)
  | [], _ => .ok []
  | r :: rest, seen =>
    let id := sheet.cell r 0
    if id = "" then .ok []
    else if isExcluded id then readRowsAt sheet columns resolver rest seen
    else if seen.contains id then .error (.row (.duplicateId id))
    else do
      let cells ← readCells sheet resolver r id columns [(idName, .text id)]
      let rows ← readRowsAt sheet columns resolver rest (id :: seen)
      return ⟨id, cells⟩ :: rows

/-- Reads the rows from a row on. -/
def readRowsFrom (sheet : Sheet) (columns : List Column) (resolver : Resolver) (start : Nat) :
    Except Fault (List Row) :=
  readRowsAt sheet columns resolver (List.range' start (sheet.rowCount - start)) []

/-- Reads the rows from a row on that is counted from the first one in both directions. There is no
ID before the first row, and an empty ID ends the data. -/
def readRowsFromAny (sheet : Sheet) (columns : List Column) (resolver : Resolver) :
    Int → Except Fault (List Row)
  | .ofNat start => readRowsFrom sheet columns resolver start
  | .negSucc _ => .ok []

/-- The data rows of a sheet. -/
def readRows (sheet : Sheet) (columns : List Column) (resolver : Resolver) :
    Except Fault (List Row) :=
  readRowsFrom sheet columns resolver firstDataRow

end SheetCompiler
