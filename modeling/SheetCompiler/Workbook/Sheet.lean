import SheetCompiler.Workbook.Cell

/-!
# Sheets

The grid of cell texts that a table is read from. A cell outside the grid reads as the empty text,
so the rows may have any widths.
-/

namespace SheetCompiler

/-- A grid of cell texts. -/
structure Sheet where
  rows : List (List String)
deriving DecidableEq

namespace Sheet

/-- The cells of a row; a row outside the grid has none. -/
def row (s : Sheet) (r : Nat) : List String := s.rows[r]?.getD []

/-- The text of a cell. -/
def cell (s : Sheet) (r c : Nat) : String := (s.row r)[c]?.getD ""

/-- How many rows the grid has. -/
def rowCount (s : Sheet) : Nat := s.rows.length

/-- How many cells a row has. -/
def rowWidth (s : Sheet) (r : Nat) : Nat := (s.row r).length

/-- The cells of a row counted from the first one; there are none before it. -/
def rowAt (s : Sheet) : Int → List String
  | .ofNat r => s.row r
  | .negSucc _ => []

/-- The text of a cell counted from the first one in both directions. -/
def cellAt (s : Sheet) (r : Int) : Int → String
  | .ofNat c => (s.rowAt r)[c]?.getD ""
  | .negSucc _ => ""

/-- Whether every cell of a row is empty. -/
def isBlankRow (row : List String) : Bool := row.all fun text => decide (text = "")

/-- The grid without the empty rows at its end. -/
def trimRows (rows : List (List String)) : List (List String) :=
  (rows.reverse.dropWhile isBlankRow).reverse

/-- The sheet of the cells of a worksheet, without the empty rows that formatting leaves at its
end. -/
def ofCells (cells : List (List CellValue)) : Sheet :=
  ⟨trimRows (cells.map fun row => row.map CellValue.toText)⟩

@[simp] theorem rowAt_ofNat (s : Sheet) (r : Nat) : s.rowAt r = s.row r := rfl

@[simp] theorem cellAt_ofNat (s : Sheet) (r c : Nat) : s.cellAt r c = s.cell r c := rfl

theorem cell_of_rowCount_le {s : Sheet} {r : Nat} (h : s.rowCount ≤ r) (c : Nat) :
    s.cell r c = "" := by
  have : s.rows[r]? = none := List.getElem?_eq_none h
  simp [cell, row, this]

theorem cell_of_rowWidth_le {s : Sheet} {r c : Nat} (h : s.rowWidth r ≤ c) : s.cell r c = "" := by
  have : (s.row r)[c]? = none := List.getElem?_eq_none h
  simp [cell, this]

end Sheet

end SheetCompiler
