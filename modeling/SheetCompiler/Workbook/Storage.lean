import SheetCompiler.Project

/-!
# Storing workbooks

A workbook is stored with what it keeps of its cells. A text with a character that no cell may hold
is refused, then a value that has no number to stand for it, and nothing is stored.
-/

namespace SheetCompiler

open SheetCompiler.Number

/-- Why a value cannot be written: an integer beyond all real numbers, or the time of a time
zone. -/
def CellValue.writingFault? : CellValue → Option Failure
  | .integer i =>
    match Binary64.ofInt i with
    | .infinite _ => some (.range .greatReal)
    | _ => none
  | .dateTime _ _ (some _) | .time _ (some _) => some .shape
  | _ => none

/-- Why a workbook of given cells cannot be stored. -/
def storingFault? (cells : List CellValue) : Option Failure :=
  match cells.findSome? CellValue.refusedText? with
  | some text => some (.unstorable text)
  | none => cells.findSome? CellValue.writingFault?

/-- Stores a workbook, in a directory that is made if it is missing. -/
def Action.storeWorkbook (path : String) (cells : List (List CellValue)) : Action Unit :=
  match storingFault? cells.flatten with
  | some fault => throw fault
  | none => onFiles do
    let directory := Path.parent path
    if directory ≠ "" then FileTree.makeDirectories directory
    FileTree.write path (.workbook (cells.map fun row => row.map CellValue.stored))

/-- Stores a text, in a directory that is made if it is missing. -/
def Action.storeText (path text : String) : Action Unit := onFiles do
  let directory := Path.parent path
  if directory ≠ "" then FileTree.makeDirectories directory
  FileTree.write path (.ofText text)

end SheetCompiler
