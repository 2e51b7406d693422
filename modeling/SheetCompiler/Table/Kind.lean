import SheetCompiler.Schema.Header
import SheetCompiler.Path

/-!
# Kinds of tables

The three kinds of tables, and which files hold tables of which name.
-/

namespace SheetCompiler

open SheetCompiler.Text

/-- A kind of table. -/
inductive TableKind
  | convert
  | enum
  | variable
deriving DecidableEq

namespace TableKind

/-- The name of a kind, which is also the name of its directory of scripts. -/
def name : TableKind → String
  | .convert => "Convert"
  | .enum => "Enum"
  | .variable => "Variable"

/-- The name of a kind in lower case. -/
def word : TableKind → String
  | .convert => "convert"
  | .enum => "enum"
  | .variable => "variable"

/-- The name of the module that the script of a table is. -/
def moduleOf (kind : TableKind) (table : String) : String :=
  "excel_database_generated." ++ kind.word ++ "." ++ table

/-- Every kind of table. -/
def all : List TableKind := [.convert, .enum, .variable]

/-- The kind of a label, in letters of any case. -/
def ofLabel? (label : String) : Option TableKind := all.find? fun k => isCaselessly k.word label

end TableKind

/-- The extension of workbooks that hold tables. -/
def workbookExtension : String := ".xlsx"

/-- The mark of files that a spreadsheet program keeps beside an open workbook. -/
def lockMark : String := "~$"

/-- The name of the table in a file: the file's name without its extension, blanks and array
marks. -/
def tableNameOf (path : String) : String := normalize (Path.splitExtension (Path.base path)).1

/-- Whether a file holds a table: a workbook that is neither left out nor a lock file. -/
def isTableFile (path : String) : Bool :=
  let name := Path.base path
  decide ((Path.splitExtension name).2 = workbookExtension) && !isExcluded name
    && !startsWith lockMark name

end SheetCompiler
