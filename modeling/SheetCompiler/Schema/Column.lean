import SheetCompiler.Schema.TypeToken

/-!
# Columns

A column of a Convert table, as its two header cells describe it.
-/

namespace SheetCompiler

/-- A column: where it stands, its name, its type token, and whether its cells are arrays. -/
structure Column where
  index : Nat
  name : String
  type : String
  isArray : Bool
deriving DecidableEq

namespace Column

/-- The column of a name cell and a type cell. -/
def ofHeader (index : Nat) (name type : String) : Column :=
  ⟨index, normalize name, normalize type, endsInMark type⟩

/-- What the cells of a column hold. -/
def kind (c : Column) : ColumnKind := TypeToken.classify c.type

/-- Whether the cells hold the IDs of another table's rows. -/
def isReference (c : Column) : Bool := decide (c.kind = .tableReference)

/-- The mark of the names under which references are stored. -/
def referenceMark : String := "_id"

/-- The name under which the cells are stored in records. -/
def key (c : Column) : String := if c.isReference then referenceMark ++ c.name else c.name

end Column

end SheetCompiler
