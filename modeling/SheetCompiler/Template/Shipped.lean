import SheetCompiler.Pairs
import SheetCompiler.Table.Kind

/-!
# Shipped templates

The templates of generated scripts where the settings name no directory of templates. A script
declares a record type and its table, a container of enumerations, or a container of constants.
-/

namespace SheetCompiler.Template

/-- The mark of a slot. -/
def mark (name : String) : String := "\x7b\x7b" ++ name ++ "\x7d\x7d"

/-- Lines of text, each with its end. -/
def lines (texts : List String) : String := String.join (texts.map (· ++ "\n"))

/-- The first line of every generated script. -/
def banner : String :=
  "# Generated by excel_database from the \"" ++ mark "table" ++ "\" table. Do not edit by hand."

/-- The line of a column: the class that declares it, and whether its cells are arrays. -/
def columnLine (declarer : String) (isArray : Bool) : String :=
  lines ["    " ++ mark "name" ++ " = " ++ declarer ++ "(\"" ++ mark "type" ++ "\""
    ++ (if isArray then ", array=True)" else ")")]

/-- The script of a Convert table. -/
def convertTable : String := lines [
  banner,
  "from excel_database.runtime import Field, Record, Reference, Table",
  "",
  "",
  "class Tb" ++ mark "table" ++ "Type(Record):",
  "    \"\"\"One row of the " ++ mark "table" ++ " table.\"\"\"",
  "",
  mark "columns",
  "",
  "Tb" ++ mark "table" ++ " = Table(\"" ++ mark "table" ++ "\", Tb" ++ mark "table" ++ "Type)"]

/-- The script of an Enum table. -/
def enumTable : String := lines [
  banner,
  "from enum import Enum",
  "",
  "from excel_database.runtime import register_enums",
  "",
  "",
  "@register_enums",
  "class Em" ++ mark "table" ++ ":",
  "    \"\"\"Enumerations declared by the " ++ mark "table" ++ " table.\"\"\"",
  mark "enums"]

/-- The lines of an enumeration. -/
def enumBlock : String :=
  lines ["", "    class " ++ mark "name" ++ "(Enum):", mark "members"]

/-- The line of a member of an enumeration. -/
def memberLine : String := lines ["        " ++ mark "name" ++ " = \"" ++ mark "name" ++ "\""]

/-- The script of a Variable table. -/
def variableTable : String := lines [
  banner,
  "",
  "",
  "class Va" ++ mark "table" ++ ":",
  "    \"\"\"Constants declared by the " ++ mark "table" ++ " table.\"\"\"",
  "",
  mark "variables"]

/-- The line of a constant. -/
def variableLine : String :=
  lines ["    " ++ mark "name" ++ ": " ++ mark "type" ++ " = " ++ mark "value"]

/-- The templates of a kind of table by name, in the order in which they are read. -/
def shipped : TableKind → Pairs String
  | .convert => [
    ("Table", convertTable), ("GeneralCol", columnLine "Field" false),
    ("GeneralArrayCol", columnLine "Field" true), ("ConvertCol", columnLine "Reference" false),
    ("ConvertArrayCol", columnLine "Reference" true)]
  | .enum => [("Table", enumTable), ("Enum", enumBlock), ("Member", memberLine)]
  | .variable => [("Table", variableTable), ("Variable", variableLine)]

end SheetCompiler.Template
