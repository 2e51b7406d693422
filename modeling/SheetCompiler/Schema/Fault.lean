import SheetCompiler.Number.Numeral
import SheetCompiler.Text.LowerCase
import SheetCompiler.Text.Quoted

/-!
# Faults of tables

Why a table is refused, as causes; `message` gives each its wording. A schema fault lies in the
headers, a row fault in the data.
-/

namespace SheetCompiler

open SheetCompiler.Number SheetCompiler.Text

/-- A fault in the headers of a table. -/
inductive SchemaFault
  | idColumn
  | leadingDigit (what name : String)
  | duplicateName (what name : String)
  | notIdentifier (what name : String)
  | columnType (type column : String)
  | variableType (type name : String)
  | variableHeader
deriving DecidableEq

/-- A fault in the data of a table. -/
inductive RowFault
  | duplicateId (id : String)
  | emptyCell (column row : String)
  | unexpectedArray (column row : String)
  | mismatch (column row : String)
  | memberName (member enumeration : String)
  | noMembers (enumeration : String)
deriving DecidableEq

/-- Why a table is refused. A numeral with too many digits, a type that is asked for as a primitive
type without being one, and a blank name are no faults of the table's own making. -/
inductive Fault
  | schema (fault : SchemaFault)
  | row (fault : RowFault)
  | numeral (fault : NumeralFault)
  | notPrimitive (type : String)
  | blankName
deriving DecidableEq

/-- A name between plain single quotes. -/
def inQuotes (name : String) : String := "'" ++ name ++ "'"

/-- The wording of a fault in the headers. -/
def SchemaFault.message : SchemaFault → String
  | .idColumn => "Invalid ID column"
  | .leadingDigit what name => what ++ " " ++ inQuotes name ++ " starts with a number"
  | .duplicateName what name => "Duplicate " ++ lower what ++ " " ++ inQuotes name
  | .notIdentifier what name => what ++ " " ++ inQuotes name ++ " is not an identifier"
  | .columnType type column =>
    "Column type " ++ inQuotes type ++ " in " ++ inQuotes column ++ " is invalid"
  | .variableType type name =>
    "Variable type " ++ inQuotes type ++ " of " ++ inQuotes name ++ " is invalid"
  | .variableHeader => "Header must be ID, Type, Value"

/-- The wording of a fault in the data. -/
def RowFault.message : RowFault → String
  | .duplicateId id => "Duplicate ID " ++ inQuotes id
  | .emptyCell column row =>
    "An empty cell exists in " ++ inQuotes column ++ " of " ++ inQuotes row
  | .unexpectedArray column row =>
    "The cell in " ++ inQuotes column ++ " of " ++ inQuotes row
      ++ " is array, but its type is not an array"
  | .mismatch column row =>
    "The cell in " ++ inQuotes column ++ " of " ++ inQuotes row ++ " type mismatch"
  | .memberName member enumeration =>
    "Member " ++ inQuotes member ++ " of " ++ inQuotes enumeration ++ " is not a valid name"
  | .noMembers enumeration => "Enum " ++ inQuotes enumeration ++ " has no members"

/-- How much of a text that is no integer is shown. -/
def shownLength : Nat := 200

/-- The wording of a text that is no number. Of one that is no integer only the beginning is
shown. -/
def numeralMessage : NumeralFault → String
  | .notInteger base text =>
    "invalid literal for int() with base " ++ toString base ++ ": "
      ++ String.ofList ((quoted text).toList.take shownLength)
  | .notReal text => "could not convert string to float: " ++ quoted text
  | .tooManyDigits count =>
    "Exceeds the limit (" ++ toString digitLimit
      ++ " digits) for integer string conversion: value has " ++ toString count
      ++ " digits; use sys.set_int_max_str_digits() to increase the limit"

/-- The wording of a fault. -/
def Fault.message : Fault → String
  | .schema fault => fault.message
  | .row fault => fault.message
  | .numeral fault => numeralMessage fault
  | .notPrimitive type => quoted type
  | .blankName => "string index out of range"

end SheetCompiler
