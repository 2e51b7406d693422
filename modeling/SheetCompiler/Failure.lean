import SheetCompiler.FileTree.Basic
import SheetCompiler.Json.Literal
import SheetCompiler.Json.Reader
import SheetCompiler.Schema.Fault
import SheetCompiler.Script.Run
import SheetCompiler.Template.Basic
import SheetCompiler.Text.Hex
import SheetCompiler.Workbook.DateText

/-!
# Failures

Why an operation gives no result, as causes; `message` gives each its wording.
-/

namespace SheetCompiler

open SheetCompiler.Text

/-- The wording of a cause with a number, and the paths. -/
def FileError.numbered (e : FileError) (number : Nat) (cause : String) : String :=
  "[Errno " ++ toString number ++ "] " ++ cause ++ ": " ++ quoted e.path
    ++ (match e.target with
      | some target => " -> " ++ quoted target
      | none => "")

/-- The wording of a failed operation on a path. A path that is none is not shown. -/
def FileError.message (e : FileError) : String :=
  match e.cause with
  | .missing => e.numbered 2 "No such file or directory"
  | .busy => e.numbered 16 "Device or resource busy"
  | .exists => e.numbered 17 "File exists"
  | .notDirectory => e.numbered 20 "Not a directory"
  | .isDirectory => e.numbered 21 "Is a directory"
  | .nameTooLong => e.numbered 36 "File name too long"
  | .nullCharacter => "embedded null byte"
  | .tooDeep => "maximum recursion depth exceeded"

/-- Why a file that is there is no workbook: its content, its extension, or what the reader of
workbooks makes of its container. -/
inductive WorkbookFault
  | content
  | format (extension : String)
  | container (fault : ContainerFault)
deriving DecidableEq

/-- The extensions of workbooks. -/
def workbookFormats : List String := [".xlsx", ".xlsm", ".xltx", ".xltm"]

/-- The wording of a file that is no workbook. -/
def WorkbookFault.message : WorkbookFault → String
  | .content => "File is not a zip file"
  | .format extension =>
    if extension = ".xls" then
      "openpyxl does not support the old .xls file format, please use xlrd to read this file, "
        ++ "or convert it to the more recent .xlsx file format."
    else if extension = ".xlsb" then
      "openpyxl does not support binary format .xlsb, please convert this file to .xlsx format "
        ++ "if you want to open it with openpyxl"
    else
      "openpyxl does not support " ++ extension ++ " file format, please check you can open it "
        ++ "with Excel first. Supported formats are: " ++ join "," workbookFormats
  | .container (.damaged cause) | .container (.breakdown _ cause) => cause

/-- Why a record is not edited. -/
inductive RecordFault
  | noRecord (id : String)
  | idColumn
  | noColumn (id column : String)
deriving DecidableEq

/-- The wording of a refused edit. -/
def RecordFault.message : RecordFault → String
  | .noRecord id => "No record with ID " ++ inQuotes id
  | .idColumn => "The ID column cannot be edited"
  | .noColumn id column => "Record " ++ inQuotes id ++ " has no column " ++ inQuotes column

/-- Why a number does not fit where another kind of number is wanted: an integer, a real number, or
the number of an open file. -/
inductive RangeFault
  | infiniteInteger
  | noInteger
  | greatReal
  | greatDescriptor
  | smallDescriptor
deriving DecidableEq

/-- The wording of a number that does not fit. -/
def RangeFault.message : RangeFault → String
  | .infiniteInteger => "cannot convert float infinity to integer"
  | .noInteger => "cannot convert float NaN to integer"
  | .greatReal => "int too large to convert to float"
  | .greatDescriptor => "fd is greater than maximum"
  | .smallDescriptor => "fd is less than minimum"

/-- The wording of a character that a file may not hold, and how many stand in front of it. -/
def characterMessage (c : Char) (position : Nat) (path : String) : String :=
  "unacceptable character #x" ++ String.ofList (writeHex 4 c.toNat)
    ++ ": special characters are not allowed\n  in \"" ++ path ++ "\", position "
    ++ toString position

/-- Why an operation gives no result. A key is missing from a map, an attribute from an object, a
value has the wrong shape for what is done with it, a text stands where entries are wanted, code
points cannot be encoded, or there is no such level of a log. -/
inductive Failure
  | table (name : String) (fault : Fault)
  | unknownKind (label : String)
  | template (fault : TemplateFault)
  | record (fault : RecordFault)
  | file (error : FileError)
  | workbook (fault : WorkbookFault)
  | unstorable (text : String)
  | json (fault : Json.ReadFault)
  | numeral (fault : Number.NumeralFault)
  | range (fault : RangeFault)
  | calendar (fault : CalendarFault)
  | character (c : Char) (position : Nat) (path : String)
  | entries
  | encoding (points : List Point)
  | level (name : String)
  | script (fault : Script.ScriptFault)
  | key (name : Json)
  | attribute
  | shape

/-- The wording of a failure; a missing key by its literal. -/
def Failure.message : Failure → String
  | .table _ fault => fault.message
  | .unknownKind label => "Unknown table kind " ++ inQuotes label
  | .template fault => fault.message
  | .record fault => fault.message
  | .file error => error.message
  | .workbook fault => fault.message
  | .unstorable text => text ++ " cannot be used in worksheets."
  | .json .malformed => "malformed text"
  | .json (.numeral fault) => numeralMessage fault
  | .numeral fault => numeralMessage fault
  | .range fault => fault.message
  | .calendar fault => fault.message
  | .character c position path => characterMessage c position path
  | .entries => "dictionary update sequence element #0 has length 1; 2 is required"
  | .encoding points => ((halfRun? points).map HalfRun.message).getD ""
  | .level name => "Unknown level: " ++ quoted name
  | .script fault => fault.message
  | .key name => name.literal
  | .attribute => "no such attribute"
  | .shape => "wrong shape"

end SheetCompiler
