import SheetCompiler.Table.Kind

/-!
# Events

What a run reports while it goes on, as causes; `line` gives each event its wording, behind its
level and the component that reports it.
-/

namespace SheetCompiler

/-- How grave an event is. -/
inductive Level
  | debug
  | info
  | warning
  | error
  | critical
deriving DecidableEq

namespace Level

/-- The name of a level. -/
def name : Level → String
  | .debug => "DEBUG"
  | .info => "INFO"
  | .warning => "WARNING"
  | .error => "ERROR"
  | .critical => "CRITICAL"

/-- The rank of a level; graver ones have greater ranks. -/
def rank : Level → Nat
  | .debug => 10
  | .info => 20
  | .warning => 30
  | .error => 40
  | .critical => 50

end Level

/-- An event. -/
inductive Event
  | sheetRead (rows : Nat) (path : String)
  | rowsWritten (rows : Nat) (path : String)
  | scriptWritten (path : String)
  | convertParsed (table : String) (columns rows : Nat)
  | enumParsed (table : String) (enums : Nat)
  | variableParsed (table : String) (constants : Nat)
  | enumsUnavailable (path : String)
  | manifestLoaded (entries : Nat) (path : String)
  | fileDeleted (path : String)
  | tableRefused (table message : String)
  | kindUnknown (table : String)
  | tableUnreadable (table path message : String)
  | parsingCompleted
  | removingCompleted
  | notParsed (table : String)
  | notConvert (table : String)
  | recordRefused (table message : String)
  | cellUpdated (column id path : String)
deriving DecidableEq

namespace Event

/-- The level of an event. -/
def level : Event → Level
  | .sheetRead .. | .manifestLoaded .. => .debug
  | .enumsUnavailable .. => .warning
  | .tableRefused .. | .kindUnknown .. | .tableUnreadable .. | .notParsed .. | .notConvert ..
  | .recordRefused .. => .error
  | _ => .info

/-- The component that reports an event. -/
def component : Event → String
  | .sheetRead .. => "grid"
  | .rowsWritten .. | .scriptWritten .. => "emitter"
  | .convertParsed .. | .enumParsed .. | .variableParsed .. => "parsers"
  | .enumsUnavailable .. => "type_registry"
  | .manifestLoaded .. | .fileDeleted .. => "manifest"
  | .tableRefused .. | .kindUnknown .. | .tableUnreadable .. | .parsingCompleted
  | .removingCompleted => "dispatcher"
  | .notParsed .. | .notConvert .. | .recordRefused .. | .cellUpdated .. => "main"

/-- The wording of an event. -/
def message : Event → String
  | .sheetRead rows path => "Read " ++ toString rows ++ " rows from " ++ path
  | .rowsWritten rows path => "  Wrote " ++ toString rows ++ " rows to " ++ path
  | .scriptWritten path => "  Wrote script to " ++ path
  | .convertParsed table columns rows =>
    "Parsed Convert table " ++ inQuotes table ++ ": " ++ toString columns ++ " columns, "
      ++ toString rows ++ " rows"
  | .enumParsed table enums =>
    "Parsed Enum table " ++ inQuotes table ++ ": " ++ toString enums ++ " enums"
  | .variableParsed table constants =>
    "Parsed Variable table " ++ inQuotes table ++ ": " ++ toString constants ++ " variables"
  | .enumsUnavailable path => "Could not load enum module " ++ path ++ ": *"
  | .manifestLoaded entries path =>
    "Loaded " ++ toString entries ++ " parse results from " ++ path
  | .fileDeleted path => "  Deleted " ++ path
  | .tableRefused table message => table ++ ": " ++ message
  | .kindUnknown table => table ++ ": Please remove and parse again"
  | .tableUnreadable table path message =>
    table ++ ": Could not read " ++ path ++ ": " ++ message
  | .parsingCompleted => "Excel Database: Parsing has been completed"
  | .removingCompleted => "Excel Database: Removing has been completed"
  | .notParsed table => table ++ ": Not a parsed table"
  | .notConvert table => table ++ ": Not a parsed Convert table"
  | .recordRefused table message => table ++ ": " ++ message
  | .cellUpdated column id path =>
    "Updated " ++ inQuotes column ++ " of " ++ inQuotes id ++ " in " ++ path

/-- The line of the log for an event. -/
def line (e : Event) : String :=
  "[" ++ e.level.name ++ "] excel_database." ++ e.component ++ ": " ++ e.message

end Event

end SheetCompiler
