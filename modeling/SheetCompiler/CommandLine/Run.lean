import SheetCompiler.CommandLine.Command
import SheetCompiler.Compile.Batch
import SheetCompiler.Records
import SheetCompiler.Settings.Load

/-!
# Running commands

A command works on the project that its configuration file describes: it loads the manifest, does
its work, and reports what it prints, what it logs, and how it ends. An empty ID selects no record,
so `show` then prints all of them.
-/

namespace SheetCompiler.CommandLine

open SheetCompiler.Text

/-- What a command prints, line by line, and how it ends: a code, or a failure. -/
structure Outcome where
  printed : List String
  ending : Except Failure Nat

/-- The outcome of an action that prints nothing and ends well if it does not fail. -/
def quietly (a : Action Unit) : Action Outcome := do
  match ← Action.attempt a with
  | .ok () => return ⟨[], .ok 0⟩
  | .error e => return ⟨[], .error e⟩

/-- The compilations of tables; every table by default. A table that is not there is reported. -/
def select (tables : List String) : Action (List Compilation) := do
  let m := (← get).manifest
  if tables.isEmpty then Action.ofExcept m.listing
  else
    (tables.filter fun name => (m.get? (.text name)).isNone).forM fun name =>
      Action.report (.notParsed name)
    return tables.filterMap fun name => m.get? (.text name)

/-- Whether a table is recorded as a Convert table. -/
def isConvert (m : Manifest) (table : String) : Bool :=
  (m.get? (.text table)).any fun c => c.isOf TableKind.convert.name

/-! ## Printing records -/

/-- What is printed up to a failure, if there is one. -/
structure Printing where
  lines : List String
  failure : Option Failure

/-- Prints cells with their keys, up to the first that cannot be printed. -/
def printCells : List (String × Json) → Printing
  | [] => ⟨[], none⟩
  | (key, cell) :: rest =>
    match Records.cellText? cell with
    | none => ⟨[], some .shape⟩
    | some shown =>
      let more := printCells rest
      ⟨("  " ++ key ++ ": " ++ shown.literal) :: more.lines, more.failure⟩

/-- Prints cells with keys of whatever kind, up to the first that cannot be printed. A key with a
half cannot be encoded. -/
def printNamedCells : List (MemberName × Json) → Printing
  | [] => ⟨[], none⟩
  | (key, cell) :: rest =>
    match key, Records.cellText? cell with
    | _, none => ⟨[], some .shape⟩
    | .whole key, some shown =>
      let more := printNamedCells rest
      ⟨("  " ++ key ++ ": " ++ shown.literal) :: more.lines, more.failure⟩
    | .broken key, some _ => ⟨[], some (.encoding ("  ".toList.map .char ++ key.points))⟩

/-- Prints an ID, and behind it cells. An ID with a half cannot be encoded. -/
def printBelow (id : Option Json) (cells : Printing) : Printing :=
  match id with
  | none => ⟨[], some (.key (.text idName))⟩
  | some (.broken id) => ⟨[], some (.encoding id.points)⟩
  | some id => ⟨id.display :: cells.lines, cells.failure⟩

/-- Prints a record: its ID, and every cell but the first with its key. -/
def printRecord : Json → Printing
  | .object record => printBelow (Pairs.get? record idName) (printCells (record.drop 1))
  | .brokenObject members =>
    printBelow (Pairs.get? (Json.wholeMembers members) idName) (printNamedCells (members.drop 1))
  | _ => ⟨[], some .shape⟩

/-- Prints records up to the first that cannot be printed. -/
def printRecords : List Json → Printing
  | [] => ⟨[], none⟩
  | record :: rest =>
    match printRecord record with
    | ⟨lines, none⟩ =>
      let more := printRecords rest
      ⟨lines ++ more.lines, more.failure⟩
    | printing => printing

/-- The outcome of printing. -/
def Printing.outcome (p : Printing) : Outcome :=
  ⟨p.lines, match p.failure with
    | none => .ok 0
    | some e => .error e⟩

/-- How a search or an edit that fails ends: a refusal is reported, another failure ends the run. -/
def refuse (table : String) : Failure → Action Outcome
  | .record fault => do
    Action.report (.recordRefused table fault.message)
    return ⟨[], .ok 1⟩
  | e => return ⟨[], .error e⟩

/-- Prints the records of a Convert table, or the one with an ID. -/
def displayRecords (path table : String) (id : Option String) : Action Outcome := do
  match (Records.ofFile (← get).files path).bind Records.itemsOf with
  | .error e => return ⟨[], .error e⟩
  | .ok records =>
    match id.filter fun id => decide (id ≠ "") with
    | none => return (printRecords records).outcome
    | some id =>
      match Records.find (.text id) records with
      | .ok _ => return (printRecords (Records.found (.text id) records)).outcome
      | .error e => refuse table e

/-- The value of an argument; without one it is an empty list. -/
def argumentValue (argument : Option String) : Json := (argument.map Json.text).getD (.list [])

/-- Edits a cell of a Convert table. -/
def editRecord (path table : String) (id column given : Json) : Action Outcome := do
  match (Records.ofFile (← get).files path).bind Records.itemsOf with
  | .error e => return ⟨[], .error e⟩
  | .ok records =>
    match Records.setCell records id column given with
    | .error e => refuse table e
    | .ok (edited, _) =>
      quietly do
        Action.writeValue path (.list edited)
        Action.report (.cellUpdated column.display id.display path)

/-- Works on the data file of a Convert table; another table is reported. -/
def onDataFile (table : String) (work : String → Action Outcome) : Action Outcome := do
  let p ← get
  if isConvert p.manifest table then
    match p.settings.dataPath? table with
    | some path => work path
    | none => return ⟨[], .error .shape⟩
  else
    Action.report (.notConvert table)
    return ⟨[], .ok 1⟩

/-- Runs a command on a project. -/
def Command.run : Command → Action Outcome
  | .parse kind files => quietly do
    let _ ← Action.compileTables files kind
  | .list => do
    match (← get).manifest.listing with
    | .ok compilations => return ⟨compilations.map Compilation.display, .ok 0⟩
    | .error e => return ⟨[], .error e⟩
  | .reparse tables => quietly do
    let _ ← Action.recompile (← select tables)
  | .remove tables => quietly do Action.removeTables (← select tables)
  | .showRecords table id => onDataFile table fun path => displayRecords path table id
  | .edit table id column given => onDataFile table fun path =>
    editRecord path table (argumentValue id) (argumentValue column) (argumentValue given)

/-! ## Levels of the log -/

/-- The characters beyond the basic ones whose capitals are basic letters. -/
def capitals : List (Char × String) := [
  ('ı', "I"), ('ſ', "S"), ('ß', "SS"), ('ﬀ', "FF"), ('ﬁ', "FI"), ('ﬂ', "FL"), ('ﬃ', "FFI"),
  ('ﬄ', "FFL"), ('ﬅ', "ST"), ('ﬆ', "ST")]

/-- A text in capitals, as far as they are basic letters. -/
def capitalized (text : String) : String :=
  String.join (text.toList.map fun c => (capitals.lookup c).getD (String.singleton c.toUpper))

/-- The least rank of the events that are logged, by the name of a level. -/
def thresholds : List (String × Nat) := [
  ("DEBUG", 10), ("INFO", 20), ("WARNING", 30), ("WARN", 30), ("ERROR", 40), ("CRITICAL", 50),
  ("FATAL", 50), ("NOTSET", 0)]

/-- The name that belongs to a format of lines, and the format. -/
def formatName : String × String := ("BASIC_FORMAT", "%(levelname)s:%(name)s:%(message)s")

/-- The name that belongs to a map of formats. -/
def formatsName : String := "_STYLES"

/-- The least rank of the events that are logged, by the name of a level in letters of any case. An
unknown name counts as that of information, but two names belong to other things than levels. -/
def threshold (level : String) : Except Failure Nat :=
  let name := capitalized level
  if name = formatName.1 then .error (.level formatName.2)
  else if name = formatsName then .error .shape
  else .ok ((thresholds.lookup name).getD Level.info.rank)

/-! ## The program -/

/-- What a run of the program leaves behind: what it printed and logged, and how it ended. Without a
code it failed. -/
structure Report where
  code : Option Nat
  printed : List String
  logged : List String
  usage : Option UsageError
  failure : Option Failure

/-- The report of a command line that names no command. -/
def Report.ofStop : Stop → Report
  | .usage error => ⟨some 2, [], [], some error, none⟩
  | .help => ⟨some 0, [], [], none, none⟩

/-- The report of a failure. -/
def Report.ofFailure (e : Failure) : Report := ⟨none, [], [], none, some e⟩

/-- The lines of the log that are not filtered out. -/
def logLines (least : Nat) (events : List Event) : List String :=
  (events.filter fun e => decide (least ≤ e.level.rank)).map Event.line

/-- Loads the manifest and runs a command. -/
def Command.start (command : Command) : Action Outcome := do
  match ← Action.attempt Action.loadManifest with
  | .ok () => command.run
  | .error e => return ⟨[], .error e⟩

/-- The level of the log: the one given, or the one of the configuration. -/
def Invocation.level (i : Invocation) (config : Config) : String :=
  match i.logLevel with
  | some "" | none => (config.value "log_level").display
  | some level => level

/-- A reader of configuration files: what the file at a path says, over what holds by default. -/
abbrev ConfigReader := FileTree → String → Except Failure Config

/-- What a command line is run with: the least rank of the events that are logged, and the
settings. -/
def Invocation.prepare (i : Invocation) (read : ConfigReader) (files : FileTree) :
    Except Failure (Nat × Settings) := do
  let config ← read files (i.config.getD "")
  let least ← threshold (i.level config)
  return (least, ← config.settings)

/-- Runs an understood command line on the files of a project. -/
def Invocation.run (i : Invocation) (read : ConfigReader) (p : Project) : Report × Project :=
  match i.prepare read p.files with
  | .error e => (.ofFailure e, p)
  | .ok (least, settings) =>
    let start : Project :=
      { p with settings, loaded := settings, manifest := .empty, events := [] }
    let (outcome, done) := i.command.start.apply start
    let outcome : Outcome := match outcome with
      | .ok outcome => outcome
      | .error e => ⟨[], .error e⟩
    let report : Report := {
      code := outcome.ending.toOption
      printed := outcome.printed
      logged := logLines least done.events
      usage := none
      failure := match outcome.ending with
        | .ok _ => none
        | .error e => some e }
    (report, { p with files := done.files, registry := done.registry })

/-- Runs a command line on the files of a project, whose own settings and manifest stay. What its
configuration file says is for a reader to tell. -/
def run (read : ConfigReader) (args : List String) (p : Project) : Report × Project :=
  match Invocation.parse args with
  | .error stop => (.ofStop stop, p)
  | .ok i => i.run read p

end SheetCompiler.CommandLine
