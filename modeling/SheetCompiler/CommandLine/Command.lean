import SheetCompiler.CommandLine.Grammar
import SheetCompiler.Table.Kind

/-!
# Commands

The commands of the program and how command lines name them.
-/

namespace SheetCompiler.CommandLine

/-- A command with what it works on. What is edited and how is missing where a double dash stands
for it, which is taken away. -/
inductive Command
  | parse (kind : String) (files : List String)
  | list
  | reparse (tables : List String)
  | remove (tables : List String)
  | showRecords (table : String) (id : Option String)
  | edit (table : String) (id column value : Option String)
deriving DecidableEq

/-- A command, the configuration file unless a double dash stands for it, and the level of the log
if it is given. -/
structure Invocation where
  config : Option String
  logLevel : Option String
  command : Command
deriving DecidableEq

/-- The name of the program. -/
def programName : String := "excel-database"

/-- The option that asks for help. -/
def helpOption : OptionSpec := ⟨["-h", "--help"], false, []⟩

/-- The names of the commands. -/
def commandNames : List String := ["parse", "list", "reparse", "remove", "show", "edit"]

/-- The grammar in front of the command. -/
def programGrammar : Grammar where
  program := programName
  options := [helpOption, ⟨["--config", "-c"], true, []⟩, ⟨["--log-level"], true, []⟩]
  places := [⟨"command", .command, commandNames⟩]

/-- The options of a command. -/
def commandOptions (command : String) : List OptionSpec :=
  if command = "parse" then [⟨["--kind", "-k"], true, TableKind.all.map TableKind.word⟩]
  else if command = "show" then [⟨["--id"], true, []⟩]
  else []

/-- The places behind a command. -/
def commandPlaces (command : String) : List Place :=
  if command = "parse" then [⟨"files", .many, []⟩]
  else if command = "reparse" then [⟨"names", .any, []⟩]
  else if command = "remove" then [⟨"names", .many, []⟩]
  else if command = "show" then [⟨"name", .one, []⟩]
  else if command = "edit" then
    ["name", "id", "column", "value"].map fun name => ⟨name, .one, []⟩
  else []

/-- The grammar behind a command. -/
def commandGrammar (command : String) : Grammar where
  program := programName ++ " " ++ command
  options := helpOption :: commandOptions command
  places := commandPlaces command

/-- The arguments of a place. -/
def Reading.placeOf (r : Reading) (name : String) : List String := (r.places.get? name).getD []

/-- The argument of a place for one, unless it is a double dash. -/
def Reading.argument? (r : Reading) (name : String) : Option String := (r.placeOf name).head?

/-- The value of an option: the one given, if any, or another one if the option is not given. -/
def Reading.optionOr (r : Reading) (name : String) (default : Option String) : Option String :=
  match r.options.get? name with
  | some values => values.head?
  | none => default

/-- The label of the kind when a double dash stands for it. -/
def noKind : String := "[]"

/-- The command that the arguments behind its name make. -/
def commandOf (name : String) (r : Reading) : Command :=
  let table := (r.argument? "name").getD ""
  if name = "parse" then
    .parse ((r.optionOr "--kind" TableKind.convert.word).getD noKind) (r.placeOf "files")
  else if name = "reparse" then .reparse (r.placeOf "names")
  else if name = "remove" then .remove (r.placeOf "names")
  else if name = "show" then .showRecords table (r.optionOr "--id" none)
  else if name = "edit" then
    .edit table (r.argument? "id") (r.argument? "column") (r.argument? "value")
  else .list

/-- The configuration file unless another one is named. -/
def defaultConfig : String := "config.yaml"

/-- Reads a command line. Arguments that fit nowhere are refused last. -/
def Invocation.parse (args : List String) : Except Stop Invocation := do
  let outer ← programGrammar.parse args
  let (name, behind) := match outer.placeOf "command" with
    | name :: behind => (name, behind)
    | [] => ("", [])
  let inner ← (commandGrammar name).parse behind
  let extras := outer.extras ++ inner.extras
  if extras.isEmpty then
    return ⟨outer.optionOr "--config" defaultConfig, outer.optionOr "--log-level" none,
      commandOf name inner⟩
  else
    programGrammar.fail ("unrecognized arguments: " ++ Text.join " " extras)

end SheetCompiler.CommandLine
