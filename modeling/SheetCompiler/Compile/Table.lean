import SheetCompiler.Event
import SheetCompiler.Failure
import SheetCompiler.Settings.Basic
import SheetCompiler.Table.Convert
import SheetCompiler.Template.Render
import SheetCompiler.Template.Shipped
import SheetCompiler.Text.Lines

/-!
# Compiling a table

A table becomes a script, and a Convert table also the rows of a data file. The table is read before
the templates are, so a fault of the table counts before one of the templates.
-/

namespace SheetCompiler

/-! ## Templates -/

namespace Template

/-- Reads templates of a kind from a directory, one after the other. -/
def readEach (files : FileTree) (directory kind : String) :
    List String → Except FileError (List (String × String))
  | [] => .ok []
  | name :: rest => do
    let text ← files.readText (Path.join (Path.join directory kind) (name ++ ".txt"))
    return (name, Text.withLineFeeds text) :: (← readEach files directory kind rest)

/-- The templates of a kind in a directory by name, in the order in which the names come first. -/
def readNamed (files : FileTree) (directory kind : String) (names : List String) :
    Except FileError (Pairs String) :=
  (readEach files directory kind names).map Pairs.ofList

/-- The templates for a kind of table: those of the settings' directory, or the shipped ones. -/
def ofSettings (s : Settings) (files : FileTree) (kind : TableKind) :
    Except Failure (Pairs String) :=
  match s.templates with
  | none => .ok (shipped kind)
  | some (.text directory) =>
    (readNamed files directory kind.name (Pairs.names (shipped kind))).mapError .file
  | some _ => .error .shape

end Template

/-! ## Tables -/

/-- What a table compiles to: its script, the rows of its data file if it has one, and the event
that reports it. -/
structure Compiled where
  script : String
  rows : Option (List Row)
  event : Event

/-- Compiles a Convert table. -/
def compileConvert (table : String) (sheet : Sheet) (resolver : Resolver)
    (templates : Except Failure (Pairs String)) : Except Failure Compiled := do
  let columns ← (readColumns sheet resolver).mapError (.table table)
  let rows ← (readRows sheet columns resolver).mapError (.table table)
  let script ← (Template.renderConvert (← templates) table columns).mapError .template
  return ⟨script, some rows, .convertParsed table columns.length rows.length⟩

/-- Compiles an Enum table. -/
def compileEnum (table : String) (sheet : Sheet)
    (templates : Except Failure (Pairs String)) : Except Failure Compiled := do
  let enums ← (readEnums sheet).mapError (.table table)
  let script ← (Template.renderEnum (← templates) table enums).mapError .template
  return ⟨script, none, .enumParsed table enums.length⟩

/-- Compiles a Variable table. -/
def compileVariable (table : String) (sheet : Sheet)
    (templates : Except Failure (Pairs String)) : Except Failure Compiled := do
  let constants ← (readVariables sheet).mapError (.table table)
  let script ← (Template.renderVariable (← templates) table constants).mapError .template
  return ⟨script, none, .variableParsed table constants.length⟩

/-- Compiles a table of a kind. -/
def compile (kind : TableKind) (table : String) (sheet : Sheet) (resolver : Resolver)
    (templates : Except Failure (Pairs String)) : Except Failure Compiled :=
  match kind with
  | .convert => compileConvert table sheet resolver templates
  | .enum => compileEnum table sheet templates
  | .variable => compileVariable table sheet templates

end SheetCompiler
