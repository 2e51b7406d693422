import SheetCompiler.Schema.Column
import SheetCompiler.Table.Enum
import SheetCompiler.Table.Variable
import SheetCompiler.Template.Basic

/-!
# Scripts from templates

What the tables declare, put into templates: first the lines of the columns, enumerations or
constants, then the script around them.
-/

namespace SheetCompiler.Template

/-- Fills a template of a set. -/
def fillNamed (templates : Pairs String) (name : String) (slots : Pairs String) :
    Except TemplateFault String :=
  match templates.get? name with
  | none => .error (.missing name)
  | some template => fill template slots

/-- The template for the line of a column, by whether it is a reference and an array. -/
def columnTemplate (column : Column) : String :=
  (if column.isReference then "Convert" else "General")
    ++ (if column.isArray then "ArrayCol" else "Col")

/-- The script of a Convert table. -/
def renderConvert (templates : Pairs String) (table : String) (columns : List Column) :
    Except TemplateFault String := do
  let lines ← columns.mapM fun column =>
    fillNamed templates (columnTemplate column) [("type", column.type), ("name", column.name)]
  fillNamed templates "Table" [("table", table), ("columns", String.join lines)]

/-- The lines of an enumeration. -/
def renderEnumBlock (templates : Pairs String) (declaration : EnumDeclaration) :
    Except TemplateFault String := do
  let lines ← declaration.members.mapM fun member =>
    fillNamed templates "Member" [("name", member)]
  fillNamed templates "Enum" [("name", declaration.name), ("members", String.join lines)]

/-- The script of an Enum table. -/
def renderEnum (templates : Pairs String) (table : String) (enums : List EnumDeclaration) :
    Except TemplateFault String := do
  let blocks ← enums.mapM (renderEnumBlock templates)
  fillNamed templates "Table" [("table", table), ("enums", String.join blocks)]

/-- The script of a Variable table. -/
def renderVariable (templates : Pairs String) (table : String)
    (constants : List VariableDeclaration) : Except TemplateFault String := do
  let lines ← constants.mapM fun v =>
    fillNamed templates "Variable"
      [("name", v.name), ("type", v.typeName), ("value", v.literal)]
  fillNamed templates "Table" [("table", table), ("variables", String.join lines)]

end SheetCompiler.Template
