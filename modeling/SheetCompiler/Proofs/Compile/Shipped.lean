import SheetCompiler.Proofs.Compile.Files
import SheetCompiler.Proofs.Template.Fill

/-!
# What tables compile to with the shipped templates

With settings that give no templates of their own and have a place for scripts, a table whose sheet
can be read compiles, and its script is the lines that the shipped templates give.

Main statements:

* `compiledIn_convert`, `compiledIn_enum`, `compiledIn_variable`: what a table of each kind compiles
  to.
-/

namespace SheetCompiler

open SheetCompiler.Stateful

/-! ## Looking types up -/

lemma lookUpIn_eq_ok {s : Settings} {directory : String} (hs : s.scripts = .text directory)
    (table type : String) (files : FileTree) : lookUpIn s table type files = .ok () := by
  have hplace (kind name : String) : ∃ place, s.scriptPath? kind name = some place :=
    ⟨_, by rw [Settings.scriptPath?, hs]; rfl⟩
  unfold lookUpIn
  split
  · unfold referenceExists
    dsimp only
    split
    · rfl
    · split
      · rfl
      · obtain ⟨place, hp⟩ := hplace TableKind.convert.name (TypeToken.referencedTable type)
        rw [hp]
        rfl
  · unfold enumScript
    dsimp only
    split
    · rfl
    · obtain ⟨place, hp⟩ := hplace TableKind.enum.name
        (TypeToken.unmarked (TypeToken.splitContainer type).1)
      rw [hp]
      rfl
  · rfl

lemma lookedUpIn_eq_ok {s : Settings} {directory : String} (hs : s.scripts = .text directory)
    (kind : TableKind) (table : String) (sheet : Sheet) (files : FileTree) :
    lookedUpIn s kind table sheet files = .ok () := by
  have hall (types : List String) : lookUpAllIn s table types files = .ok () := by
    induction types with
    | nil => rfl
    | cons type types ih => rw [lookUpAllIn, lookUpIn_eq_ok hs]; exact ih
  unfold lookedUpIn
  dsimp only
  split
  · exact hall _
  · rfl

/-! ## Tables -/

section

variable {s : Settings} {directory table : String} {sheet : Sheet} {files : FileTree}
  (hs : s.scripts = .text directory) (ht : s.templates = none)
  (hident : Text.isIdentifier table = true)
include hs ht hident

/-- A Convert table whose columns and rows can be read compiles with the shipped templates. -/
lemma compiledIn_convert {columns : List Column} {rows : List Row}
    (hcolumns : readColumns sheet (.ofFiles s files (some table)) = .ok columns)
    (hrows : readRows sheet columns (.ofFiles s files (some table)) = .ok rows) :
    compiledIn s .convert table sheet files =
      .ok ⟨Template.lines (Template.convertScriptTexts table columns), some rows,
        .convertParsed table columns.length rows.length⟩ := by
  rw [compiledIn, if_pos hident, lookedUpIn_eq_ok hs, Template.ofSettings, ht]
  simp only [bind, Except.bind, compile, compileConvert, hcolumns, hrows, Except.mapError,
    Template.renderConvert_eq, pure, Except.pure]

/-- An Enum table whose enumerations can be read compiles with the shipped templates. -/
lemma compiledIn_enum {enums : List EnumDeclaration} (henums : readEnums sheet = .ok enums) :
    compiledIn s .enum table sheet files =
      .ok ⟨Template.lines (Template.enumScriptTexts table enums), none,
        .enumParsed table enums.length⟩ := by
  rw [compiledIn, if_pos hident, lookedUpIn_eq_ok hs, Template.ofSettings, ht]
  simp only [bind, Except.bind, compile, compileEnum, henums, Except.mapError,
    Template.renderEnum_eq, pure, Except.pure]

/-- A Variable table whose constants can be read compiles with the shipped templates. -/
lemma compiledIn_variable {constants : List VariableDeclaration}
    (hconstants : readVariables sheet = .ok constants) :
    compiledIn s .variable table sheet files =
      .ok ⟨Template.lines (Template.variableScriptTexts table constants), none,
        .variableParsed table constants.length⟩ := by
  rw [compiledIn, if_pos hident, lookedUpIn_eq_ok hs, Template.ofSettings, ht]
  simp only [bind, Except.bind, compile, compileVariable, hconstants, Except.mapError,
    Template.renderVariable_eq, pure, Except.pure]

end

end SheetCompiler
