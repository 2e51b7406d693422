import SheetCompiler.Proofs.Compile.Gating
import SheetCompiler.Proofs.Registry.Load
import SheetCompiler.Proofs.Template.Fill

/-!
# Scripts of compiled tables

With the shipped templates, the script of a table of each kind is made of what is read of its sheet,
line by line. As long as it stands in its directory, it declares what such a text does.

Main statements:

* `convertScript_of_compiledIn`, `enumScript_of_compiledIn` and `variableScript_of_compiledIn`: the
  text of a script;
* `declared?_of_standing`: what is loaded of it.
-/

namespace SheetCompiler

open SheetCompiler.Path

section

variable {s : Settings} {kind : TableKind} {table : String} {sheet : Sheet} {files : FileTree}
  {c : Compiled} (htemplates : s.templates = none)
include htemplates

/-- A table has an identifier for its name, and compiles with the shipped templates. -/
lemma compile_shipped_of_compiledIn (h : compiledIn s kind table sheet files = .ok c) :
    Text.isIdentifier table = true ∧ compile kind table sheet (.ofFiles s files (some table))
      (.ok (Template.shipped kind)) = .ok c := by
  have hcompile := compile_of_compiledIn h
  rw [Template.ofSettings, htemplates] at hcompile
  exact ⟨(rows_of_compiledIn h).1, hcompile⟩

/-- The script of a Convert table that is compiled with the shipped templates. -/
lemma convertScript_of_compiledIn (h : compiledIn s .convert table sheet files = .ok c) :
    Text.isIdentifier table = true ∧ ∃ columns,
      readColumns sheet (.ofFiles s files (some table)) = .ok columns ∧
      c.script = Template.lines (Template.convertScriptTexts table columns) := by
  obtain ⟨hident, hcompile⟩ := compile_shipped_of_compiledIn htemplates h
  obtain ⟨columns, hcolumns, hrows⟩ := except_bind_eq_ok.1 hcompile
  obtain ⟨rows, -, hrender⟩ := except_bind_eq_ok.1 hrows
  obtain ⟨_, ⟨⟩, hfill⟩ := except_bind_eq_ok.1 hrender
  obtain ⟨script, hscript, hdone⟩ := except_bind_eq_ok.1 hfill
  cases hdone
  rw [mapError_eq_ok] at hcolumns hscript
  rw [Template.renderConvert_eq] at hscript
  exact ⟨hident, columns, hcolumns, (Except.ok.inj hscript).symm⟩

/-- The script of an Enum table that is compiled with the shipped templates. -/
lemma enumScript_of_compiledIn (h : compiledIn s .enum table sheet files = .ok c) :
    Text.isIdentifier table = true ∧ ∃ enums, readEnums sheet = .ok enums ∧
      c.script = Template.lines (Template.enumScriptTexts table enums) := by
  obtain ⟨hident, hcompile⟩ := compile_shipped_of_compiledIn htemplates h
  obtain ⟨enums, henums, hrender⟩ := except_bind_eq_ok.1 hcompile
  obtain ⟨_, ⟨⟩, hfill⟩ := except_bind_eq_ok.1 hrender
  obtain ⟨script, hscript, hdone⟩ := except_bind_eq_ok.1 hfill
  cases hdone
  rw [mapError_eq_ok] at henums hscript
  rw [Template.renderEnum_eq] at hscript
  exact ⟨hident, enums, henums, (Except.ok.inj hscript).symm⟩

/-- The script of a Variable table that is compiled with the shipped templates. -/
lemma variableScript_of_compiledIn (h : compiledIn s .variable table sheet files = .ok c) :
    Text.isIdentifier table = true ∧ ∃ declarations, readVariables sheet = .ok declarations ∧
      c.script = Template.lines (Template.variableScriptTexts table declarations) := by
  obtain ⟨hident, hcompile⟩ := compile_shipped_of_compiledIn htemplates h
  obtain ⟨declarations, hread, hrender⟩ := except_bind_eq_ok.1 hcompile
  obtain ⟨_, ⟨⟩, hfill⟩ := except_bind_eq_ok.1 hrender
  obtain ⟨script, hscript, hdone⟩ := except_bind_eq_ok.1 hfill
  cases hdone
  rw [mapError_eq_ok] at hread hscript
  rw [Template.renderVariable_eq] at hscript
  exact ⟨hident, declarations, hread, (Except.ok.inj hscript).symm⟩

end

/-! ## Scripts that stand -/

/-- A script that can be read is among those of its directory. -/
lemma mem_scriptsIn_of_readText {files : FileTree} {kind : TableKind} {scripts table text : String}
    (hident : Text.isIdentifier table = true)
    (hread : files.readText (Settings.scriptPath scripts kind table) = .ok text) :
    table ++ ".py" ∈ Action.scriptsIn files (join scripts kind.name) := by
  have hslash : '/' ∉ table.toList :=
    Script.notMem_of_isIdentifierChars (Script.isIdentifierChars_of_isIdentifier hident) (by decide)
  exact Action.mem_scriptsIn hslash
    (FileTree.contains_of_isFile (FileTree.isFile_of_readText hread))

section

variable {s : Settings} {p q : Project} {files : FileTree} {kind : TableKind}
  {scripts table source : String} {sheet : Sheet} {a : Compilation}
  (hscripts : s.scripts = .text scripts)
  (hcompile : (Action.compileSheet s kind table source sheet).apply p = (.ok a, q))
  (hstands : files.read (Settings.scriptPath scripts kind table) =
    q.files.read (Settings.scriptPath scripts kind table))
include hscripts hcompile hstands

/-- What is read of the script of a compiled table as long as it stands. -/
lemma readText_of_standing : ∃ c, compiledIn s kind table sheet p.files = .ok c ∧
    files.readText (Settings.scriptPath scripts kind table) = .ok c.script := by
  obtain ⟨c, hc, hscript, -⟩ := standsIn_of_compileSheet hcompile
  exact ⟨c, hc, FileTree.readText_of_read
    (hstands.trans (hscript.script _ (Settings.scriptPath?_eq hscripts kind table)))⟩

/-- What is loaded of the script of a compiled table as long as it stands. -/
theorem declared?_of_standing : ∃ c, compiledIn s kind table sheet p.files = .ok c ∧
    table ++ ".py" ∈ Action.scriptsIn files (join scripts kind.name) ∧
    files.declared? kind (join scripts kind.name) (table ++ ".py") =
      match Script.run (kind.moduleOf table) c.script with
      | (declared, none) => some declared
      | (_, some _) => none := by
  obtain ⟨c, hc, hread⟩ := readText_of_standing hscripts hcompile hstands
  obtain ⟨hident, -⟩ := rows_of_compiledIn hc
  exact ⟨c, hc, mem_scriptsIn_of_readText hident hread, FileTree.declared?_of_readText hident hread⟩

end

/-- What a sheet compiles to in a project without files stands among files with nothing but its
script. -/
lemma exists_standing {kind : TableKind} {sheet : Sheet} {c : Compiled}
    (hc : compiledIn Project.empty.settings kind "Item" sheet Project.empty.files = .ok c) :
    ∃ a q text, (Action.compileSheet Project.empty.settings kind "Item" "Item.xlsx" sheet).apply
        .empty = (.ok a, q) ∧
      (Action.onlyScript kind text).read (Settings.scriptPath "Dist" kind "Item") =
        q.files.read (Settings.scriptPath "Dist" kind "Item") := by
  have hadmits : Project.empty.files.AdmitsTable Project.empty.settings kind "Item" := by
    have hplaces : outputPlaces Project.empty.settings kind "Item" =
        if kind = .convert then ["Dist/Convert/Item.py", "Resources/Item.json"]
        else [Settings.scriptPath "Dist" kind "Item"] := by
      cases kind <;> decide
    refine ⟨by cases kind <;> rfl, fun _ => rfl, ?_, ?_⟩
    · rw [hplaces]
      cases kind <;> decide +kernel
    · rw [hplaces]
      cases kind <;> decide +kernel
  obtain ⟨a, q, hcompile⟩ := exists_compileSheet_of_compiledIn hc hadmits "Item.xlsx"
  obtain ⟨c', -, hscript, -⟩ := standsIn_of_compileSheet hcompile
  have hstands := hscript.script _ (Settings.scriptPath?_eq rfl kind "Item")
  refine ⟨a, q, c'.script, hcompile, ?_⟩
  rw [hstands]
  cases kind <;> rfl

end SheetCompiler
