import SheetCompiler.Proofs.Compile.Abort
import SheetCompiler.Proofs.Compile.Standing
import SheetCompiler.Proofs.Script.Field

/-!
# Accessors of compiled Convert tables

The script of a Convert table is loaded again, and declares a type of records with a field for each
column. What keeps it from that are columns with names that mean something else in a class: some
cannot be declared there (`AreDeclarable`), some are kept under another name or in another place
(`AreKept`), and two of them hide what a record is read with. Columns with ordinary names
(`IsFieldName`) are declared as they stand in the sheet.

Main statement: `compileSheet_accessors`.
-/

namespace SheetCompiler

open SheetCompiler.Text SheetCompiler.Script SheetCompiler.Path

/-- A type of records has the accessors of columns: its fields are theirs, in their order, and under
the name of a column every record gives what it stores under the key of the column. -/
structure RecordType.HasAccessors (type : RecordType) (columns : List Column) : Prop where
  fields : type.fields = columns.map Column.field
  reads : ∀ c ∈ columns, ∀ files record (r : Registry),
    (Registry.attributeIn files type record c.name).apply r =
      (Registry.fieldValue files c.field record).apply r

/-- Which columns the type of records that they declare has the accessors of. -/
lemma hasAccessors_iff {table script : String} {columns : List Column}
    (hnodup : (columns.map Column.name).Nodup) :
    (declaredType table script columns).HasAccessors columns ↔
      AreKept table columns ∧
        ∀ c ∈ columns, c.name ≠ Registry.rowName ∧ c.name ≠ Registry.firstResort := by
  constructor
  · rintro ⟨hfields, hreads⟩
    exact ⟨(fields_eq_iff hnodup).1 hfields, (reads_iff hnodup hfields).1 hreads⟩
  · rintro ⟨hkept, hnames⟩
    have hfields : (declaredType table script columns).fields = columns.map Column.field :=
      (fields_eq_iff hnodup).2 hkept
    exact ⟨hfields, (reads_iff hnodup hfields).2 hnames⟩

section

variable {s : Settings} {p q : Project} {files : FileTree} {scripts table source : String}
  {sheet : Sheet} {a : Compilation} (htemplates : s.templates = none)
  (hscripts : s.scripts = .text scripts)
  (hcompile : (Action.compileSheet s .convert table source sheet).apply p = (.ok a, q))
  (hstands : files.read (Settings.scriptPath scripts .convert table) =
    q.files.read (Settings.scriptPath scripts .convert table))
include htemplates hscripts hcompile hstands

/-- What the script of a compiled Convert table declares as long as it stands. -/
lemma declared?_of_convertSheet :
    table ++ ".py" ∈ Action.scriptsIn files (join scripts TableKind.convert.name) ∧ ∃ columns,
      readColumns sheet (.ofFiles s p.files (some table)) = .ok columns ∧
      files.declared? .convert (join scripts TableKind.convert.name) (table ++ ".py") =
        if AreDeclarable table columns then
          some (convertDeclared table (TableKind.convert.moduleOf table) columns)
        else none := by
  obtain ⟨c, hc, hmem, hdeclared⟩ := declared?_of_standing hscripts hcompile hstands
  obtain ⟨hident, columns, hcolumns, htext⟩ := convertScript_of_compiledIn htemplates hc
  have hwritten := isWritten_of_readColumns hcolumns
  refine ⟨hmem, columns, hcolumns, ?_⟩
  rw [hdeclared, htext]
  split_ifs with hall
  · rw [run_convertScript hident hwritten _ hall]
  · obtain ⟨declared, fault, hrun⟩ := run_convertScript_of_not_declarable hident hwritten
      (TableKind.convert.moduleOf table) hall
    rw [hrun]

end

/-! ## Loading -/

/-- No script in a directory of scripts declares a table, but perhaps the one of its name. -/
def OthersLeave (t : FileTree) (scripts table : String) : Prop :=
  ∀ kind file d, Action.Declares t scripts kind file d → (kind = .convert → file ≠ table ++ ".py") →
    table ∉ Pairs.names d.tables

/-- Where there is one script, the others leave its table. -/
lemma othersLeave_onlyScript (text : String) :
    OthersLeave (Action.onlyScript .convert text) "Dist" "Item" := by
  rintro kind file d ⟨hfile, -⟩ hother
  rw [Action.scriptsIn_onlyScript] at hfile
  split_ifs at hfile with hkind
  · exact absurd (List.mem_singleton.1 hfile) (hother hkind)
  · cases hfile

/-- A table that the others leave is loaded as its script declares it. -/
lemma get?_tables_of_othersLeave {p q : Project} {scripts table : String} {type : RecordType}
    {modules : List String} {d : Script.Declared}
    (hload : (Action.loadScripts scripts).apply p = (.ok modules, q))
    (hd : Action.Declares p.files scripts .convert (table ++ ".py") d)
    (htables : d.tables = [(table, type)]) (hothers : OthersLeave p.files scripts table) :
    q.registry.tables.get? table = some ⟨type, none⟩ := by
  refine Action.get?_tables_of_loadScripts hload ⟨_, _, d, hd, htables ▸ List.mem_cons_self⟩ ?_
  intro kind file d' hd' type' hmem
  by_cases hown : kind = .convert ∧ file = table ++ ".py"
  · obtain ⟨rfl, rfl⟩ := hown
    obtain rfl := Option.some.inj (hd.2.symm.trans hd'.2)
    rw [htables, List.mem_singleton] at hmem
    exact (Prod.mk.inj hmem).2
  · exact absurd (List.mem_map_of_mem (f := Prod.fst) hmem)
      (hothers kind file d' hd' fun hkind hname => hown ⟨hkind, hname⟩)

/-- The accessors of a Convert table that is compiled with the shipped templates. As long as its
script stands among scripts that run to their ends, they can be loaded exactly if its columns can be
declared. The script then declares one table, of its name, and the type of its records has the
accessors of the columns exactly if they are kept and none hides what a record is read with. All of
this holds of columns with ordinary names. -/
theorem compileSheet_accessors {s : Settings} {p q later : Project}
    {scripts table source : String} {sheet : Sheet} {a : Compilation}
    (htemplates : s.templates = none) (hscripts : s.scripts = .text scripts)
    (hcompile : (Action.compileSheet s .convert table source sheet).apply p = (.ok a, q))
    (hstands : later.files.read (Settings.scriptPath scripts .convert table) =
      q.files.read (Settings.scriptPath scripts .convert table))
    (hothers : Action.OthersLoad later.files scripts .convert table) :
    ∃ columns, readColumns sheet (.ofFiles s p.files (some table)) = .ok columns ∧
      ((∃ modules final, (Action.loadScripts scripts).apply later = (.ok modules, final)) ↔
        AreDeclarable table columns) ∧
      (∀ modules final, (Action.loadScripts scripts).apply later = (.ok modules, final) →
        ∃ d type, later.files.declared? .convert (join scripts TableKind.convert.name)
            (table ++ ".py") = some d ∧
          d.tables = [(table, type)] ∧
          (OthersLeave later.files scripts table →
            final.registry.tables.get? table = some ⟨type, none⟩) ∧
          (type.HasAccessors columns ↔ AreKept table columns ∧
            ∀ c ∈ columns, c.name ≠ Registry.rowName ∧ c.name ≠ Registry.firstResort)) ∧
      ((∀ c ∈ columns, IsFieldName c.name) → AreDeclarable table columns ∧
        AreKept table columns ∧
        ∀ c ∈ columns, c.name ≠ Registry.rowName ∧ c.name ≠ Registry.firstResort) := by
  obtain ⟨hmem, columns, hcolumns, hdeclared⟩ :=
    declared?_of_convertSheet htemplates hscripts hcompile hstands
  obtain ⟨-, hnodup, -⟩ := isRead_of_readColumns hcolumns
  have hloads : (∃ modules final,
      (Action.loadScripts scripts).apply later = (.ok modules, final)) ↔
        AreDeclarable table columns := by
    rw [Action.loadScripts_returns_iff_of_others hmem hothers, hdeclared]
    split_ifs with hall
    · simp [hall]
    · simp [hall]
  refine ⟨columns, hcolumns, hloads, fun modules final hload => ?_, areDeclarable_of_isFieldName⟩
  rw [if_pos (hloads.1 ⟨modules, final, hload⟩)] at hdeclared
  exact ⟨_, _, hdeclared, rfl, get?_tables_of_othersLeave hload ⟨hmem, hdeclared⟩ rfl,
    hasAccessors_iff hnodup⟩

/-- The table whose rows refer to one another has its accessors. -/
theorem itemSheet_accessors : ∃ a q text,
    (Action.compileSheet Project.empty.settings .convert "Item" "Item.xlsx" itemSheet).apply
      .empty = (.ok a, q) ∧
    (Action.onlyScript .convert text).read (Settings.scriptPath "Dist" .convert "Item") =
      q.files.read (Settings.scriptPath "Dist" .convert "Item") ∧
    ∃ modules final type, (Action.loadScripts "Dist").apply
        { Project.empty with files := Action.onlyScript .convert text } = (.ok modules, final) ∧
      final.registry.tables.get? "Item" = some ⟨type, none⟩ ∧
      type.HasAccessors [⟨1, "Next", "TbItem", false⟩, ⟨2, "Parts", "int", true⟩] := by
  have hitems : readColumns itemSheet
      (.ofFiles Project.empty.settings Project.empty.files (some "Item")) =
        .ok [⟨1, "Next", "TbItem", false⟩, ⟨2, "Parts", "int", true⟩] := rfl
  obtain ⟨a, q, text, hcompile, hstands⟩ :=
    exists_standing (compiledIn_convert (s := Project.empty.settings) rfl rfl (by decide) hitems rfl)
  let later : Project := { Project.empty with files := Action.onlyScript .convert text }
  have hstands' : later.files.read (Settings.scriptPath "Dist" .convert "Item") =
      q.files.read (Settings.scriptPath "Dist" .convert "Item") := hstands
  obtain ⟨columns, hcolumns, hloads, hall, hordinary⟩ := compileSheet_accessors rfl rfl hcompile
    hstands' (Action.othersLoad_onlyScript .convert text)
  rw [hitems, Except.ok.injEq] at hcolumns
  subst hcolumns
  obtain ⟨hdeclarable, haccessors⟩ := hordinary fun c hc => by
    rcases List.mem_pair.1 hc with rfl | rfl
    · exact ⟨by decide, by decide, by decide⟩
    · exact ⟨by decide, by decide, by decide⟩
  obtain ⟨modules, final, hload⟩ := hloads.2 hdeclarable
  obtain ⟨d, type, -, -, hthere, hiff⟩ := hall modules final hload
  exact ⟨a, q, text, hcompile, hstands, modules, final, type, hload,
    hthere (othersLeave_onlyScript text), hiff.2 haccessors⟩

/-- A table with a column that hides what the next one is declared with. -/
def fieldTable : Sheet := ⟨[["ID", "Field", "Count"], ["string", "int", "int"], ["1", "2", "3"]]⟩

/-- The table is accepted, and its script cannot be loaded. -/
theorem fieldTable_fails : ∃ a q text,
    (Action.compileSheet Project.empty.settings .convert "Item" "Item.xlsx" fieldTable).apply
      .empty = (.ok a, q) ∧
    (Action.onlyScript .convert text).read (Settings.scriptPath "Dist" .convert "Item") =
      q.files.read (Settings.scriptPath "Dist" .convert "Item") ∧
    Action.OthersLoad (Action.onlyScript .convert text) "Dist" .convert "Item" ∧
    ¬∃ modules final, (Action.loadScripts "Dist").apply
      { Project.empty with files := Action.onlyScript .convert text } = (.ok modules, final) := by
  have hfields : readColumns fieldTable
      (.ofFiles Project.empty.settings Project.empty.files (some "Item")) =
        .ok [⟨1, "Field", "int", false⟩, ⟨2, "Count", "int", false⟩] := rfl
  obtain ⟨a, q, text, hcompile, hstands⟩ :=
    exists_standing (compiledIn_convert (s := Project.empty.settings) rfl rfl (by decide) hfields rfl)
  have hothers := Action.othersLoad_onlyScript .convert text
  refine ⟨a, q, text, hcompile, hstands, hothers, ?_⟩
  obtain ⟨hmem, columns, hcolumns, hdeclared⟩ := declared?_of_convertSheet rfl rfl hcompile hstands
  rw [hfields, Except.ok.injEq] at hcolumns
  subst hcolumns
  have hnot : ¬AreDeclarable "Item" [⟨1, "Field", "int", false⟩, ⟨2, "Count", "int", false⟩] := by
    decide +kernel
  have hloads := Action.loadScripts_returns_iff_of_others
    (p := { Project.empty with files := Action.onlyScript .convert text }) hmem hothers
  rw [hloads, hdeclared, if_neg hnot]
  exact Bool.false_ne_true

end SheetCompiler
