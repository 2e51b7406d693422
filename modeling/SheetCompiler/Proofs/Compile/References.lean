import SheetCompiler.Proofs.Compile.Failed
import SheetCompiler.Proofs.Compile.Standing
import SheetCompiler.Proofs.FileTree.Names
import SheetCompiler.Proofs.Registry.Reload
import SheetCompiler.Proofs.Script.Tables

/-!
# References of compiled tables

A table may refer to itself and to every name at whose place there is a Convert script. Compiling
takes nothing away, so what a script was allowed to refer to is there as long as the script is. This
is carried along as an invariant of directories: each script is that of a table, refers to nothing
else, and the table has its rows in a data file (`FileTree.IsLinked`).

Main statements:

* `isTableScript_of_compiledIn`: what a table compiles to is its script;
* `isLinked_compiling`: compiling a workbook keeps the invariant, whether or not it succeeds.
-/

namespace SheetCompiler

open SheetCompiler.Path SheetCompiler.Script SheetCompiler.Stateful
open SheetCompiler.Action (scriptExtension)

variable {s : Settings} {kind : TableKind} {scripts table name file path label text : String}
  {files t u : FileTree} {locs : Set Location} {sheet : Sheet} {c : Compiled}

/-! ## The rows of a data file -/

/-- Rows that are found in a data file by their IDs. -/
structure AreRecords (rows : List Row) : Prop where
  textual : ∀ row ∈ rows, row.toJson.IsTextual
  ids : ∀ row ∈ rows, Pairs.get? row.cells idName = some (.text row.id)
  distinct : (rows.map Row.id).Nodup

/-- A Convert table compiles to the rows of its sheet. -/
lemma areRecords_of_compiledIn (h : compiledIn s .convert table sheet files = .ok c) :
    ∃ rows, c.rows = some rows ∧ AreRecords rows := by
  obtain ⟨columns, hcolumns, hrest⟩ := except_bind_eq_ok.1 (compile_of_compiledIn h)
  obtain ⟨rows, hrows, hrender⟩ := except_bind_eq_ok.1 hrest
  obtain ⟨_, -, hfill⟩ := except_bind_eq_ok.1 hrender
  obtain ⟨script, -, hdone⟩ := except_bind_eq_ok.1 hfill
  cases hdone
  rw [mapError_eq_ok] at hcolumns hrows
  obtain ⟨hall, hn⟩ := readRowsFrom_eq_ok hrows
  refine ⟨rows, rfl, fun row hrow => ?_, fun row hrow => ?_, hn⟩
  · obtain ⟨index, hi⟩ := exists_isOf_of_mem hall hrow
    exact isTextual_toJson hi
  · obtain ⟨index, hi⟩ := exists_isOf_of_mem hall hrow
    exact hi.get?_idName (idName_not_mem_keys hcolumns)

/-- The data file of a table holds rows. -/
def HasRows (s : Settings) (files : FileTree) (table : String) : Prop :=
  ∃ path rows, s.dataPath? table = some path ∧ AreRecords rows ∧
    files.readText path = .ok (printRecords (rows.map Row.cells))

/-! ## Where scripts are -/

/-- The location of a file in the directory of the scripts of a kind. -/
def scriptLocation (scripts : String) (kind : TableKind) (file : String) : Location :=
  location (join scripts kind.name) ++ [file]

lemma ne_of_isScript (h : Text.endsWith scriptExtension file = true) :
    file ≠ "" ∧ file ≠ "." ∧ file ≠ ".." := by
  refine ⟨?_, ?_, ?_⟩ <;>
  · rintro rfl
    revert h
    decide

lemma isScript_append (table : String) :
    Text.endsWith scriptExtension (table ++ ".py") = true := by
  rw [scriptExtension, Text.endsWith, List.isSuffixOf_iff_suffix, String.toList_append]
  exact List.suffix_append _ _

lemma dataName_ne_of_isScript (h : Text.endsWith scriptExtension file = true) (table : String) :
    table ++ ".json" ≠ file := by
  rintro rfl
  rw [scriptExtension, Text.endsWith, List.isSuffixOf_iff_suffix, String.toList_append] at h
  obtain ⟨front, hfront⟩ := h
  have hlast := congrArg List.getLast? hfront
  simp [List.getLast?_append] at hlast

/-- A path into the directory of the scripts of a kind leads there. -/
lemma location_join_script (hslash : '/' ∉ file.toList)
    (h : Text.endsWith scriptExtension file = true) :
    location (join (join scripts kind.name) file) = scriptLocation scripts kind file := by
  obtain ⟨hne, hpoint, hpoints⟩ := ne_of_isScript h
  exact location_join _ hslash hne hpoint hpoints

lemma slash_notMem_of_isIdentifier (h : Text.isIdentifier table = true) : '/' ∉ table.toList :=
  notMem_of_isIdentifierChars (isIdentifierChars_of_isIdentifier h) (by decide)

lemma slash_notMem_scriptName (h : '/' ∉ name.toList) : '/' ∉ (name ++ ".py").toList := by
  rw [String.toList_append, List.mem_append, not_or]
  exact ⟨h, by decide⟩

lemma location_scriptPath_eq (h : '/' ∉ name.toList) :
    location (Settings.scriptPath scripts kind name) =
      scriptLocation scripts kind (name ++ ".py") :=
  location_join_script (slash_notMem_scriptName h) (isScript_append name)

lemma location_kind (scripts : String) (kind : TableKind) :
    location (join scripts kind.name) = location scripts ++ [kind.name] :=
  location_join _ (by cases kind <;> decide) (by cases kind <;> decide) (by cases kind <;> decide)
    (by cases kind <;> decide)

/-- The files of two kinds or of two names are in two places. -/
lemma scriptLocation_inj {other : TableKind} {file' : String}
    (h : scriptLocation scripts kind file = scriptLocation scripts other file') :
    kind = other ∧ file = file' := by
  obtain ⟨hdirectory, hfile⟩ := List.append_inj' h rfl
  rw [location_kind, location_kind] at hdirectory
  exact ⟨TableKind.name_inj (List.singleton_inj.1 (List.append_inj' hdirectory rfl).2),
    List.singleton_inj.1 hfile⟩

/-- No data file is in the place of a script. -/
lemma location_dataPath_ne (hident : Text.isIdentifier table = true)
    (hdata : s.dataPath? table = some path) (h : Text.endsWith scriptExtension file = true) :
    location path ≠ scriptLocation scripts kind file := by
  obtain ⟨directory, -, hpath⟩ := location_dataPath hident hdata
  rw [hpath]
  intro heq
  exact dataName_ne_of_isScript h table (List.singleton_inj.1 (List.append_inj' heq rfl).2)

/-! ## Scripts of tables -/

/-- Whether a table may refer to a name: it is its own, or something is in the place of the Convert
script of that name. -/
def CanRefer (files : FileTree) (scripts table name : String) : Prop :=
  name = table ∨
    '/' ∉ name.toList ∧ files.contains (Settings.scriptPath scripts .convert name) = true

/-- What the script of a Convert table declares of tables: that table, with references to nothing
but what it may refer to. -/
structure Script.Declared.IsTable (files : FileTree) (scripts table : String) (d : Declared) :
    Prop where
  names : d.tables.map Prod.fst = [table]
  references : ∀ name type, (name, type) ∈ d.tables → ∀ f ∈ type.fields, f.isReference = true →
    CanRefer files scripts table (TypeToken.referencedTable f.type)

/-- A text is the script of a table. A Convert table has its rows in a data file, and the script
declares the table if it runs to its end; other scripts declare no table. -/
structure IsTableScript (s : Settings) (scripts : String) (files : FileTree) (kind : TableKind)
    (table text : String) : Prop where
  named : Text.isIdentifier table = true
  rows : kind = .convert → HasRows s files table
  declares : kind = .convert → ∀ module d, Script.run module text = (d, none) →
    d.IsTable files scripts table
  others : kind ≠ .convert → ∀ module, (Script.run module text).1.tables = []

lemma Script.Declared.IsTable.of_contains {d : Declared} (h : d.IsTable t scripts table)
    (hcontains : ∀ name, t.contains (Settings.scriptPath scripts .convert name) = true →
      u.contains (Settings.scriptPath scripts .convert name) = true) :
    d.IsTable u scripts table := by
  refine ⟨h.names, fun name type hmem f hf href => ?_⟩
  rcases h.references name type hmem f hf href with hself | ⟨hslash, hthere⟩
  · exact .inl hself
  · exact .inr ⟨hslash, hcontains _ hthere⟩

/-- A column is accepted if its table may refer to what it refers to. -/
lemma canRefer_of_isRead (hscripts : s.scripts = .text scripts) {column : Column}
    (h : column.IsRead sheet (.ofFiles s files (some table)))
    (href : column.isReference = true) :
    CanRefer files scripts table (TypeToken.referencedTable column.type) := by
  have hkind : column.kind = .tableReference := of_decide_eq_true href
  have hexists := h.typeExists
  rw [Column.typeExists, hkind] at hexists
  change (referenceExists s files (some table) column.type).toOption.getD false = true at hexists
  unfold referenceExists at hexists
  dsimp only at hexists
  split_ifs at hexists with hempty hself
  · cases hexists
  · exact .inl (Option.some.inj hself).symm
  · refine .inr ⟨fun hmem => ?_, ?_⟩
    · rw [TypeToken.referencedTable, TypeToken.unmarked, String.toList_ofList] at hmem
      have htoken := h.typeChars.2 _ (List.drop_subset _ _ hmem)
      revert htoken
      decide
    · rw [Settings.scriptPath?_eq hscripts] at hexists
      simpa only [Except.toOption, Option.getD_some] using hexists

section

variable (htemplates : s.templates = none) (hscripts : s.scripts = .text scripts)
include htemplates hscripts

/-- What a table compiles to is its script, as long as nothing is taken away of what it refers to. -/
theorem isTableScript_of_compiledIn (h : compiledIn s kind table sheet t = .ok c)
    (hcontains : ∀ name, t.contains (Settings.scriptPath scripts .convert name) = true →
      u.contains (Settings.scriptPath scripts .convert name) = true)
    (hrows : kind = .convert → HasRows s u table) :
    IsTableScript s scripts u kind table c.script := by
  cases kind with
  | convert =>
    obtain ⟨hident, columns, hcolumns, htext⟩ := convertScript_of_compiledIn htemplates h
    obtain ⟨hread, -⟩ := isRead_of_readColumns hcolumns
    refine ⟨hident, hrows, fun _ module d hrun => ?_, fun hne => absurd rfl hne⟩
    rw [htext] at hrun
    obtain ⟨type, htables, hfields⟩ := tables_of_run_convertScript hident
      (isWritten_of_readColumns hcolumns) hrun
    refine Script.Declared.IsTable.of_contains (t := t) ⟨by simp [htables],
      fun name type' hmem f hf href => ?_⟩ hcontains
    rw [htables, List.mem_singleton, Prod.mk.injEq] at hmem
    obtain ⟨rfl, rfl⟩ := hmem
    obtain ⟨column, hc, rfl⟩ := hfields f hf
    exact canRefer_of_isRead hscripts (hread column hc).1 href
  | enum =>
    obtain ⟨hident, enums, henums, htext⟩ := enumScript_of_compiledIn htemplates h
    refine ⟨hident, hrows, by simp, fun _ module => ?_⟩
    rw [htext]
    exact tables_run_enumScript hident (isAccepted_of_readEnums henums).1 module
  | «variable» =>
    obtain ⟨hident, declarations, hread, htext⟩ := variableScript_of_compiledIn htemplates h
    obtain ⟨constants, rfl, hall, -⟩ := isOf_of_readVariables hread
    have hof : ∀ constant ∈ constants, ∃ r ∈ constantRows sheet, constant.IsOf sheet r :=
      fun constant hc => exists_mem_of_forall₂ hall hc
    refine ⟨hident, hrows, by simp, fun _ module => ?_⟩
    rw [htext]
    exact tables_run_variableScript hident
      (fun constant hc => (hof constant hc).elim fun _ hr => hr.2.identifier)
      (fun constant hc => (hof constant hc).elim fun _ hr => hr.2.isLegible) module

end

/-! ## Directories of scripts of tables -/

/-- The text that the file at a location shows to readers of texts, unless it is a workbook. -/
def FileTree.textAt? (files : FileTree) (l : Location) : Option String :=
  match files.content? l with
  | some (.text text) | some (.container text _) => some text
  | _ => none

lemma FileTree.ChangesAt.textAt? (h : t.ChangesAt locs u) {l : Location} (hl : l ∉ locs) :
    u.textAt? l = t.textAt? l := by
  rw [FileTree.textAt?, h.files l hl, FileTree.textAt?]

/-- Every script is that of a table. -/
structure FileTree.IsLinked (s : Settings) (scripts : String) (files : FileTree) : Prop where
  proper : files.IsProper
  scripts : ∀ kind file text, Text.endsWith scriptExtension file = true →
    files.textAt? (scriptLocation scripts kind file) = some text →
    ∃ table, file = table ++ ".py" ∧ IsTableScript s scripts files kind table text

/-- Nothing is taken away of what tables are accepted for. -/
structure FileTree.KeepsTables (s : Settings) (scripts : String) (t u : FileTree) : Prop where
  proper : t.IsProper → u.IsProper
  contains : ∀ name, t.contains (Settings.scriptPath scripts .convert name) = true →
    u.contains (Settings.scriptPath scripts .convert name) = true
  rows : ∀ table, Text.isIdentifier table = true → HasRows s t table → HasRows s u table

/-- A script stays that of its table, if the table has its rows still. -/
lemma IsTableScript.of_contains (h : IsTableScript s scripts t kind table text)
    (hcontains : ∀ name, t.contains (Settings.scriptPath scripts .convert name) = true →
      u.contains (Settings.scriptPath scripts .convert name) = true)
    (hrows : kind = .convert → HasRows s u table) :
    IsTableScript s scripts u kind table text :=
  ⟨h.named, hrows,
    fun hkind module d hrun => (h.declares hkind module d hrun).of_contains hcontains, h.others⟩

/-- Where nothing is taken away, the scripts have to be looked at that are new. -/
theorem FileTree.IsLinked.of_keepsTables (h : t.IsLinked s scripts)
    (hkeeps : t.KeepsTables s scripts u)
    (hnew : ∀ kind file text, Text.endsWith scriptExtension file = true →
      u.textAt? (scriptLocation scripts kind file) = some text →
      t.textAt? (scriptLocation scripts kind file) = some text ∨
        ∃ table, file = table ++ ".py" ∧ IsTableScript s scripts u kind table text) :
    u.IsLinked s scripts := by
  refine ⟨hkeeps.proper h.proper, fun kind file text hpy hthere => ?_⟩
  rcases hnew kind file text hpy hthere with hold | hscript
  · obtain ⟨table, rfl, hscript⟩ := h.scripts kind file text hpy hold
    exact ⟨table, rfl, hscript.of_contains hkeeps.contains fun hkind =>
      hkeeps.rows table hscript.named (hscript.rows hkind)⟩
  · exact hscript

/-- Where nothing is taken away, the data files have to be looked at that change. -/
lemma FileTree.keepsTables_of_changesAt (hproper : t.IsProper → u.IsProper) (hextends : t.Extends u)
    (hchanges : t.ChangesAt locs u)
    (hdata : ∀ table path, Text.isIdentifier table = true → s.dataPath? table = some path →
      location path ∉ locs ∨ HasRows s u table) : t.KeepsTables s scripts u := by
  refine ⟨hproper, fun name => hextends.contains, fun table hident hrows => ?_⟩
  obtain ⟨path, rows, hpath, hrecords, hread⟩ := hrows
  rcases hdata table path hident hpath with hout | hnew
  · exact ⟨path, rows, hpath, hrecords, hchanges.readText hout hread⟩
  · exact hnew

/-! ## Compiling -/

lemma isProper_compiling (s : Settings) (label path : String) (files : FileTree) :
    files.IsProper → ((compiling s label path).apply files).2.IsProper :=
  keeps_compiling (R := fun t u => t.IsProper → u.IsProper) (fun _ h => h)
    (fun _ _ _ h h' ht => h' (h ht)) (fun _ _ _ _ _ =>
      Filing.keeps_write (fun _ h => h) (fun _ _ _ h h' ht => h' (h ht))
        fun _ _ hw ht => ht.of_isWriteTo hw) files

/-- The files of a Convert table that is written hold its rows. -/
lemma hasRows_of_standsIn (hc : compiledIn s .convert table sheet files = .ok c)
    (hdata : (s.dataPath? table).isSome = true) (h : c.StandsIn s .convert table u) :
    HasRows s u table := by
  obtain ⟨path, hpath⟩ := Option.isSome_iff_exists.1 hdata
  obtain ⟨rows, hrows, hrecords⟩ := areRecords_of_compiledIn hc
  obtain ⟨rows', hrows', hread⟩ := h.data rfl path hpath
  obtain rfl := Option.some.inj (hrows.symm.trans hrows')
  exact ⟨path, rows, hpath, hrecords, FileTree.readText_of_read hread⟩

lemma location_dataPath_inj {other place : String} (hident : Text.isIdentifier table = true)
    (hother : Text.isIdentifier other = true) (hpath : s.dataPath? table = some path)
    (hplace : s.dataPath? other = some place) (h : location path = location place) :
    table = other :=
  (@eq_of_location_eq s .convert .convert table other path place hident hother
    (mem_outputPlaces.2 (.inr ⟨rfl, hpath⟩)) (mem_outputPlaces.2 (.inr ⟨rfl, hplace⟩)) h).2.1

/-- A compilation that fails keeps the scripts, and writes rows at most. -/
lemma isLinked_of_compiling_eq_error {f : Failure} (h : t.IsLinked s scripts)
    (hrun : (compiling s label path).apply t = (.error f, u)) : u.IsLinked s scripts := by
  have hproper := isProper_compiling s label path t
  have hextends := extends_compiling s label path t
  rw [hrun] at hproper hextends
  rcases (changesAt_of_compiling_eq_error hrun).2 with
    hsame | ⟨sheet, c, rows, -, -, hc, hrows, hhalf⟩
  · refine h.of_keepsTables (FileTree.keepsTables_of_changesAt hproper hextends hsame
      fun _ _ _ _ => .inl (Set.notMem_empty _)) fun kind file text _ hthere => .inl ?_
    rwa [hsame.textAt? (Set.notMem_empty _)] at hthere
  · -- the data file has been written
    obtain ⟨data, hdata, hchanges, hread⟩ := hhalf.data
    obtain ⟨rows', hrows', hrecords⟩ := areRecords_of_compiledIn hc
    obtain rfl := Option.some.inj (hrows.symm.trans hrows')
    have hident := (rows_of_compiledIn hc).1
    refine h.of_keepsTables (FileTree.keepsTables_of_changesAt hproper hextends hchanges
      fun other place hother hplace => ?_) fun kind file text hpy hthere => .inl ?_
    · by_cases htable : other = tableNameOf path
      · subst htable
        exact .inr ⟨data, rows, hdata, hrecords, hread⟩
      · exact .inl fun heq => htable (location_dataPath_inj hother hident hplace hdata heq)
    · have hout : scriptLocation scripts kind file ∉ ({location data} : Set Location) :=
        fun heq => location_dataPath_ne hident hdata hpy (Set.mem_singleton_iff.1 heq).symm
      rwa [hchanges.textAt? hout] at hthere

section

variable (htemplates : s.templates = none) (hscripts : s.scripts = .text scripts)
include htemplates hscripts

/-- A compilation that succeeds writes the script of a table, and its rows. -/
lemma isLinked_of_compiling_eq_ok {a : Compilation} (h : t.IsLinked s scripts)
    (hrun : (compiling s label path).apply t = (.ok a, u)) : u.IsLinked s scripts := by
  have hproper := isProper_compiling s label path t
  have hextends := extends_compiling s label path t
  rw [hrun] at hproper hextends
  obtain ⟨kind, sheet, c, outputs, ⟨hkind, -, hc⟩, hwriting, -⟩ :=
    exists_writing_of_compiling hrun
  obtain ⟨hident, hrows⟩ := rows_of_compiledIn hc
  have hstands := standsIn_of_writing hident hrows hwriting
  have hrowsThere : kind = .convert → HasRows s u (tableNameOf path) := by
    rintro rfl
    exact hasRows_of_standsIn hc ((writing_eq_ok hrows hwriting).2.2.1 rfl) hstands
  have hchanges : t.ChangesAt {l | ∃ output ∈ outputPlaces s kind (tableNameOf path),
      l = location output} u := by
    have hall : t.ChangesAt {l | ∃ output ∈ outputPlaces s kind (tableNameOf path),
        l = location output} ((compiling s label path).apply t).2 := by
      refine changesAt_compiling (fun kind' hkind' _ output ho => ?_) t
      obtain rfl := Option.some.inj (hkind.symm.trans hkind')
      exact ⟨output, ho, rfl⟩
    rwa [hrun] at hall
  have hkeeps : t.KeepsTables s scripts u := by
    refine FileTree.keepsTables_of_changesAt hproper hextends hchanges
      fun other place hother hplace => ?_
    by_cases hout : ∃ output ∈ outputPlaces s kind (tableNameOf path),
      location place = location output
    · obtain ⟨output, ho, heq⟩ := hout
      obtain ⟨hconvert, rfl, -⟩ := eq_of_location_eq hother hident
        (mem_outputPlaces.2 (.inr ⟨rfl, hplace⟩)) ho heq
      exact .inr (hrowsThere hconvert.symm)
    · exact .inl hout
  have hplace : location (Settings.scriptPath scripts kind (tableNameOf path)) =
      scriptLocation scripts kind (tableNameOf path ++ ".py") :=
    location_scriptPath_eq (slash_notMem_of_isIdentifier hident)
  refine h.of_keepsTables hkeeps fun kind' file text hpy hthere => ?_
  by_cases hnew : scriptLocation scripts kind' file =
    location (Settings.scriptPath scripts kind (tableNameOf path))
  · -- the script of the table
    refine .inr ⟨tableNameOf path, ?_, ?_⟩
    · exact (scriptLocation_inj (hnew.trans hplace)).2
    · obtain rfl := (scriptLocation_inj (hnew.trans hplace)).1
      have hread := (FileTree.read_eq_ok_iff.1
        (hstands.script _ (Settings.scriptPath?_eq hscripts kind' _))).2.1
      rw [← hnew] at hread
      rw [FileTree.textAt?, FileTree.content?_eq_some_iff.2 hread] at hthere
      obtain rfl := Option.some.inj hthere
      exact isTableScript_of_compiledIn htemplates hscripts hc hkeeps.contains hrowsThere
  · -- every other one is as it was
    refine .inl ?_
    have hout : scriptLocation scripts kind' file ∉
        {l | ∃ output ∈ outputPlaces s kind (tableNameOf path), l = location output} := by
      rintro ⟨output, ho, heq⟩
      rcases mem_outputPlaces.1 ho with hscript | ⟨rfl, hdata⟩
      · rw [Settings.scriptPath?_eq hscripts, Option.some.injEq] at hscript
        exact hnew (by rw [heq, hscript])
      · exact location_dataPath_ne hident hdata hpy heq.symm
    rwa [hchanges.textAt? hout] at hthere

/-- Compiling a workbook leaves every script that of a table, whether or not it succeeds. -/
theorem isLinked_compiling (h : files.IsLinked s scripts) (label path : String) :
    ((compiling s label path).apply files).2.IsLinked s scripts := by
  rcases hrun : (compiling s label path).apply files with ⟨f | a, files'⟩
  · exact isLinked_of_compiling_eq_error h hrun
  · exact isLinked_of_compiling_eq_ok htemplates hscripts h hrun

end

/-! ## Recording -/

/-- Whether a path is that of neither a script nor the data file of a table. -/
structure Settings.IsBeside (s : Settings) (scripts place : String) : Prop where
  scripts : ∀ kind file, Text.endsWith scriptExtension file = true →
    location place ≠ scriptLocation scripts kind file
  data : ∀ table path, Text.isIdentifier table = true → s.dataPath? table = some path →
    location place ≠ location path

/-- The manifest lies beside the scripts, in the directory of their directories, and beside the data
files if these have another directory. -/
lemma isBeside_ofDirectories {data place : String} (h : location data ≠ location scripts)
    (hplace : (Settings.ofDirectories scripts data).manifest = .text place) :
    (Settings.ofDirectories scripts data).IsBeside scripts place := by
  have hmanifest : location place = location scripts ++ [Settings.manifestName] := by
    rw [← Json.text.inj hplace]
    exact location_join _ (by decide) (by decide) (by decide) (by decide)
  refine ⟨fun kind file _ heq => ?_, fun table path hident hpath heq => ?_⟩
  · -- a script lies one directory deeper
    rw [hmanifest, scriptLocation, location_kind] at heq
    have hlength := congrArg List.length heq
    simp at hlength
  · obtain ⟨directory, hdirectory, hl⟩ := location_dataPath hident hpath
    cases hdirectory
    rw [hmanifest, hl] at heq
    exact h (List.append_inj' heq rfl).1.symm

/-- A write beside the scripts and the data files leaves every script that of a table. -/
lemma FileTree.IsLinked.of_isWriteTo {place : String} (h : t.IsLinked s scripts)
    (hbeside : s.IsBeside scripts place) (hw : FileTree.IsWriteTo place t u) :
    u.IsLinked s scripts := by
  have hchanges := hw.changesAt
  refine h.of_keepsTables (FileTree.keepsTables_of_changesAt (fun ht => ht.of_isWriteTo hw)
    hw.extends hchanges fun table path hident hpath => .inl ?_)
    fun kind file text hpy hthere => .inl ?_
  · exact fun heq => hbeside.data table path hident hpath (Set.mem_singleton_iff.1 heq).symm
  · have hout : scriptLocation scripts kind file ∉ ({location place} : Set Location) :=
      fun heq => hbeside.scripts kind file hpy (Set.mem_singleton_iff.1 heq).symm
    rwa [hchanges.textAt? hout] at hthere

/-- Recording leaves every script that of a table if the manifest is beside them. -/
lemma isLinked_recording (hbeside : ∀ place, s.manifest = .text place → s.IsBeside scripts place)
    (h : files.IsLinked s scripts) (m : Manifest) :
    ((recording s m).apply files).2.IsLinked s scripts :=
  keeps_recording (R := fun t u => t.IsLinked s scripts → u.IsLinked s scripts)
    (fun _ ht => ht) (fun place hplace _ _ hw ht => ht.of_isWriteTo (hbeside place hplace) hw)
    files h

end SheetCompiler
