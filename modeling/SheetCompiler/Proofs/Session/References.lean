import SheetCompiler.Proofs.Registry.References
import SheetCompiler.Proofs.Session.Operation

/-!
# References in sessions

A session that starts without scripts and removes no tables leaves a project linked, whatever it
compiles and whichever of its compilations fail, as long as nobody else changes scripts and data
files. So if its scripts can be loaded, every reference of a loaded table leads to a loaded table.

The manifest must be beside the scripts. In the place of a Convert script it stands for a table that
no script declares.

Main statements:

* `session_references`: what such sessions leave;
* `misplacedSession_references`: what a session leaves whose manifest lies among the scripts.
-/

namespace SheetCompiler

open SheetCompiler.Path SheetCompiler.Script SheetCompiler.Stateful
open SheetCompiler.Action (scriptExtension)

variable {s : Settings} {scripts : String} {t u : FileTree}

/-! ## Rules of sessions -/

/-- What stands in the places of scripts and data files stays there, whatever else changes. -/
structure FileTree.LeavesTables (s : Settings) (scripts : String) (t u : FileTree) : Prop where
  proper : u.IsProper
  contains : ∀ name, t.contains (Settings.scriptPath scripts .convert name) = true →
    u.contains (Settings.scriptPath scripts .convert name) = true
  scripts : ∀ kind file text, Text.endsWith scriptExtension file = true →
    u.textAt? (scriptLocation scripts kind file) = some text →
    t.textAt? (scriptLocation scripts kind file) = some text
  data : ∀ table path text, Text.isIdentifier table = true → s.dataPath? table = some path →
    t.readText path = .ok text → u.readText path = .ok text

lemma FileTree.LeavesTables.isLinked (h : t.LeavesTables s scripts u) (ht : t.IsLinked s scripts) :
    u.IsLinked s scripts := by
  refine ht.of_keepsTables ⟨fun _ => h.proper, h.contains, fun table hident hrows => ?_⟩
    fun kind file text hpy hthere => .inl (h.scripts kind file text hpy hthere)
  obtain ⟨path, rows, hpath, hrecords, hread⟩ := hrows
  exact ⟨path, rows, hpath, hrecords, h.data table path _ hident hpath hread⟩

/-- No script stands in a directory of scripts. -/
def FileTree.HasNoScripts (scripts : String) (t : FileTree) : Prop :=
  ∀ kind file text, Text.endsWith scriptExtension file = true →
    t.textAt? (scriptLocation scripts kind file) ≠ some text

/-- An operation removes no tables, and others that change the files leave scripts and data files as
they are. -/
def Operation.KeepsTables (s : Settings) (scripts : String) (o : Operation) (p : Project) : Prop :=
  match o with
  | .remove _ | .removeTables _ => False
  | .replaceFiles files => p.files.LeavesTables s scripts files
  | _ => True

namespace Action

section

variable (hscripts : s.scripts = .text scripts) (htemplates : s.templates = none)
  (hbeside : ∀ place, s.manifest = .text place → s.IsBeside scripts place)
include hscripts htemplates hbeside

omit hscripts htemplates hbeside in
lemma staysLinked_passBroken (label : String) (path : Text.BrokenText) :
    StaysLinked s scripts (passBroken label path) := by
  unfold passBroken
  split
  · split
    · exact staysLinked_report _
    · exact staysLinked_throw _
  · exact staysLinked_pure _

lemma staysLinked_compileEach (label : String) (paths : List Json) :
    StaysLinked s scripts (compileEach s label paths) := by
  induction paths with
  | nil => exact staysLinked_pure _
  | cons path paths ih =>
    cases path with
    | text path =>
      have hrest (c : Option Compilation) : StaysLinked s scripts (do
          return c.toList ++ (← compileEach s label paths)) :=
        ih.bind fun _ => staysLinked_pure _
      rw [compileEach]
      split
      · exact (staysLinked_compileNext hscripts htemplates hbeside label path).bind hrest
      · exact (staysLinked_pure none).bind hrest
    | broken path =>
      rw [compileEach]
      exact (staysLinked_passBroken label path).bind fun _ => ih
    | _ =>
      simp only [compileEach]
      exact staysLinked_throw _

lemma staysLinked_compileGroup (paths : List Json) (label : String) :
    StaysLinked s scripts (compileGroup paths label) := by
  refine staysLinked_get fun p hp => ?_
  rw [hp.loaded]
  have hgroup : StaysLinked s scripts (always (compileEach s label paths) refresh) := by
    intro q hq
    rw [apply_always_snd]
    have hq' := staysLinked_compileEach hscripts htemplates hbeside label paths q hq
    exact ⟨hq'.settings, hq'.loaded, hq'.files, hq'.tables⟩
  exact hgroup.bind fun _ => (staysLinked_report _).bind fun _ => staysLinked_pure _

lemma staysLinked_recompile (compilations : List Compilation) :
    StaysLinked s scripts (recompile compilations) := by
  have hkinds (kinds : List Json) : StaysLinked s scripts (recompileKinds compilations kinds) := by
    induction kinds with
    | nil => exact staysLinked_pure _
    | cons kind kinds ih =>
      exact (staysLinked_compileGroup hscripts htemplates hbeside _ _).bind fun _ =>
        ih.bind fun _ => staysLinked_pure _
  unfold recompile
  split
  · exact hkinds _
  · exact staysLinked_throw _

omit hscripts htemplates in
lemma staysLinked_persist : StaysLinked s scripts persist := by
  intro p hp
  rw [apply_persist]
  refine ⟨hp.settings, hp.loaded, ?_, hp.tables⟩
  dsimp only
  rw [hp.loaded]
  exact isLinked_recording hbeside hp.files p.manifest

omit hscripts htemplates in
lemma staysLinked_record (c : Compilation) : StaysLinked s scripts (record c) := by
  have hinsert : StaysLinked s scripts
      (modify fun p => { p with manifest := p.manifest.insert c }) :=
    fun p hp => ⟨hp.settings, hp.loaded, hp.files, hp.tables⟩
  unfold record
  split
  · exact hinsert.bind fun _ => staysLinked_persist hbeside
  · exact staysLinked_throw _

omit hscripts htemplates hbeside in
lemma staysLinked_loadManifest : StaysLinked s scripts loadManifest := by
  have hload (m : Manifest) : StaysLinked s scripts
      (modify fun p => { p with manifest := m, loaded := p.settings }) :=
    fun p hp => ⟨hp.settings, hp.settings, hp.files, hp.tables⟩
  refine staysLinked_get fun p hp => ?_
  split
  · exact staysLinked_throw _
  · exact fun q hq => ⟨hp.settings, hp.settings, hp.files, hp.tables⟩
  · refine (staysLinked_report _).bind fun _ => ?_
    split
    · exact hload _
    · exact staysLinked_throw _

end

end Action

/-- An operation that removes no tables leaves a linked project linked. -/
theorem Operation.isLinked_after (hscripts : s.scripts = .text scripts)
    (htemplates : s.templates = none)
    (hbeside : ∀ place, s.manifest = .text place → s.IsBeside scripts place) (o : Operation)
    (p : Project) (hp : p.IsLinked s scripts) (ho : o.KeepsTables s scripts p) :
    (o.after p).IsLinked s scripts := by
  have hthen {a : Action Unit} (ha : Action.StaysLinked s scripts a) :
      Action.StaysLinked s scripts (do a; return [] : Action (List Compilation)) :=
    ha.bind fun _ => Action.staysLinked_pure _
  cases o with
  | load => exact hthen Action.staysLinked_loadManifest p hp
  | list =>
    exact Action.staysLinked_get (fun _ _ => Action.staysLinked_ofExcept _) p hp
  | persist => exact hthen (Action.staysLinked_persist hbeside) p hp
  | record c => exact hthen (Action.staysLinked_record hbeside c) p hp
  | compile paths label =>
    exact Action.staysLinked_compileGroup hscripts htemplates hbeside _ label p hp
  | recompile compilations =>
    exact Action.staysLinked_recompile hscripts htemplates hbeside compilations p hp
  | remove compilations => exact ho.elim
  | removeTables compilations => exact ho.elim
  | replaceFiles files =>
    exact ⟨hp.settings, hp.loaded, FileTree.LeavesTables.isLinked ho hp.files, hp.tables⟩

/-- A session that starts without scripts and removes no tables registers no table itself. If its
scripts can be loaded afterwards, then every reference of a loaded table leads to a loaded table, and
following it fails for an ID alone that the table does not have; and so it would be if the scripts
were run in another order. -/
theorem session_references {p : Project} {os : List Operation}
    (hloaded : p.loaded = p.settings) (hscripts : p.settings.scripts = .text scripts)
    (htemplates : p.settings.templates = none)
    (hbeside : ∀ place, p.settings.manifest = .text place → p.settings.IsBeside scripts place)
    (hproper : p.files.IsProper) (hnone : p.files.HasNoScripts scripts)
    (htables : p.registry.tables = [])
    (hos : Session.Obeys (Operation.KeepsTables p.settings scripts) os p) :
    (Session.after os p).registry.tables = [] ∧
      ∀ q r modules, q.files = (Session.after os p).files → q.registry.tables = [] →
        (Action.loadScripts scripts).apply q = (.ok modules, r) →
        ∃ ds, (∀ d, d ∈ ds ↔ ∃ kind file, Action.Declares q.files scripts kind file d) ∧
          r.registry.data = q.registry.data ∧ r.registry.HasDeclared q.files ds ∧
          ∀ ds', ds'.Perm ds → ∀ registry : Registry, registry.HasDeclared q.files ds' →
            ∀ table t, registry.tables.get? table = some t → ∀ f ∈ t.type.fields,
              f.isReference = true →
              (∃ other, registry.tables.get? (TypeToken.referencedTable f.type) = some other) ∧
                (p.settings.data = .text registry.data → registry.Follows q.files ds' f) := by
  have hstart : p.IsLinked p.settings scripts :=
    ⟨rfl, hloaded, ⟨hproper, fun kind file text hpy hthere =>
      absurd hthere (hnone kind file text hpy)⟩, htables⟩
  have hend : (Session.after os p).IsLinked p.settings scripts :=
    Session.obeys_induct (fun o p hp => o.isLinked_after hscripts htemplates hbeside p hp) hstart hos
  refine ⟨hend.tables, fun q r modules hfiles hempty hload => ?_⟩
  have hlinked := hend.files
  rw [← hfiles] at hlinked
  obtain ⟨-, ds, hds, hdeclared, -⟩ := Action.exists_declared_of_loadScripts hload
  have hruns := Action.loadScripts_returns_iff.1 ⟨modules, r, hload⟩
  refine ⟨ds, hds, Action.data_of_loadScripts hload,
    Registry.hasDeclared_of_declare hempty hdeclared q.files, ?_⟩
  intro ds' hperm registry hregistry table t ht f hf href
  exact hlinked.follows hruns (fun d => hperm.mem_iff.trans (hds d)) hregistry ht hf href

/-! ## Tables of one column -/

/-- The script of a table of one column with an ordinary name declares the table with its field. -/
lemma FileTree.declared?_ofColumn {table : String} {column : Column} {files : FileTree}
    (hident : Text.isIdentifier table = true) (hname : IsFieldName column.name)
    (hwritten : IsWritten column)
    (hread : files.readText (Settings.scriptPath scripts .convert table) =
      .ok (Template.lines (Template.convertScriptTexts table [column]))) :
    files.declared? .convert (join scripts TableKind.convert.name) (table ++ ".py") =
        some (convertDeclared table (TableKind.convert.moduleOf table) [column]) ∧
      column.field ∈ (declaredType table (TableKind.convert.moduleOf table) [column]).fields := by
  have hnames : ∀ c ∈ [column], IsFieldName c.name := fun c hc => List.mem_singleton.1 hc ▸ hname
  obtain ⟨hdeclarable, hkept, -⟩ := areDeclarable_of_isFieldName hnames
  have hrun := run_convertScript hident (fun c hc => List.mem_singleton.1 hc ▸ hwritten)
    (TableKind.convert.moduleOf table) hdeclarable
  constructor
  · have hdeclared := FileTree.declared?_of_readText hident hread
    rwa [hrun] at hdeclared
  · have hnodup : ([column].map Column.name).Nodup := List.nodup_singleton _
    rw [(fields_eq_iff hnodup).2 hkept]
    exact List.mem_singleton_self _

/-! ## A table that refers to itself -/

/-- A workbook of a table whose rows are chained. -/
def chainCells : List (List CellValue) :=
  [[.text "ID", .text "Next"], [.text "string", .text "TbItem"], [.text "1", .text "1"]]

/-- A project with nothing but the workbook. -/
def chainProject : Project :=
  .ofFiles (.ofDirectories "Dist" "Resources") ⟨[(["Item.xlsx"], .file (.workbook chainCells))]⟩
    "Resources"

/-- The table is compiled. -/
def chainSession : List Operation := [.compile ["Item.xlsx"] "Convert"]

/-- The files of the session, before its scripts are loaded. -/
def chainLoading : Project :=
  { Project.empty with files := (Session.after chainSession chainProject).files }

/-- The column that refers to its own table. -/
def nextColumn : Column := ⟨1, "Next", "TbItem", false⟩

/-- What the script of the table declares. -/
def chainDeclared : Declared :=
  convertDeclared "Item" (TableKind.convert.moduleOf "Item") [nextColumn]

/-- What the table compiles to. -/
def chainCompiled : Compiled :=
  ⟨Template.lines (Template.convertScriptTexts "Item" [nextColumn]),
    some [⟨"1", [("ID", .text "1"), ("_idNext", .text "1")]⟩], .convertParsed "Item" 1 1⟩

/-- The project after the table has been written and recorded. -/
def chainFiled : Project := chainProject.filed .convert "Item.xlsx" chainCompiled

lemma files_after_chainSession :
    chainLoading.files = (Session.after chainSession chainProject).files := by
  have hfiles (files : FileTree) : ({ Project.empty with files } : Project).files = files := rfl
  exact hfiles _

/-- The table can be written, and then its script is the only one that there is. -/
lemma written_chainFiled :
    ((writing chainProject.loaded .convert (tableNameOf "Item.xlsx") chainCompiled).apply
        chainProject.files).1.isOk = true ∧
      (∀ kind ∈ TableKind.all, Action.scriptsIn chainFiled.files (join "Dist" kind.name) =
        if kind = .convert then ["Item.py"] else []) ∧
      (chainFiled.files.readText (Settings.scriptPath "Dist" .convert "Item")).toOption =
        some (Template.lines (Template.convertScriptTexts "Item" [nextColumn])) := by
  decide +kernel

lemma files_chainLoading : chainLoading.files = chainFiled.files := by
  have htable : isTableFile "Item.xlsx" = true := by decide
  have hcompiled : compiledIn chainProject.loaded .convert (tableNameOf "Item.xlsx")
      (.ofCells chainCells) chainProject.files = .ok chainCompiled :=
    compiledIn_convert rfl rfl (by decide) rfl rfl
  have hmatches : chainFiled.Matches
      (Operation.after (.compile ["Item.xlsx"] "Convert") chainProject) :=
    Operation.matches_compile_of_compilesTo htable ⟨by decide, rfl, hcompiled⟩
      written_chainFiled.1
  rw [files_after_chainSession, chainSession, Session.after_cons, Session.after_nil]
  exact hmatches.files.symm

lemma scriptsIn_chainLoading (kind : TableKind) :
    Action.scriptsIn chainLoading.files (join "Dist" kind.name) =
      if kind = .convert then ["Item.py"] else [] := by
  rw [files_chainLoading]
  exact written_chainFiled.2.1 kind (by cases kind <;> decide)

/-- The name of the column is an ordinary one, so the script declares it as a field. -/
lemma declared?_chainLoading : chainLoading.files.declared? .convert
      (join "Dist" TableKind.convert.name) "Item.py" = some chainDeclared ∧
    nextColumn.field ∈
      (declaredType "Item" (TableKind.convert.moduleOf "Item") [nextColumn]).fields := by
  have hident : Text.isIdentifier "Item" = true := by decide
  have hname : IsFieldName nextColumn.name := ⟨by decide, by decide, by decide⟩
  have hread : chainLoading.files.readText (Settings.scriptPath "Dist" .convert "Item") =
      .ok (Template.lines (Template.convertScriptTexts "Item" [nextColumn])) := by
    rw [files_chainLoading]
    exact eq_ok_of_toOption written_chainFiled.2.2
  have hwritten : IsWritten nextColumn := ⟨by decide, by decide⟩
  have hdeclared := FileTree.declared?_ofColumn hident hname hwritten hread
  exact hdeclared

lemma declares_chainLoading_iff {kind : TableKind} {file : String} {d : Declared} :
    Action.Declares chainLoading.files "Dist" kind file d ↔
      kind = .convert ∧ file = "Item.py" ∧ d = chainDeclared := by
  unfold Action.Declares
  rw [scriptsIn_chainLoading kind]
  constructor
  · rintro ⟨hfile, hd⟩
    split_ifs at hfile with hkind
    · obtain rfl := hkind
      obtain rfl := List.mem_singleton.1 hfile
      exact ⟨rfl, rfl, Option.some.inj (hd.symm.trans declared?_chainLoading.1)⟩
    · cases hfile
  · rintro ⟨rfl, rfl, rfl⟩
    exact ⟨List.mem_singleton_self _, declared?_chainLoading.1⟩

/-- The reference leads from the loaded table to itself. -/
theorem chainSession_references :
    ∃ modules r ds t,
      (Action.loadScripts "Dist").apply chainLoading = (.ok modules, r) ∧
        r.registry.HasDeclared chainLoading.files ds ∧
        r.registry.tables.get? "Item" = some t ∧ nextColumn.field ∈ t.type.fields ∧
        nextColumn.field.isReference = true ∧
        r.registry.Follows chainLoading.files ds nextColumn.field := by
  have hproper : chainProject.files.IsProper := FileTree.isProper_of_entries (by decide)
  have hnone : chainProject.files.HasNoScripts "Dist" := by
    intro kind file text _ hthere
    have hnone : chainProject.files.node? (scriptLocation "Dist" kind file) = none := by
      refine FileTree.node?_eq_none_iff.2 ⟨by simp [scriptLocation], fun hmem => ?_⟩
      have hplace := List.mem_singleton.1 hmem
      rw [scriptLocation, location_kind] at hplace
      have hlength := congrArg List.length hplace
      simp at hlength
    rw [FileTree.textAt?, FileTree.content?, hnone] at hthere
    cases hthere
  have hobeys : Session.Obeys (Operation.KeepsTables chainProject.settings "Dist") chainSession
      chainProject := ⟨trivial, trivial⟩
  obtain ⟨-, hreferences⟩ := session_references rfl rfl rfl
    (fun place hplace => isBeside_ofDirectories (by decide) hplace) hproper hnone rfl hobeys
  have hloads : ∃ modules r,
      (Action.loadScripts "Dist").apply chainLoading = (.ok modules, r) := by
    rw [Action.loadScripts_returns_iff]
    intro kind file hfile
    rw [scriptsIn_chainLoading kind] at hfile
    split_ifs at hfile with hkind
    · rw [hkind, List.mem_singleton.1 hfile, declared?_chainLoading.1]
      rfl
    · cases hfile
  obtain ⟨modules, r, hload⟩ := hloads
  obtain ⟨ds, -, hdata, hregistry, hall⟩ := hreferences chainLoading r modules
    files_after_chainSession rfl hload
  have ht : r.registry.tables.get? "Item" =
      some ⟨declaredType "Item" (TableKind.convert.moduleOf "Item") [nextColumn], none⟩ := by
    refine Action.get?_tables_of_loadScripts hload
      ⟨_, _, _, declares_chainLoading_iff.2 ⟨rfl, rfl, rfl⟩, List.mem_singleton_self _⟩
      fun kind file d hd type htype => ?_
    obtain ⟨-, -, rfl⟩ := declares_chainLoading_iff.1 hd
    exact (Prod.mk.inj (List.mem_singleton.1 htype)).2
  obtain ⟨-, hfollows⟩ := hall ds (.refl _) r.registry hregistry "Item" _ ht _
    declared?_chainLoading.2 (by decide)
  refine ⟨modules, r, ds, _, hload, hregistry, ht, declared?_chainLoading.2, by decide,
    hfollows ?_⟩
  rw [hdata]
  rfl

/-! ## A manifest in the place of a script

Settings may put the manifest where the script of a Convert table belongs. Then the manifest is taken
for the script of a table that nobody has compiled: references to that table are accepted, and
loading the manifest as a script declares nothing. -/

/-- A workbook of a table that refers to a table `B`. -/
def misledCells : List (List CellValue) :=
  [[.text "ID", .text "N"], [.text "string", .text "TbB"], [.text "1", .text "x"]]

/-- A project whose manifest has the place of the script of the table `B`. There are two workbooks
of one table: the first has no columns, and the second refers to `B`. -/
def misplacedProject : Project :=
  .ofFiles { Settings.ofDirectories "D" "R" with manifest := .text "D/Convert/B.py" }
    ⟨[(["A.xlsx"], .file (.workbook [[.text "ID"], [.text "string"]])),
      (["x"], .directory),
      (["x", "A.xlsx"], .file (.workbook misledCells))]⟩ "R"

/-- The workbooks are compiled, one after the other. -/
def misplacedSession : List Operation :=
  [.compile ["A.xlsx"] "Convert", .compile ["x/A.xlsx"] "Convert"]

/-- The files of the session, before its scripts are loaded. -/
def misplacedLoading : Project :=
  { Project.empty with files := (Session.after misplacedSession misplacedProject).files }

/-- The column that refers to a table without a workbook. -/
def misledColumn : Column := ⟨1, "N", "TbB", false⟩

/-- What the first workbook compiles to. -/
def plainCompiled : Compiled :=
  ⟨Template.lines (Template.convertScriptTexts "A" []), some [], .convertParsed "A" 0 0⟩

/-- What the second workbook compiles to. -/
def misledCompiled : Compiled :=
  ⟨Template.lines (Template.convertScriptTexts "A" [misledColumn]),
    some [⟨"1", [("ID", .text "1"), ("_idN", .text "x")]⟩], .convertParsed "A" 1 1⟩

/-- The project after the first workbook. -/
def plainFiled : Project := misplacedProject.filed .convert "A.xlsx" plainCompiled

/-- The project after both workbooks. -/
def misledFiled : Project := plainFiled.filed .convert "x/A.xlsx" misledCompiled

/-- The names of the scripts in a directory, in any order. -/
def FileTree.scriptNames (t : FileTree) (directory : String) : List String :=
  match t.lookup directory with
  | .ok (loc, .directory) =>
    (t.entries.filterMap fun e =>
      if e.1 ≠ [] ∧ e.1.dropLast = loc then e.1.getLast? else none).filter
        (Text.endsWith Action.scriptExtension)
  | _ => []

lemma mem_scriptsIn_iff {t : FileTree} {directory file : String} :
    file ∈ Action.scriptsIn t directory ↔ file ∈ t.scriptNames directory := by
  unfold Action.scriptsIn FileTree.scriptNames FileTree.children FileTree.sortTexts
  rcases t.lookup directory with _ | ⟨loc, _ | _⟩ <;> simp

/-- The lines of the manifest. -/
def misplacedLines : List String := [
  "[", "  \x7b", "    \"kind\": \"Convert\",", "    \"name\": \"A\",",
  "    \"sourcePath\": \"x/A.xlsx\",", "    \"outputPaths\": [", "      \"D/Convert/A.py\",",
  "      \"R/A.json\"", "    ]", "  \x7d", "]"]

/-- The first workbook can be written. -/
lemma written_plainFiled :
    ((writing misplacedProject.loaded .convert (tableNameOf "A.xlsx") plainCompiled).apply
      misplacedProject.files).1.isOk = true := by
  decide +kernel

/-- After it the second workbook can be read and written, and then its script and the manifest are
what there is in the directory of the scripts. -/
lemma written_misledFiled :
    (sheetAt "x/A.xlsx" plainFiled.files).toOption = some (.ofCells misledCells) ∧
      readColumns (.ofCells misledCells) (.ofFiles plainFiled.loaded plainFiled.files (some "A")) =
        .ok [misledColumn] ∧
      ((writing plainFiled.loaded .convert (tableNameOf "x/A.xlsx") misledCompiled).apply
        plainFiled.files).1.isOk = true ∧
      (∀ kind ∈ TableKind.all, misledFiled.files.scriptNames (join "D" kind.name) =
        if kind = .convert then ["B.py", "A.py"] else []) ∧
      (misledFiled.files.readText (Settings.scriptPath "D" .convert "B")).toOption =
        some (Template.lines misplacedLines) ∧
      (misledFiled.files.readText (Settings.scriptPath "D" .convert "A")).toOption =
        some (Template.lines (Template.convertScriptTexts "A" [misledColumn])) := by
  decide +kernel

lemma matches_plainFiled :
    plainFiled.Matches (Operation.after (.compile ["A.xlsx"] "Convert") misplacedProject) := by
  have htable : isTableFile "A.xlsx" = true := by decide
  have hcompiled : compiledIn misplacedProject.loaded .convert (tableNameOf "A.xlsx")
      (.ofCells [[.text "ID"], [.text "string"]]) misplacedProject.files = .ok plainCompiled :=
    compiledIn_convert rfl rfl (by decide) rfl rfl
  exact Operation.matches_compile_of_compilesTo htable ⟨by decide, rfl, hcompiled⟩
    written_plainFiled

lemma matches_misledFiled :
    misledFiled.Matches (Operation.after (.compile ["x/A.xlsx"] "Convert") plainFiled) := by
  have htable : isTableFile "x/A.xlsx" = true := by decide
  obtain ⟨hcells, hcolumns, hwritten, -⟩ := written_misledFiled
  have hcompiled : compiledIn plainFiled.loaded .convert (tableNameOf "x/A.xlsx")
      (.ofCells misledCells) plainFiled.files = .ok misledCompiled :=
    compiledIn_convert rfl rfl (by decide) hcolumns rfl
  exact Operation.matches_compile_of_compilesTo htable
    ⟨by decide, eq_ok_of_toOption hcells, hcompiled⟩ hwritten

lemma files_misplacedLoading : misplacedLoading.files = misledFiled.files := by
  have hfiles (files : FileTree) : ({ Project.empty with files } : Project).files = files := rfl
  have hloading : misplacedLoading.files =
      (Session.after misplacedSession misplacedProject).files := hfiles _
  have hsecond := (Session.answers_of_matches matches_plainFiled
    [.compile ["x/A.xlsx"] "Convert"]).2
  rw [Session.after_cons, Session.after_nil] at hsecond
  rw [hloading, misplacedSession, Session.after_cons]
  exact (matches_misledFiled.trans hsecond).files.symm

/-- The script of the table and the manifest are taken for the scripts that there are. -/
lemma mem_scriptsIn_misplacedLoading {kind : TableKind} {file : String} :
    file ∈ Action.scriptsIn misplacedLoading.files (join "D" kind.name) ↔
      kind = .convert ∧ (file = "A.py" ∨ file = "B.py") := by
  obtain ⟨-, -, -, hnames, -⟩ := written_misledFiled
  rw [files_misplacedLoading, mem_scriptsIn_iff, hnames kind (by cases kind <;> decide)]
  split_ifs with hkind
  · simp [hkind, or_comm]
  · simp [hkind]

/-- The manifest runs as a script and declares no table. -/
lemma run_misplacedLines : ∃ d, Script.run (TableKind.convert.moduleOf "B")
    (Template.lines misplacedLines) = (d, none) ∧ d.tables = [] := by
  have hchars : ∀ text ∈ misplacedLines, text.toList.all isLineChar = true := by decide +kernel
  have hfirst : (Template.lines misplacedLines).toList.head? ≠ some '\ufeff' := by
    rw [toList_lines]
    decide
  have hruns : (Script.run (TableKind.convert.moduleOf "B")
        (Template.lines misplacedLines)).2 = none ∧
      (Script.run (TableKind.convert.moduleOf "B")
        (Template.lines misplacedLines)).1.tables = [] := by
    rw [Script.run, statements?_lines hchars hfirst]
    decide +kernel
  rcases hrun : Script.run (TableKind.convert.moduleOf "B") (Template.lines misplacedLines) with
    ⟨d, fault⟩
  rw [hrun] at hruns
  obtain ⟨rfl, hempty⟩ := hruns
  exact ⟨d, rfl, hempty⟩

lemma declared?_manifest : ∃ d, misplacedLoading.files.declared? .convert
    (join "D" TableKind.convert.name) "B.py" = some d ∧ d.tables = [] := by
  have hread : misplacedLoading.files.readText (Settings.scriptPath "D" .convert "B") =
      .ok (Template.lines misplacedLines) := by
    obtain ⟨-, -, -, -, hmanifest, -⟩ := written_misledFiled
    rw [files_misplacedLoading]
    exact eq_ok_of_toOption hmanifest
  have hdeclared := FileTree.declared?_of_readText (by decide) hread
  obtain ⟨d, hrun, hempty⟩ := run_misplacedLines
  rw [hrun] at hdeclared
  exact ⟨d, hdeclared, hempty⟩

/-- What the script of the table declares. -/
def misledDeclared : Declared :=
  convertDeclared "A" (TableKind.convert.moduleOf "A") [misledColumn]

/-- The name of the column is an ordinary one, so the script declares it as a field. -/
lemma declared?_misplacedLoading : misplacedLoading.files.declared? .convert
      (join "D" TableKind.convert.name) "A.py" = some misledDeclared ∧
    misledColumn.field ∈
      (declaredType "A" (TableKind.convert.moduleOf "A") [misledColumn]).fields := by
  have hident : Text.isIdentifier "A" = true := by decide
  have hname : IsFieldName misledColumn.name := ⟨by decide, by decide, by decide⟩
  have hread : misplacedLoading.files.readText (Settings.scriptPath "D" .convert "A") =
      .ok (Template.lines (Template.convertScriptTexts "A" [misledColumn])) := by
    obtain ⟨-, -, -, -, -, hscript⟩ := written_misledFiled
    rw [files_misplacedLoading]
    exact eq_ok_of_toOption hscript
  have hwritten : IsWritten misledColumn := ⟨by decide, by decide⟩
  have hdeclared := FileTree.declared?_ofColumn hident hname hwritten hread
  exact hdeclared

/-- Of the two scripts only that of the table declares one. -/
lemma of_declares_misplacedLoading {kind : TableKind} {file : String} {d : Declared}
    (h : Action.Declares misplacedLoading.files "D" kind file d) :
    kind = .convert ∧ (d = misledDeclared ∨ d.tables = []) := by
  obtain ⟨hfile, hd⟩ := h
  obtain ⟨rfl, rfl | rfl⟩ := mem_scriptsIn_misplacedLoading.1 hfile
  · exact ⟨rfl, .inl (Option.some.inj (hd.symm.trans declared?_misplacedLoading.1))⟩
  · obtain ⟨d', hd', hempty⟩ := declared?_manifest
    exact ⟨rfl, .inr (Option.some.inj (hd'.symm.trans hd) ▸ hempty)⟩

/-- After the session the scripts can be loaded, but a reference of a loaded table leads to a table
that is not there. -/
theorem misplacedSession_references :
    ∃ modules r t, (Action.loadScripts "D").apply misplacedLoading = (.ok modules, r) ∧
      r.registry.tables.get? "A" = some t ∧ misledColumn.field ∈ t.type.fields ∧
      misledColumn.field.isReference = true ∧
      r.registry.tables.get? (TypeToken.referencedTable misledColumn.field.type) = none := by
  have hloads : ∃ modules r,
      (Action.loadScripts "D").apply misplacedLoading = (.ok modules, r) := by
    rw [Action.loadScripts_returns_iff]
    intro kind file hfile
    obtain ⟨rfl, rfl | rfl⟩ := mem_scriptsIn_misplacedLoading.1 hfile
    · rw [declared?_misplacedLoading.1]
      rfl
    · obtain ⟨d, hd, -⟩ := declared?_manifest
      rw [hd]
      rfl
  obtain ⟨modules, r, hload⟩ := hloads
  -- the script of the table is the only one that declares a table
  have hone {kind : TableKind} {file : String} {d : Declared} {name : String} {type : RecordType}
      (hd : Action.Declares misplacedLoading.files "D" kind file d)
      (hmem : (name, type) ∈ d.tables) :
      name = "A" ∧ type = declaredType "A" (TableKind.convert.moduleOf "A") [misledColumn] := by
    obtain ⟨-, rfl | hempty⟩ := of_declares_misplacedLoading hd
    · exact Prod.mk.inj (List.mem_singleton.1 hmem)
    · rw [hempty] at hmem
      cases hmem
  have ht : r.registry.tables.get? "A" =
      some ⟨declaredType "A" (TableKind.convert.moduleOf "A") [misledColumn], none⟩ := by
    refine Action.get?_tables_of_loadScripts hload ⟨.convert, "A.py", misledDeclared,
      ⟨mem_scriptsIn_misplacedLoading.2 ⟨rfl, .inl rfl⟩, declared?_misplacedLoading.1⟩,
      List.mem_singleton_self _⟩ fun kind file d hd type htype => (hone hd htype).2
  refine ⟨modules, r, _, hload, ht, declared?_misplacedLoading.2, by decide, ?_⟩
  obtain ⟨-, ds, hds, htables, -⟩ := Action.exists_declared_of_loadScripts hload
  cases hother : r.registry.tables.get? (TypeToken.referencedTable misledColumn.field.type) with
  | none => rfl
  | some t =>
    rw [htables] at hother
    obtain ⟨d, hd, hmem⟩ := (Registry.mem_of_get?_declare rfl hother).2
    obtain ⟨kind, file, hdeclares⟩ := (hds d).1 hd
    exact absurd (hone hdeclares hmem).1 (by decide)

end SheetCompiler
