import SheetCompiler.Proofs.Compile.Sources

/-!
# What the files of a table hold

A batch of one workbook writes the data file of a Convert table, its script and the manifest, in
this order. The file of the manifest is written last, so it holds the manifest. Script and data file
lie at different places whatever the settings and the table are, but settings may give the manifest
the place of either. A file of the table that lies elsewhere holds what the table compiled to
(`Compiled.StandsBeside`).

Main statements:

* `compileNext_eq_some`: what an attempt that adds a table leaves in the files;
* `contents_of_compileTables`: what a batch that gives the result of its workbook leaves in them;
* `sharedProject_parseResult`: a data file that the manifest has been written over.
-/

namespace SheetCompiler

open SheetCompiler.Stateful SheetCompiler.Path

section

variable {s : Settings} {kind : TableKind} {place source : String} {t u : FileTree}

/-- The files of a table have places that differ, and hold what the table compiled to where they are
not at a given place. -/
structure Compiled.StandsBeside (place : String) (s : Settings) (kind : TableKind) (table : String)
    (c : Compiled) (files : FileTree) : Prop where
  script : ∃ path, s.scriptPath? kind.name table = some path ∧
    (location path ≠ location place → files.read path = .ok (.text c.script))
  data : kind = .convert → ∃ path rows, s.dataPath? table = some path ∧ c.rows = some rows ∧
    (∀ script, s.scriptPath? kind.name table = some script → location path ≠ location script) ∧
    (location path ≠ location place →
      files.read path = .ok (.text (printRecords (rows.map Row.cells))))

/-- What stands in the files of a table still does after a change at one place, beside it. -/
lemma Compiled.StandsIn.beside {c : Compiled} {a : Compilation}
    (h : c.StandsIn s kind (tableNameOf source) t) (ha : a.Records s kind source)
    (hchanges : t.ChangesAt {location place} u) :
    c.StandsBeside place s kind (tableNameOf source) u := by
  constructor
  case script =>
    obtain ⟨path, hpath⟩ := Option.isSome_iff_exists.1 ha.script
    exact ⟨path, hpath, fun hne => hchanges.read hne (h.script path hpath)⟩
  case data =>
    intro hkind
    obtain ⟨path, hpath⟩ := Option.isSome_iff_exists.1 (ha.data hkind)
    obtain ⟨rows, hrows, hread⟩ := h.data hkind path hpath
    exact ⟨path, rows, hpath, hrows,
      fun script hscript => location_data_ne_script ha.named ha.named hpath hscript,
      fun hne => hchanges.read hne hread⟩

end

/-! ## An attempt and a batch of one -/

namespace Action

variable {label path : String} {p q : Project} {a : Compilation}

/-- An attempt that adds a table has compiled it, written its files and then the manifest with what
it adds. -/
theorem compileNext_eq_some (h : (compileNext p.loaded label path).apply p = (.ok (some a), q)) :
    ∃ place kind sheet c, p.loaded.manifest = .text place ∧
      CompilesTo p.loaded label path p.files kind sheet c ∧ a.Records p.loaded kind path ∧
      q.manifest = p.manifest.insert a ∧ q.files.read place = .ok (.text q.manifest.print) ∧
      c.StandsBeside place p.loaded kind (tableNameOf path) q.files := by
  rcases hc : (compiling p.loaded label path).apply p.files with ⟨f | b, t⟩
  · obtain ⟨_, _, hnext⟩ := compileNext_of_error hc
    rw [h] at hnext
    split at hnext <;> cases hnext
  · obtain ⟨_, _, hnext⟩ := compileNext_of_ok hc
    rcases hrec : (recording p.loaded (p.manifest.insert b)).apply t with ⟨f | _, u⟩
    · rw [h, hrec] at hnext
      cases hnext
    · rw [h, hrec] at hnext
      cases hnext
      obtain ⟨kind, sheet, c, outputs, hcompiles, hw, -⟩ := exists_writing_of_compiling hc
      obtain ⟨other, hother, hrecords, -⟩ := compiling_eq_ok hc
      obtain rfl := Option.some.inj (hcompiles.labelled.symm.trans hother)
      obtain ⟨hident, hrows⟩ := rows_of_compiledIn hcompiles.compiled
      -- the manifest is written over what stands there
      obtain ⟨place, hplace, hread, hchanges⟩ := exists_place_of_recording hrec
      have hstands := standsIn_of_writing hident hrows hw
      exact ⟨place, kind, sheet, c, hplace, hcompiles, hrecords, rfl, hread,
        hstands.beside hrecords hchanges⟩

/-- A batch of one path that gives a result has attempted it, and has left what the attempt did. -/
lemma compileNext_of_compileTables (h : (compileTables [path] label).apply p = (.ok [a], q)) :
    ∃ r, (compileNext p.loaded label path).apply p = (.ok (some a), r) ∧
      q.manifest = r.manifest ∧ q.files = r.files := by
  rw [apply_compileTables, List.map_singleton] at h
  cases htable : isTableFile path with
  | false =>
    rw [compileEach_cons_of_not htable] at h
    cases h
  | true =>
    rw [compileEach_cons htable] at h
    rcases hnext : (compileNext p.loaded label path).apply p with ⟨f | _ | b, r⟩ <;>
      rw [hnext] at h <;> cases h
    exact ⟨r, rfl, rfl, rfl⟩

/-- A batch gives the result of its one workbook if that compiles and can be written and recorded. -/
lemma exists_compileTables_of_compilesTo {kind : TableKind} {sheet : Sheet} {c : Compiled}
    (htable : isTableFile path = true)
    (hc : CompilesTo p.loaded label path p.files kind sheet c)
    (hok : ((filing p kind path c).apply p.files).1.isOk = true) :
    ∃ a q, (compileTables [path] label).apply p = (.ok [a], q) := by
  obtain ⟨a, q, hnext⟩ := exists_compileNext_of_compilesTo hc hok
  rw [apply_compileTables, List.map_singleton, compileEach_cons htable, hnext]
  exact ⟨a, _, rfl⟩

/-- A batch that gives the result of its one workbook has compiled it. Then the file of the manifest
holds the manifest. The script of the table holds what was rendered and the data file of a Convert
table the records that were read, each unless it lies where the manifest does. -/
theorem contents_of_compileTables (h : (compileTables [path] label).apply p = (.ok [a], q)) :
    ∃ place kind sheet c, p.loaded.manifest = .text place ∧
      CompilesTo p.loaded label path p.files kind sheet c ∧
      a = .ofTexts kind.name (tableNameOf path) path
        (outputPlaces p.loaded kind (tableNameOf path)) ∧
      q.files.read place = .ok (.text q.manifest.print) ∧
      c.StandsBeside place p.loaded kind (tableNameOf path) q.files := by
  obtain ⟨r, hnext, hmanifest, hfiles⟩ := compileNext_of_compileTables h
  obtain ⟨place, kind, sheet, c, hplace, hcompiles, hrecords, -, hread, hbeside⟩ :=
    compileNext_eq_some hnext
  rw [hmanifest, hfiles]
  exact ⟨place, kind, sheet, c, hplace, hcompiles, hrecords.eq, hread, hbeside⟩

end Action

/-! ## One directory for everything -/

/-- A table of one record. -/
def oneRecordCells : List (List CellValue) := [[.text "ID"], [.text "string"], [.text "1"]]

/-- A project with one directory for scripts, data files and the manifest, and with workbooks of two
tables. One table has the name of the manifest's file. -/
def sharedProject : Project :=
  .ofFiles (.ofDirectories "Out" "Out")
    ⟨[(["Item.xlsx"], .file (.workbook oneRecordCells)),
      (["ParseResult.xlsx"], .file (.workbook oneRecordCells))]⟩ "Out"

/-- What a table of one record compiles to. -/
def oneRecordCompiled (table : String) : Compiled :=
  ⟨Template.lines (Template.convertScriptTexts table []), some [⟨"1", [("ID", .text "1")]⟩],
    .convertParsed table 0 1⟩

lemma compilesTo_sharedProject :
    ∀ path ∈ ["Item.xlsx", "ParseResult.xlsx"],
      CompilesTo sharedProject.loaded "Convert" path sharedProject.files .convert
        (.ofCells oneRecordCells) (oneRecordCompiled (tableNameOf path)) := by
  have hcompiled {table : String} (h : Text.isIdentifier table = true) :
      compiledIn sharedProject.loaded .convert table (.ofCells oneRecordCells)
        sharedProject.files = .ok (oneRecordCompiled table) :=
    compiledIn_convert rfl rfl h rfl rfl
  intro path hpath
  simp only [List.mem_cons, List.not_mem_nil, or_false] at hpath
  rcases hpath with rfl | rfl
  · exact ⟨by decide, rfl, hcompiled (by decide)⟩
  · exact ⟨by decide, rfl, hcompiled (by decide)⟩

lemma exists_compileTables_sharedProject :
    ∀ path ∈ ["Item.xlsx", "ParseResult.xlsx"], ∃ a q,
      (Action.compileTables [path] "Convert").apply sharedProject = (.ok [a], q) := by
  have hfiled : ∀ path ∈ ["Item.xlsx", "ParseResult.xlsx"], isTableFile path = true ∧
      ((Action.filing sharedProject .convert path (oneRecordCompiled (tableNameOf path))).apply
        sharedProject.files).1.isOk = true := by
    decide +kernel
  intro path hpath
  obtain ⟨htable, hok⟩ := hfiled path hpath
  exact Action.exists_compileTables_of_compilesTo htable (compilesTo_sharedProject path hpath) hok

/-- The files of the first table and the manifest hold what they should. -/
theorem sharedProject_item : ∃ a q,
    (Action.compileTables ["Item.xlsx"] "Convert").apply sharedProject = (.ok [a], q) ∧
      q.files.read "Out/ParseResult.json" = .ok (.text q.manifest.print) ∧
      q.files.read "Out/Convert/Item.py" =
        .ok (.text (Template.lines (Template.convertScriptTexts "Item" []))) ∧
      q.files.read "Out/Item.json" = .ok (.text (printRecords [[("ID", .text "1")]])) := by
  obtain ⟨a, q, hrun⟩ := exists_compileTables_sharedProject "Item.xlsx" (by decide)
  have hcompiles := compilesTo_sharedProject "Item.xlsx" (by decide)
  obtain ⟨place, kind, sheet, c, hplace, hc, -, hmanifest, hbeside⟩ :=
    Action.contents_of_compileTables hrun
  obtain rfl := Json.text.inj hplace
  obtain ⟨rfl, rfl, rfl⟩ := hcompiles.unique hc
  obtain ⟨script, hscript, hread⟩ := hbeside.script
  obtain ⟨data, rows, hdata, hrows, -, hdataRead⟩ := hbeside.data rfl
  obtain rfl := Option.some.inj hscript
  obtain rfl := Option.some.inj hdata
  obtain rfl := Option.some.inj hrows
  exact ⟨a, q, hrun, hmanifest, hread (by decide), hdataRead (by decide)⟩

/-- The second table compiles and is recorded, and its data file does not hold its records: the
manifest has been written over it. -/
theorem sharedProject_parseResult : ∃ a q c rows data,
    (Action.compileTables ["ParseResult.xlsx"] "Convert").apply sharedProject = (.ok [a], q) ∧
      CompilesTo sharedProject.loaded "Convert" "ParseResult.xlsx" sharedProject.files .convert
        (.ofCells oneRecordCells) c ∧
      c.rows = some rows ∧ sharedProject.loaded.dataPath? "ParseResult" = some data ∧
      q.files.read data ≠ .ok (.text (printRecords (rows.map Row.cells))) := by
  obtain ⟨a, q, hrun⟩ := exists_compileTables_sharedProject "ParseResult.xlsx" (by decide)
  have hcompiles := compilesTo_sharedProject "ParseResult.xlsx" (by decide)
  obtain ⟨r, hnext, hmanifest, hfiles⟩ := Action.compileNext_of_compileTables hrun
  obtain ⟨place, kind, sheet, c, hplace, hc, hrecords, hinsert, hread, -⟩ :=
    Action.compileNext_eq_some hnext
  obtain rfl := Json.text.inj hplace
  obtain ⟨rfl, rfl, rfl⟩ := hcompiles.unique hc
  refine ⟨a, q, _, _, _, hrun, hcompiles, rfl, rfl, ?_⟩
  have hprinted : q.files.read "Out/ParseResult.json" = .ok (.text q.manifest.print) := by
    rw [hfiles, hmanifest]
    exact hread
  have hdiffers : (sharedProject.manifest.insert (.ofTexts "Convert" "ParseResult"
      "ParseResult.xlsx" ["Out/Convert/ParseResult.py", "Out/ParseResult.json"])).print ≠
        printRecords [[("ID", .text "1")]] := by
    decide +kernel
  intro hrecord
  rw [hmanifest, hinsert, hrecords.eq] at hprinted
  exact hdiffers (Content.text.inj (Except.ok.inj (hprinted.symm.trans hrecord)))

end SheetCompiler
