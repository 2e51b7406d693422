import SheetCompiler.Proofs.Compile.Abort
import SheetCompiler.Proofs.Compile.Outputs
import SheetCompiler.Proofs.Registry.Reload

/-!
# Loading what a table compiled to

From a sheet to the values of its cells: a Convert table that compiles writes its rows to its data
file, and a table that is declared with its columns loads them from there.
-/

namespace SheetCompiler

open SheetCompiler.Stateful SheetCompiler.Path

/-! ## The data file of a table -/

/-- A Convert table that compiles has written its rows to its data file. -/
theorem readText_of_compileSheet {s : Settings} {p q : Project} {table source : String}
    {sheet : Sheet} {c : Compilation}
    (h : (Action.compileSheet s .convert table source sheet).apply p = (.ok c, q)) :
    ∃ directory columns rows, s.data = .text directory ∧
      readColumns sheet (.ofFiles s p.files (some table)) = .ok columns ∧
      readRows sheet columns (.ofFiles s p.files (some table)) = .ok rows ∧
      q.files.readText (join directory (table ++ ".json")) =
        .ok (printRecords (rows.map Row.cells)) := by
  have hf := (Action.shows_compileSheet s .convert table source sheet p).apply_eq_ok h
  obtain ⟨compiled, t, hcompiled, hf⟩ := apply_bind_eq_ok.1 hf
  rw [Filing.apply_asks, Prod.mk.injEq] at hcompiled
  obtain ⟨hcompiled, rfl⟩ := hcompiled
  obtain ⟨outputs, t, hwriting, hf⟩ := apply_bind_eq_ok.1 hf
  obtain ⟨-, hfiles⟩ := Prod.mk.inj hf
  rw [← hfiles]
  -- the sheet is read
  unfold compiledIn at hcompiled
  split at hcompiled
  · rename_i hident
    obtain ⟨_, -, hcompiled⟩ := except_bind_eq_ok.1 hcompiled
    obtain ⟨columns, hcolumns, hcompiled⟩ := except_bind_eq_ok.1 hcompiled
    obtain ⟨rows, hrows, hcompiled⟩ := except_bind_eq_ok.1 hcompiled
    obtain ⟨templates, -, hcompiled⟩ := except_bind_eq_ok.1 hcompiled
    obtain ⟨script, -, hcompiled⟩ := except_bind_eq_ok.1 hcompiled
    cases hcompiled
    rw [mapError_eq_ok] at hcolumns hrows
    -- its rows are written, and then the script is written elsewhere
    obtain ⟨data, t, hdata, hwriting⟩ := apply_bind_eq_ok.1 hwriting
    obtain ⟨place, u, hscript, hwriting⟩ := apply_bind_eq_ok.1 hwriting
    cases hwriting
    obtain ⟨hdataPlace, hdata⟩ := Filing.write_eq_ok hdata
    obtain ⟨hscriptPlace, hscript⟩ := Filing.write_eq_ok hscript
    have hne : location data ≠ location place :=
      @location_data_ne_script s .convert table table data place hident hident hdataPlace
        hscriptPlace
    have hread := (FileTree.changesAt_writeAtomic hscript).readText hne
      (FileTree.readText_of_writeAtomic hdata)
    obtain ⟨directory, hdirectory, rfl⟩ := Settings.dataPath?_eq_some hdataPlace
    exact ⟨directory, columns, rows, hdirectory, hcolumns, hrows, hread⟩
  · cases hcompiled

/-! ## Loading the data file -/

namespace Registry

/-- A registry in which a table is declared and nothing has been read from a directory of data
files. -/
def declaring (r : Registry) (directory table : String) (type : RecordType) : Registry :=
  (r.configure directory).declareTable table type

/-- What a registry keeps of a table whose records it has read. -/
def keeping (r : Registry) (table : String) (type : RecordType) (records : List StoredRecord) :
    Registry :=
  { r with tables := r.tables.put table ⟨type, some records⟩ }

lemma get?_declaring (r : Registry) (directory table : String) (type : RecordType) :
    (r.declaring directory table type).tables.get? table = some ⟨type, none⟩ :=
  Pairs.get?_put_self _ _ _

lemma dataPath_declaring (r : Registry) (directory table : String) (type : RecordType) :
    (r.declaring directory table type).dataPath table = join directory (table ++ ".json") := rfl

lemma get?_keeping (r : Registry) (table : String) (type : RecordType)
    (records : List StoredRecord) :
    (r.keeping table type records).tables.get? table = some ⟨type, some records⟩ :=
  Pairs.get?_put_self _ _ _

/-- The records of a table that has not been read yet are those of its data file. -/
lemma apply_rows {r : Registry} {table : String} {type : RecordType}
    (ht : r.tables.get? table = some ⟨type, none⟩) (files : FileTree) :
    (rows files table).apply r =
      match readRecords files type (r.dataPath table) with
      | .ok records => (.ok records, r.keeping table type records)
      | .error e => (.error e, r) := by
  have htable : (Registry.table table).apply r = (.ok ⟨type, none⟩, r) := by
    simp [Registry.table, ht]
  rw [rows, apply_bind_of_ok htable]
  dsimp only
  rw [apply_bind, apply_get]
  dsimp only
  cases readRecords files type (r.dataPath table) with
  | error e => rfl
  | ok records => rfl

/-- The data file of rows gives the records of the rows. -/
lemma readRecords_of_rows {files : FileTree} {path : String} {rows : List Row}
    (ht : ∀ row ∈ rows, row.toJson.IsTextual)
    (h : files.readText path = .ok (printRecords (rows.map Row.cells))) (type : RecordType) :
    readRecords files type path = recordsOf type (.list (rows.map Row.toJson)) := by
  have hprint : printRecords (rows.map Row.cells) = (Json.list (rows.map Row.toJson)).print := by
    rw [printRecords, List.map_map]
    rfl
  have htextual : (Json.list (rows.map Row.toJson)).IsTextual := by
    refine .list fun item hitem => ?_
    obtain ⟨row, hrow, rfl⟩ := List.mem_map.1 hitem
    exact ht row hrow
  rw [readRecords, h, hprint]
  change ((Json.read _).mapError Failure.json >>= _) = _
  rw [Json.read_print htextual]
  rfl

end Registry

/-- The rows of a data file are loaded unless there are some and a column has the name of what makes
a record. -/
lemma rows_cases {files : FileTree} {sheet : Sheet} {columns : List Column} {resolver : Resolver}
    {rows : List Row} {directory table : String} {type : RecordType}
    (hcolumns : readColumns sheet resolver = .ok columns)
    (hrows : readRows sheet columns resolver = .ok rows)
    (hread : files.readText (join directory (table ++ ".json")) =
      .ok (printRecords (rows.map Row.cells)))
    (hfields : type.fields = columns.map Column.field) (r : Registry) :
    ((rows = [] ∨ ∀ c ∈ columns, c.name ∉ makerNames) ∧
        (Registry.rows files table).apply (r.declaring directory table type) =
          (.ok (rows.map Registry.recordOfRow),
            (r.declaring directory table type).keeping table type
              (rows.map Registry.recordOfRow))) ∨
      (¬ (rows = [] ∨ ∀ c ∈ columns, c.name ∉ makerNames) ∧
        ∃ fault, (Registry.rows files table).apply (r.declaring directory table type) =
          (.error fault, r.declaring directory table type)) := by
  obtain ⟨hall, hn⟩ := readRowsFrom_eq_ok hrows
  have hget : ∀ row ∈ rows, Pairs.get? row.cells idName = some (.text row.id) := by
    intro row hrow
    obtain ⟨index, hi⟩ := exists_isOf_of_mem hall hrow
    exact hi.get?_idName (idName_not_mem_keys hcolumns)
  have htextual : ∀ row ∈ rows, row.toJson.IsTextual := by
    intro row hrow
    obtain ⟨index, hi⟩ := exists_isOf_of_mem hall hrow
    exact isTextual_toJson hi
  have happly := Registry.apply_rows (r.get?_declaring directory table type) files
  rw [Registry.dataPath_declaring, Registry.readRecords_of_rows htextual hread] at happly
  rw [← makingFault?_eq_none_iff hfields]
  rcases Registry.recordsOf_rows_cases type hget hn with
    ⟨hcase, hrecords⟩ | ⟨hcase, fault, hrecords⟩
  · rw [hrecords] at happly
    exact .inl ⟨hcase, happly⟩
  · rw [hrecords] at happly
    exact .inr ⟨hcase, fault, happly⟩

/-- What a record has to do with a data row in a registry that has loaded it. The record is found by
the ID of the row and holds what the columns store of the row. A column is read as its field: a cell
that is left out gives nothing, and a primitive cell gives the values of its elements. But where a
column has the name of the field that is asked for everything, no name can be read. -/
structure StoredRecord.Mirrors (files : FileTree) (sheet : Sheet) (columns : List Column)
    (table : String) (loaded : Registry) (row : Nat) (record : StoredRecord) : Prop where
  key : record.key = .text (sheet.cell row 0)
  cells : ∀ c ∈ columns, Pairs.get? record.cells c.key =
    if c.isHeld sheet row = true then some (c.stored sheet row) else none
  excluded : (∀ c ∈ columns, c.name ≠ Registry.firstResort) →
    ∀ c ∈ columns, c.name ≠ Registry.rowName → c.isHeld sheet row = false →
      (Registry.attributeOf files table (.text (sheet.cell row 0)) c.name).apply loaded =
        (.ok (.stored .null), loaded)
  values : (∀ c ∈ columns, c.name ≠ Registry.firstResort) →
    ∀ c ∈ columns, c.name ≠ Registry.rowName → c.isHeld sheet row = true → c.kind = .primitive →
      ∃ values v,
        List.Forall₂ (fun text v => loaded.convert c.type (.text text) = .ok v)
          (splitCell (sheet.cell row c.index)) values ∧
        (Registry.attributeOf files table (.text (sheet.cell row 0)) c.name).apply loaded =
          (.ok v, loaded) ∧
        c.Gives values v
  endless : (∃ c ∈ columns, c.name = Registry.firstResort) →
    ∀ name, (Registry.attributeOf files table (.text (sheet.cell row 0)) name).apply loaded =
      (.error (.script Registry.endless), loaded)

/-- The records of rows that have been loaded mirror the rows. -/
lemma mirrors_of_loaded (files : FileTree) {sheet : Sheet} {columns : List Column}
    {resolver : Resolver} {table : String} {type : RecordType} {loaded : Registry}
    (hcolumns : readColumns sheet resolver = .ok columns) (hkeys : (columns.map Column.key).Nodup)
    (hfields : type.fields = columns.map Column.field) {indices : List Nat} {rows : List Row}
    (hall : List.Forall₂ (Row.IsOf sheet columns resolver) indices rows)
    (hn : (rows.map Row.id).Nodup)
    (hloaded : loaded.tables.get? table = some ⟨type, some (rows.map Registry.recordOfRow)⟩) :
    List.Forall₂ (StoredRecord.Mirrors files sheet columns table loaded) indices
      (rows.map Registry.recordOfRow) := by
  obtain ⟨-, hnames, -⟩ := isRead_of_readColumns hcolumns
  have hid := idName_not_mem_keys hcolumns
  have hlast : type.hasField Registry.firstResort = true ↔
      ∃ c ∈ columns, c.name = Registry.firstResort := hasField_iff hfields _
  rw [List.forall₂_map_right_iff, List.forall₂_iff_zip]
  refine ⟨hall.length_eq, fun {index row} hzip => ?_⟩
  have hrow : row.IsOf sheet columns resolver index := List.forall₂_zip hall hzip
  have hmem : row ∈ rows := (List.of_mem_zip hzip).2
  have hcells (c : Column) (hc : c ∈ columns) := hrow.get?_key hid hkeys hc
  have hlookup (name : String) :
      (Registry.attributeOf files table (.text (sheet.cell index 0)) name).apply loaded =
        (Registry.attributeIn files type (Registry.recordOfRow row) name).apply loaded := by
    rw [← hrow.id]
    exact Registry.attributeOf_of_loaded hloaded rfl rfl (Registry.findRecord?_rows hn hmem) files
      name
  have hfield (hnone : ∀ c ∈ columns, c.name ≠ Registry.firstResort) (c : Column)
      (hc : c ∈ columns) (hne : c.name ≠ Registry.rowName) :
      (Registry.attributeOf files table (.text (sheet.cell index 0)) c.name).apply loaded =
        (Registry.fieldValue files c.field (Registry.recordOfRow row)).apply loaded := by
    have hfirst : type.hasField Registry.firstResort = false := by
      rw [Bool.eq_false_iff, Ne, hlast]
      rintro ⟨d, hd, hname⟩
      exact hnone d hd hname
    rw [hlookup, Registry.attributeIn_of_column hfields hnames hc hfirst hne]
  refine ⟨by rw [Registry.recordOfRow, hrow.id], hcells, ?_, ?_, ?_⟩
  · intro hnone c hc hne hheld
    have hcell := hcells c hc
    rw [hheld, if_neg Bool.false_ne_true] at hcell
    rw [hfield hnone c hc hne]
    exact Registry.fieldValue_of_none hcell files loaded
  · intro hnone c hc hne hheld hkind
    have hcell := hcells c hc
    rw [if_pos hheld] at hcell
    rw [hfield hnone c hc hne]
    have hcheck := (readCells_eq_ok hrow.cells).2 c hc hheld
    exact Registry.fieldValue_of_primitive hkind hcheck hcell files loaded
  · intro hfirst name
    rw [hlookup]
    exact Registry.attributeIn_of_firstResort (hlast.2 hfirst) files _ name

/-- A Convert table that compiles is loaded as it stands in its sheet, if the keys of its columns
are distinct. It can be declared unless a column has a name that no field can have, and its records
are loaded unless there are some and a column has the name of what makes a record. The records are
found by the IDs of the data rows, in order, and each of them mirrors its row. -/
theorem compileSheet_reloads {s : Settings} {p q : Project} {table source : String} {sheet : Sheet}
    {c : Compilation}
    (h : (Action.compileSheet s .convert table source sheet).apply p = (.ok c, q)) :
    ∃ directory columns, s.data = .text directory ∧
      readColumns sheet (.ofFiles s p.files (some table)) = .ok columns ∧
      ((columns.map Column.key).Nodup → ∀ (r : Registry) (name : String),
        ((RecordType.ofFields? name (columns.map Column.field)).isSome = true ↔
          ∀ c ∈ columns, c.name ∉ unusableFields) ∧
        ∀ type, RecordType.ofFields? name (columns.map Column.field) = some type →
          ((∃ records loaded, (Registry.rows q.files table).apply
              (r.declaring directory table type) = (.ok records, loaded)) ↔
            dataRowsFrom sheet firstDataRow = [] ∨ ∀ c ∈ columns, c.name ∉ makerNames) ∧
          ∀ records loaded, (Registry.rows q.files table).apply
              (r.declaring directory table type) = (.ok records, loaded) →
            records.map StoredRecord.key =
              (dataRowsFrom sheet firstDataRow).map (fun row => .text (sheet.cell row 0)) ∧
            List.Forall₂ (StoredRecord.Mirrors q.files sheet columns table loaded)
              (dataRowsFrom sheet firstDataRow) records) := by
  obtain ⟨directory, columns, rows, hdirectory, hcolumns, hrows, hread⟩ :=
    readText_of_compileSheet h
  refine ⟨directory, columns, hdirectory, hcolumns, fun hkeys r name => ?_⟩
  obtain ⟨-, hnames, -⟩ := isRead_of_readColumns hcolumns
  refine ⟨isSome_ofFields? hnames name, fun type htype => ?_⟩
  have hfields := fields_of_ofFields? hnames htype
  obtain ⟨hall, hn⟩ := readRowsFrom_eq_ok hrows
  have hempty : dataRowsFrom sheet firstDataRow = [] ↔ rows = [] := by
    rw [← List.length_eq_zero_iff, hall.length_eq, List.length_eq_zero_iff]
  rw [hempty]
  rcases rows_cases hcolumns hrows hread hfields r with ⟨hcase, happly⟩ | ⟨hcase, fault, happly⟩
  · refine ⟨⟨fun _ => hcase, fun _ => ⟨_, _, happly⟩⟩, fun records loaded hload => ?_⟩
    rw [happly] at hload
    cases hload
    have hmirrors := mirrors_of_loaded q.files hcolumns hkeys hfields hall hn
      (Registry.get?_keeping (r.declaring directory table type) table type _)
    refine ⟨?_, hmirrors⟩
    rw [← List.forall₂_eq_eq_eq, List.forall₂_map_left_iff, List.forall₂_map_right_iff]
    exact (hmirrors.imp fun row record hm => hm.key).flip
  · refine ⟨⟨?_, fun hc => absurd hc hcase⟩, ?_⟩
    · rintro ⟨records, loaded, hload⟩
      rw [happly] at hload
      cases hload
    · intro records loaded hload
      rw [happly] at hload
      cases hload

/-- What a sheet compiles to is written where its files are admitted. -/
lemma exists_compileSheet_of_compiledIn {s : Settings} {p : Project} {kind : TableKind}
    {table : String} {sheet : Sheet} {c : Compiled}
    (hc : compiledIn s kind table sheet p.files = .ok c)
    (hadmits : p.files.AdmitsTable s kind table) (source : String) :
    ∃ a q, (Action.compileSheet s kind table source sheet).apply p = (.ok a, q) := by
  obtain ⟨hident, hrows⟩ := rows_of_compiledIn hc
  obtain ⟨outputs, u, hwriting⟩ := writing_of_admits hident hrows.1 hadmits
  obtain ⟨registry, events, -, hshown⟩ := Action.shows_compileSheet s kind table source sheet p
  rw [Filing.apply_asks_bind, hc] at hshown
  dsimp only at hshown
  rw [apply_bind_of_ok hwriting] at hshown
  exact ⟨_, _, hshown⟩

/-- A sheet that is accepted compiles where its files can be written. -/
lemma exists_compileSheet {s : Settings} {p : Project} {table scripts : String} {sheet : Sheet}
    {columns : List Column} {rows : List Row} (hs : s.scripts = .text scripts)
    (ht : s.templates = none) (hident : Text.isIdentifier table = true)
    (hcolumns : readColumns sheet (.ofFiles s p.files (some table)) = .ok columns)
    (hrows : readRows sheet columns (.ofFiles s p.files (some table)) = .ok rows)
    (hadmits : p.files.AdmitsTable s .convert table) (source : String) :
    ∃ c q, (Action.compileSheet s .convert table source sheet).apply p = (.ok c, q) :=
  exists_compileSheet_of_compiledIn (compiledIn_convert hs ht hident hcolumns hrows) hadmits source

/-- A sheet of items that is accepted compiles in a project without files. -/
lemma exists_compileSheet_empty {sheet : Sheet} {columns : List Column} {rows : List Row}
    (hcolumns : readColumns sheet
      (.ofFiles Project.empty.loaded Project.empty.files (some "Item")) = .ok columns)
    (hrows : readRows sheet columns
      (.ofFiles Project.empty.loaded Project.empty.files (some "Item")) = .ok rows) :
    ∃ c q, (Action.compileSheet Project.empty.loaded .convert "Item" "Item.xlsx" sheet).apply
      Project.empty = (.ok c, q) := by
  have hplaces : outputPlaces Project.empty.loaded .convert "Item" =
      ["Dist/Convert/Item.py", "Resources/Item.json"] := by decide
  have hident : Text.isIdentifier "Item" = true := by decide
  have hadmits : Project.empty.files.AdmitsTable Project.empty.loaded .convert "Item" := by
    refine ⟨rfl, fun _ => rfl, ?_, ?_⟩ <;> rw [hplaces]
    · decide +kernel
    · decide +kernel
  exact exists_compileSheet rfl rfl hident hcolumns hrows hadmits _

/-- The table whose rows refer to one another is loaded from the file that it compiles to. -/
theorem itemSheet_reloads :
    ∃ c q type records loaded,
      (Action.compileSheet Project.empty.loaded .convert "Item" "Item.xlsx" itemSheet).apply
        Project.empty = (.ok c, q) ∧
      (Registry.rows q.files "Item").apply
        ((Registry.empty "Resources").declaring "Resources" "Item" type) = (.ok records, loaded) ∧
      records.map StoredRecord.key = [.text "1", .text "2"] ∧
      (Registry.attributeOf q.files "Item" (.text "1") "Parts").apply loaded =
        (.ok (.list [.stored (.integer 7), .stored (.integer 8)]), loaded) := by
  have hitems : readColumns itemSheet
      (.ofFiles Project.empty.loaded Project.empty.files (some "Item")) =
        .ok [⟨1, "Next", "TbItem", false⟩, ⟨2, "Parts", "int", true⟩] := rfl
  obtain ⟨c, q, hcompile⟩ := exists_compileSheet_empty hitems rfl
  obtain ⟨directory, columns, hdirectory, hcolumns, hreload⟩ := compileSheet_reloads hcompile
  rw [hitems] at hcolumns
  cases hcolumns
  cases hdirectory
  obtain ⟨hdeclared, hloads⟩ := hreload (by decide) (.empty "Resources") "TbItemType"
  obtain ⟨type, htype⟩ := Option.isSome_iff_exists.1 (hdeclared.2 (by decide))
  obtain ⟨hiff, hall⟩ := hloads type htype
  obtain ⟨records, loaded, hrows⟩ := hiff.2 (.inr (by decide))
  obtain ⟨hids, hmirrors⟩ := hall records loaded hrows
  have hindices : dataRowsFrom itemSheet firstDataRow = [2, 3] := by decide
  rw [hindices] at hids hmirrors
  refine ⟨c, q, type, records, loaded, hcompile, hrows, hids, ?_⟩
  obtain ⟨record, rest, hrecord, -, -⟩ := List.forall₂_cons_left_iff.1 hmirrors
  obtain ⟨values, v, hvalues, hread, hgives⟩ :=
    hrecord.values (by decide) ⟨2, "Parts", "int", true⟩ (by decide) (by decide) (by decide)
      (by decide)
  have hlines : splitCell (itemSheet.cell 2 2) = ["7", "8"] := by decide
  rw [hlines] at hvalues
  obtain ⟨a, others, ha, hothers, rfl⟩ := List.forall₂_cons_left_iff.1 hvalues
  obtain ⟨b, none, hb, hnone, rfl⟩ := List.forall₂_cons_left_iff.1 hothers
  obtain rfl := List.forall₂_nil_left_iff.1 hnone
  have hseven : loaded.convert "int" (.text "7") = .ok (.stored (.integer 7)) := rfl
  have height : loaded.convert "int" (.text "8") = .ok (.stored (.integer 8)) := rfl
  rw [hseven] at ha
  rw [height] at hb
  cases ha
  cases hb
  rw [Column.Gives, if_pos rfl] at hgives
  rw [← hgives]
  exact hread

/-- A table with a column that has the name of what makes a record. -/
def makerSheet : Sheet :=
  ⟨[["ID", "Count", "__init__"], ["string", "int", "string"], ["1", "2", "x"]]⟩

/-- It compiles under distinct keys and can be declared, but its row cannot be loaded. -/
theorem makerSheet_rows :
    ∃ c q columns type,
      (Action.compileSheet Project.empty.loaded .convert "Item" "Item.xlsx" makerSheet).apply
        Project.empty = (.ok c, q) ∧
      readColumns makerSheet (.ofFiles Project.empty.loaded Project.empty.files (some "Item")) =
        .ok columns ∧
      (columns.map Column.key).Nodup ∧
      RecordType.ofFields? "TbItemType" (columns.map Column.field) = some type ∧
      ¬ ∃ records loaded, (Registry.rows q.files "Item").apply
        ((Registry.empty "Resources").declaring "Resources" "Item" type) =
          (.ok records, loaded) := by
  have hmakers : readColumns makerSheet
      (.ofFiles Project.empty.loaded Project.empty.files (some "Item")) =
        .ok [⟨1, "Count", "int", false⟩, ⟨2, "__init__", "string", false⟩] := rfl
  obtain ⟨c, q, hcompile⟩ := exists_compileSheet_empty hmakers rfl
  obtain ⟨directory, columns, rows, hdirectory, hcolumns, hrows, hread⟩ :=
    readText_of_compileSheet hcompile
  rw [hmakers] at hcolumns
  cases hcolumns
  cases hdirectory
  have hnames : ([⟨1, "Count", "int", false⟩, ⟨2, "__init__", "string", false⟩] : List Column).map
      Column.name = ["Count", "__init__"] := rfl
  obtain ⟨type, htype⟩ := Option.isSome_iff_exists.1
    ((isSome_ofFields? (by rw [hnames]; decide) "TbItemType").2 (by decide))
  refine ⟨c, q, _, type, hcompile, hmakers, by decide, htype, ?_⟩
  have hfields := fields_of_ofFields? (by rw [hnames]; decide) htype
  rcases rows_cases hmakers hrows hread hfields (.empty "Resources") with
    ⟨hcase | hcase, -⟩ | ⟨-, fault, happly⟩
  · have hlength : (dataRowsFrom makerSheet firstDataRow).length = 0 := by
      rw [(readRowsFrom_eq_ok hrows).1.length_eq, hcase, List.length_nil]
    exact absurd hlength (by decide)
  · exact absurd (hcase ⟨2, "__init__", "string", false⟩ (by decide)) (by decide)
  · rintro ⟨records, loaded, hload⟩
    rw [happly] at hload
    cases hload

end SheetCompiler
