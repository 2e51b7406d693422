import SheetCompiler.Proofs.Json.RoundTrip
import SheetCompiler.Proofs.Number.Conversion
import SheetCompiler.Proofs.Table.Rows
import SheetCompiler.Registry.Value

/-!
# Loading the records of a table

A table is declared with one field for each column (`Column.field`), and its records are those of
the data file that its rows are written to. Two things can keep them from being made: a field with a
name that no field can have, and a field with the name of what makes a record (`makerNames`).

Main statements:

* `isSome_ofFields?` and `makingFault?_eq_none_iff`: which columns records can be made with;
* `recordsOf_rows`: the records of the rows of a table;
* `resolve_of_isValid`: what the field of a cell gives that has passed its check.
-/

namespace SheetCompiler

open SheetCompiler.Stateful SheetCompiler.Text

/-! ## Record types of columns -/

/-- The field that a column is declared as. -/
def Column.field (c : Column) : Field := ⟨c.name, c.type, c.isArray, c.isReference⟩

@[simp] lemma Column.name_field (c : Column) : c.field.name = c.name := rfl

@[simp] lemma Column.key_field (c : Column) : c.field.key = c.key := rfl

/-- What the field of a column gives of the values of the elements of a cell: the list of them in
an array column, and else the only one. -/
def Column.Gives (c : Column) (values : List Value) (v : Value) : Prop :=
  if c.isArray = true then v = .list values else values = [v]

/-- Fields of distinct names make a record type unless one has a name that no field can have. -/
lemma ofFields?_columns {columns : List Column} (h : (columns.map Column.name).Nodup)
    (name : String) :
    RecordType.ofFields? name (columns.map Column.field) =
      if (columns.map Column.name).any unusableFields.contains then none
      else some ⟨name, columns.map Column.field, [(descriptionName, .null)]⟩ := by
  have hnames : Pairs.names ((columns.map Column.field).map fun f => (f.name, f)) =
      columns.map Column.name := by
    rw [Pairs.names, List.map_map, List.map_map]
    rfl
  have hfields : ((columns.map Column.field).map fun f => (f.name, f)).map Prod.snd =
      columns.map Column.field := by
    rw [List.map_map]
    exact List.map_id _
  unfold RecordType.ofFields?
  dsimp only
  rw [Pairs.ofList_of_nodup (by rwa [hnames]), hnames, hfields]

/-- Which columns a record type can be declared with. -/
theorem isSome_ofFields? {columns : List Column} (h : (columns.map Column.name).Nodup)
    (name : String) :
    (RecordType.ofFields? name (columns.map Column.field)).isSome = true ↔
      ∀ c ∈ columns, c.name ∉ unusableFields := by
  rw [ofFields?_columns h]
  split
  · rename_i hany
    rw [List.any_eq_true] at hany
    obtain ⟨n, hn, hbad⟩ := hany
    obtain ⟨c, hc, rfl⟩ := List.mem_map.1 hn
    simp only [Option.isSome_none, Bool.false_eq_true, false_iff]
    exact fun hall => hall c hc (by simpa using hbad)
  · rename_i hany
    simp only [Option.isSome_some, true_iff]
    intro c hc hbad
    exact hany (List.any_eq_true.2 ⟨c.name, List.mem_map_of_mem hc, by simpa using hbad⟩)

lemma fields_of_ofFields? {columns : List Column} (h : (columns.map Column.name).Nodup)
    {name : String} {type : RecordType}
    (ht : RecordType.ofFields? name (columns.map Column.field) = some type) :
    type.fields = columns.map Column.field := by
  rw [ofFields?_columns h] at ht
  split at ht
  · cases ht
  · cases ht
    rfl

section Fields

variable {columns : List Column} {type : RecordType}

/-- A record type has a field of a name just if a column has it. -/
lemma hasField_iff (hf : type.fields = columns.map Column.field) (name : String) :
    type.hasField name = true ↔ ∃ c ∈ columns, c.name = name := by
  rw [RecordType.hasField, RecordType.field?, hf, List.find?_isSome]
  constructor
  · rintro ⟨f, hf', hname⟩
    obtain ⟨c, hc, rfl⟩ := List.mem_map.1 hf'
    exact ⟨c, hc, of_decide_eq_true hname⟩
  · rintro ⟨c, hc, rfl⟩
    exact ⟨c.field, List.mem_map_of_mem hc, by simp⟩

/-- The field of the name of a column is that of the column. -/
lemma field?_name (hf : type.fields = columns.map Column.field)
    (h : (columns.map Column.name).Nodup) {c : Column} (hc : c ∈ columns) :
    type.field? c.name = some c.field := by
  have hsome : (type.field? c.name).isSome = true := (hasField_iff hf c.name).2 ⟨c, hc, rfl⟩
  obtain ⟨f, hfind⟩ := Option.isSome_iff_exists.1 hsome
  have hname : f.name = c.name := by simpa using List.find?_some hfind
  have hmem : f ∈ columns.map Column.field := hf ▸ List.mem_of_find?_eq_some hfind
  obtain ⟨d, hd, rfl⟩ := List.mem_map.1 hmem
  rw [hfind, List.inj_on_of_nodup_map h hd hc hname]

/-- The names of what makes a record. -/
def makerNames : List String := ["__new__", "__init__", "__setattr__"]

/-- Which columns records can be made with. -/
theorem makingFault?_eq_none_iff (hf : type.fields = columns.map Column.field) :
    type.makingFault? = none ↔ ∀ c ∈ columns, c.name ∉ makerNames := by
  have hall : (∀ c ∈ columns, c.name ∉ makerNames) ↔
      ∀ name ∈ makerNames, type.hasField name = false := by
    constructor
    · intro h name hname
      rw [Bool.eq_false_iff, Ne, hasField_iff hf]
      rintro ⟨c, hc, rfl⟩
      exact h c hc hname
    · intro h c hc hname
      have := h c.name hname
      rw [Bool.eq_false_iff, Ne, hasField_iff hf] at this
      exact this ⟨c, hc, rfl⟩
  rw [hall, makerNames, RecordType.makingFault?]
  split
  · rename_i hnew
    simp [hnew]
  · split
    · rename_i hother
      simp only [reduceCtorEq, List.forall_mem_cons, false_iff]
      rcases hother with hother | hother <;> simp [hother]
    · rename_i hnew hother
      rw [not_or] at hother
      simp [hnew, hother]

end Fields

/-! ## Records of rows -/

/-- The record of a row holds texts and lists of texts under distinct names. -/
lemma isTextual_toJson {sheet : Sheet} {columns : List Column} {resolver : Resolver} {r : Nat}
    {row : Row} (h : row.IsOf sheet columns resolver r) : row.toJson.IsTextual := by
  have hcells := (readCells_eq_ok h.cells).1
  have hstored (c : Column) : (c.stored sheet r).IsTextual := by
    rw [Column.stored, storedCell]
    split
    · exact Json.isTextual_ofTexts _
    · exact .text _
  refine .object ?_ fun m hm => ?_
  · rw [hcells]
    exact Pairs.nodup_names_putAll (by simp [Pairs.names]) _
  · rw [hcells] at hm
    rcases Pairs.mem_putAll hm with hm | hm
    · obtain rfl := List.mem_singleton.1 hm
      exact .text _
    · obtain ⟨c, -, -, -, hv⟩ := mem_storedBy hm
      rw [← hv]
      exact hstored c

/-- A cell of one line is its only element. -/
lemma splitCell_of_length_le_one {cell : String} (h : (splitCell cell).length ≤ 1) :
    splitCell cell = [cell] := by
  rw [splitCell, pieces, List.length_map] at h
  have hjoin := joinWith_splitOn '\n' cell.toList
  rw [splitCell, pieces]
  cases hs : splitOn '\n' cell.toList with
  | nil => exact absurd hs (splitOn_ne_nil _ _)
  | cons piece rest =>
    rw [hs] at h hjoin
    obtain rfl : rest = [] := by
      rw [List.length_cons] at h
      exact List.eq_nil_of_length_eq_zero (by omega)
    rw [joinWith] at hjoin
    rw [hjoin, List.map_singleton, String.ofList_toList]

namespace Registry

/-- The record that is loaded of a row. -/
def recordOfRow (row : Row) : StoredRecord := ⟨.text row.id, row.cells⟩

/-- Records of new IDs are put behind the others. -/
lemma foldl_putRecord {rows : List Row} (done : List Row)
    (h : ((done ++ rows).map Row.id).Nodup) :
    (rows.map recordOfRow).foldl (fun acc record => putRecord record acc) (done.map recordOfRow) =
      (done ++ rows).map recordOfRow := by
  induction rows generalizing done with
  | nil => rw [List.append_nil, List.map_nil, List.foldl_nil]
  | cons row rows ih =>
    have hput (records : List Row) (hnew : row.id ∉ records.map Row.id) :
        putRecord (recordOfRow row) (records.map recordOfRow) =
          (records ++ [row]).map recordOfRow := by
      induction records with
      | nil => rfl
      | cons other records ih =>
        rw [List.map_cons, List.mem_cons, not_or] at hnew
        have hne : (recordOfRow other).key.isSameKey (recordOfRow row).key = false := by
          rw [recordOfRow, recordOfRow, Json.isSameKey_text, decide_eq_false_iff_not]
          exact Ne.symm hnew.1
        rw [List.map_cons, putRecord, hne, if_neg Bool.false_ne_true, ih hnew.2]
        rfl
    have hnew : row.id ∉ done.map Row.id := by
      rw [List.map_append, List.map_cons, List.nodup_append] at h
      intro hm
      exact h.2.2 _ hm _ (List.mem_cons_self ..) rfl
    rw [List.map_cons, List.foldl_cons, hput done hnew, ih (done ++ [row]) (by simpa using h)]
    simp

variable {type : RecordType} {rows : List Row}

/-- The records of rows are the rows, if records can be made. -/
theorem recordsOf_rows (hid : ∀ row ∈ rows, Pairs.get? row.cells idName = some (.text row.id))
    (hn : (rows.map Row.id).Nodup) (hm : type.makingFault? = none) :
    recordsOf type (.list (rows.map Row.toJson)) = .ok (rows.map recordOfRow) := by
  have hall : (rows.map Row.toJson).mapM (recordOf type) = .ok (rows.map recordOfRow) := by
    rw [mapM_eq_ok_iff, List.forall₂_map_left_iff, List.forall₂_map_right_iff]
    refine List.forall₂_same.2 fun row hrow => ?_
    rw [Row.toJson, recordOf, Json.members?]
    dsimp only
    rw [hid row hrow, hm]
    rfl
  have hput := foldl_putRecord [] hn
  rw [recordsOf, Json.elements?]
  dsimp only
  rw [hall]
  simp only [bind, Except.bind]
  rw [List.map_nil, List.nil_append] at hput
  rw [hput]
  rfl

/-- The first of the rows fails if records cannot be made. -/
lemma recordsOf_rows_of_fault {fault : Failure}
    (hid : ∀ row ∈ rows, Pairs.get? row.cells idName = some (.text row.id)) (hne : rows ≠ [])
    (hm : type.makingFault? = some fault) :
    recordsOf type (.list (rows.map Row.toJson)) = .error fault := by
  cases rows with
  | nil => exact absurd rfl hne
  | cons row rows =>
    have hfirst : recordOf type row.toJson = .error fault := by
      rw [Row.toJson, recordOf, Json.members?]
      dsimp only
      rw [hid row (by simp), hm]
    rw [recordsOf, Json.elements?]
    dsimp only
    rw [List.map_cons, List.mapM_cons, hfirst]
    rfl

/-- The records of rows can be loaded if there are none or records can be made. -/
lemma recordsOf_rows_cases (type : RecordType)
    (hid : ∀ row ∈ rows, Pairs.get? row.cells idName = some (.text row.id))
    (hn : (rows.map Row.id).Nodup) :
    ((rows = [] ∨ type.makingFault? = none) ∧
        recordsOf type (.list (rows.map Row.toJson)) = .ok (rows.map recordOfRow)) ∨
      (¬ (rows = [] ∨ type.makingFault? = none) ∧
        ∃ fault, recordsOf type (.list (rows.map Row.toJson)) = .error fault) := by
  by_cases hnil : rows = []
  · subst hnil
    exact .inl ⟨.inl rfl, rfl⟩
  · cases hm : type.makingFault? with
    | none => exact .inl ⟨.inr rfl, recordsOf_rows hid hn hm⟩
    | some fault =>
      exact .inr ⟨by simp [hnil], fault, recordsOf_rows_of_fault hid hnil hm⟩

/-- The record of a row is found by the ID of the row. -/
lemma findRecord?_rows (hn : (rows.map Row.id).Nodup) {row : Row} (hrow : row ∈ rows) :
    findRecord? (rows.map recordOfRow) (.text row.id) = some (recordOfRow row) := by
  induction rows with
  | nil => cases hrow
  | cons other rows ih =>
    rw [List.map_cons, List.nodup_cons] at hn
    rw [findRecord?, List.map_cons]
    rcases List.mem_cons.1 hrow with rfl | hrow
    · rw [List.find?_cons_of_pos (by simp [recordOfRow, Json.isSameKey_text])]
    · have hne : other.id ≠ row.id := fun h => hn.1 (h ▸ List.mem_map_of_mem hrow)
      rw [List.find?_cons_of_neg (by simp [recordOfRow, Json.isSameKey_text, hne])]
      exact ih hn.2 hrow

/-! ## Values of fields -/

variable {c : Column} {r : Registry}

/-- A text that has passed its check has a value. -/
theorem convert_of_isValid {type text : String} {p : Primitive}
    (hp : Primitive.ofName? type = some p) (h : p.isValid text = .ok true) (r : Registry) :
    ∃ v, r.convert type (.text text) = .ok v := by
  obtain ⟨v, hv⟩ := Primitive.convert_of_isValid h
  refine ⟨ofScalar v, ?_⟩
  rw [convert, convertText, hp]
  dsimp only
  rw [hv]
  rfl

lemma resolve_text {f : Field} (hf : f.isReference = false) {text : String} {v : Value}
    (h : r.convert f.type (.text text) = .ok v) (files : FileTree) :
    (resolve files f (.text text)).apply r = (.ok v, r) := by
  rw [resolve, hf, if_neg Bool.false_ne_true, apply_bind, apply_get]
  dsimp only
  rw [h]
  rfl

lemma resolveAll_texts {f : Field} (hf : f.isReference = false) {texts : List String}
    {values : List Value}
    (h : List.Forall₂ (fun text v => r.convert f.type (.text text) = .ok v) texts values)
    (files : FileTree) :
    (resolveAll files f (texts.map .text)).apply r = (.ok values, r) := by
  induction h with
  | nil => rfl
  | cons hv _ ih =>
    rw [List.map_cons, resolveAll, apply_bind_of_ok (resolve_text hf hv files),
      apply_bind_of_ok ih]
    rfl

/-- The field of a cell that has passed its check gives the values of its elements. -/
theorem fieldValue_of_primitive {sheet : Sheet} {row : Nat} {record : StoredRecord}
    {resolver : Resolver} {id : String} (hkind : c.kind = .primitive)
    (hcheck : checkCell resolver id c.name c.type c.kind c.isArray (sheet.cell row c.index) =
      .ok (splitCell (sheet.cell row c.index)))
    (hcell : Pairs.get? record.cells c.key = some (c.stored sheet row)) (files : FileTree)
    (r : Registry) :
    ∃ values v,
      List.Forall₂ (fun text v => r.convert c.type (.text text) = .ok v)
        (splitCell (sheet.cell row c.index)) values ∧
      (fieldValue files c.field record).apply r = (.ok v, r) ∧ c.Gives values v := by
  obtain ⟨-, -, hone, hvalid⟩ := checkCell_eq_ok hcheck
  obtain ⟨p, hp, hvalid⟩ := hvalid hkind
  have href : c.field.isReference = false := by
    simp [Column.field, Column.isReference, hkind]
  obtain ⟨values, hvalues⟩ := exists_mapM_eq_ok (f := fun text => r.convert c.type (.text text))
    fun text htext => convert_of_isValid hp (Primitive.areValid_eq_true hvalid text htext) r
  rw [mapM_eq_ok_iff] at hvalues
  cases ha : c.isArray with
  | true =>
    have hstored : c.stored sheet row = Json.ofTexts (splitCell (sheet.cell row c.index)) := by
      rw [Column.stored, storedCell, if_pos ha]
    refine ⟨values, .list values, hvalues, ?_, by rw [Column.Gives, if_pos ha]⟩
    have harray : c.field.isArray = true := ha
    rw [fieldValue, Column.key_field, hcell, hstored, Option.getD_some, Json.ofTexts]
    dsimp only
    rw [if_pos harray, Json.elements?]
    dsimp only
    rw [apply_bind_of_ok (resolveAll_texts href hvalues files)]
    rfl
  | false =>
    have hsplit := splitCell_of_length_le_one (hone ha)
    have hstored : c.stored sheet row = .text (sheet.cell row c.index) := by
      rw [Column.stored, storedCell, if_neg (by simp [ha])]
    rw [hsplit, List.forall₂_cons_left_iff] at hvalues
    obtain ⟨v, rest, hv, hrest, rfl⟩ := hvalues
    obtain rfl := List.forall₂_nil_left_iff.1 hrest
    refine ⟨[v], v, by rw [hsplit]; exact .cons hv .nil, ?_, by simp [Column.Gives, ha]⟩
    have harray : c.field.isArray ≠ true := by simp [Column.field, ha]
    rw [fieldValue, Column.key_field, hcell, hstored, Option.getD_some]
    dsimp only
    rw [if_neg harray]
    exact resolve_text href hv files

/-- The field of a cell that is left out gives nothing. -/
lemma fieldValue_of_none {record : StoredRecord} {f : Field}
    (h : Pairs.get? record.cells f.key = none) (files : FileTree) (r : Registry) :
    (fieldValue files f record).apply r = (.ok (.stored .null), r) := by
  rw [fieldValue, h]
  rfl

/-- A column is read as its field, unless it has the name of what records are made from or a field
is asked for everything. -/
lemma attributeIn_of_column {columns : List Column} {type : RecordType}
    (hf : type.fields = columns.map Column.field) (hn : (columns.map Column.name).Nodup)
    (hc : c ∈ columns) (hfirst : type.hasField firstResort = false)
    (hname : c.name ≠ rowName) (files : FileTree) (record : StoredRecord) :
    (attributeIn files type record c.name).apply r = (fieldValue files c.field record).apply r := by
  rw [attributeIn, hfirst, if_neg Bool.false_ne_true, if_neg hname, field?_name hf hn hc]

lemma attributeIn_of_firstResort {type : RecordType} (h : type.hasField firstResort = true)
    (files : FileTree) (record : StoredRecord) (name : String) :
    (attributeIn files type record name).apply r = (.error (.script endless), r) := by
  rw [attributeIn, if_pos h]
  rfl

/-- A name in a record that has been loaded is looked up in the record. -/
lemma attributeOf_of_loaded {t : DeclaredTable} {records : List StoredRecord} {table : String}
    {id : Json} {record : StoredRecord} (ht : r.tables.get? table = some t)
    (hr : t.rows = some records) (hid : id.isKey = true)
    (hfind : findRecord? records id = some record) (files : FileTree) (name : String) :
    (attributeOf files table id name).apply r = (attributeIn files t.type record name).apply r := by
  have htable : (Registry.table table).apply r = (.ok t, r) := by simp [Registry.table, ht]
  have hrecord : (Registry.record files table id).apply r = (.ok record, r) := by
    have hrows := rows_of_loaded ht hr files
    rw [Registry.record, record?, apply_bind, apply_bind_of_ok hrows, if_pos hid, apply_pure,
      hfind]
    rfl
  rw [attributeOf, apply_bind_of_ok htable, apply_bind_of_ok hrecord]

end Registry

end SheetCompiler
