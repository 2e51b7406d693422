import SheetCompiler.Proofs.Script.Accessor
import Mathlib.Data.List.Perm.Subperm

/-!
# Fields of Convert tables

The fields that the script of a Convert table declares are those of its columns, in their order,
exactly if every column is kept under its own name, and columns with names that every class has stand
in front (`AreKept`). Every field is then read as that of its column unless one of them has the name
of what a record is made from, or is asked for everything that a record has.

Main statements:

* `fields_declaredType`: the fields that are declared under distinct names;
* `fields_eq_iff`: when they are those of the columns;
* `reads_iff`: when each of them is read.
-/

namespace SheetCompiler

open SheetCompiler.Text SheetCompiler.Script

namespace Script

variable {table script : String} {c : Column} {columns : List Column}

/-- The field of a column under its name in the class. -/
def boundField (table : String) (c : Column) : Field :=
  ⟨boundAs table c, c.type, c.isArray, c.isReference⟩

/-- Columns in the order of their names in a class: those with names that stand there beforehand come
first. -/
def inClassOrder (name : Column → String) (columns : List Column) : List Column :=
  columns.filter (fun c => decide (name c = moduleName)) ++
    columns.filter (fun c => decide (name c = descriptionName)) ++
    columns.filter fun c => decide (name c ∉ bodyNames)

/-- The fields of columns are theirs: each is kept under the name of its column, and those with names
that stand in every class are the first ones. -/
structure AreKept (table : String) (columns : List Column) : Prop where
  names : ∀ c ∈ columns, boundAs table c = c.name
  order : inClassOrder Column.name columns = columns

instance (table : String) (columns : List Column) : Decidable (AreKept table columns) :=
  decidable_of_iff ((∀ c ∈ columns, boundAs table c = c.name) ∧
      inClassOrder Column.name columns = columns) ⟨fun h => ⟨h.1, h.2⟩, fun h => ⟨h.1, h.2⟩⟩

/-! ## Fields under distinct names -/

lemma name_boundField (table : String) (c : Column) :
    (boundField table c).name = boundAs table c := by
  rw [boundField]

lemma map_name_boundField (table : String) (columns : List Column) :
    (columns.map (boundField table)).map Field.name = columns.map (boundAs table) := by
  simp only [List.map_map, Function.comp_def, name_boundField]

lemma map_name_field (columns : List Column) :
    (columns.map Column.field).map Field.name = columns.map Column.name := by
  rw [List.map_map]
  rfl

lemma fieldsOf_append (names more : Pairs Object) :
    fieldsOf (names ++ more) = fieldsOf names ++ fieldsOf more := List.filterMap_append

lemma fieldsOf_entriesOf (table : String) (columns : List Column) :
    fieldsOf (entriesOf table columns) = columns.map (boundField table) := by
  induction columns with
  | nil => rfl
  | cons c columns ih =>
    rw [List.map_cons, ← ih]
    rfl

/-- In the place of a name that is no field stands that of a column, if there is one. -/
lemma fieldsOf_place (hnodup : (columns.map (boundAs table)).Nodup) (name : String) (v : Json) :
    fieldsOf [(name, (Pairs.get? (entriesOf table columns) name).getD (.value v))] =
      (columns.filter fun c => decide (boundAs table c = name)).map (boundField table) := by
  induction columns with
  | nil => rfl
  | cons c columns ih =>
    rw [List.map_cons, List.nodup_cons] at hnodup
    have hcons : entriesOf table (c :: columns) = (boundAs table c, c.object) ::
        entriesOf table columns := rfl
    rw [hcons, Pairs.get?_cons]
    by_cases hc : boundAs table c = name
    · have hnone : (columns.filter fun c => decide (boundAs table c = name)) = [] := by
        refine List.filter_eq_nil_iff.2 fun e he => ?_
        rw [decide_eq_true_eq]
        exact fun heq => hnodup.1 (List.mem_map.2 ⟨e, he, heq.trans hc.symm⟩)
      rw [if_pos hc, List.filter_cons_of_pos (by simpa using hc), hnone, ← hc]
      rfl
    · rw [if_neg hc, List.filter_cons_of_neg (by simpa using hc), ih hnodup.2]

/-- The fields of columns that are kept under distinct names. -/
theorem fields_declaredType (hnodup : (columns.map (boundAs table)).Nodup) :
    (declaredType table script columns).fields =
      (inClassOrder (boundAs table) columns).map (boundField table) := by
  have hentries : (Pairs.names (entriesOf table columns)).Nodup := by
    rw [names_entriesOf]
    exact hnodup
  have hbefore : (classNames table script columns).names.Nodup := nodup_initialNames
  -- the names that stand there beforehand keep their places, and the others come behind them
  have hfinal : finalNames table script columns =
      [(moduleName, (Pairs.get? (entriesOf table columns) moduleName).getD (.value (.text script))),
        (qualifiedName, (Pairs.get? (entriesOf table columns) qualifiedName).getD
          (.value (.text (recordAs table)))),
        (descriptionName, (Pairs.get? (entriesOf table columns) descriptionName).getD
          (.value (descriptionOf (recordBody table columns))))] ++
        entriesOf table (columns.filter fun c => decide (boundAs table c ∉ bodyNames)) := by
    have hnames : (classNames table script columns).names = bodyNames := rfl
    rw [finalNames, Pairs.putAll_eq hbefore hentries, entriesOf, entriesOf, List.filter_map,
      Function.comp_def, hnames]
    dsimp only
    rfl
  have herase (x y z : Object) :
      Pairs.erase [(moduleName, x), (qualifiedName, y), (descriptionName, z)] qualifiedName =
        [(moduleName, x), (descriptionName, z)] := rfl
  have hrest : Pairs.erase (entriesOf table
      (columns.filter fun c => decide (boundAs table c ∉ bodyNames))) qualifiedName =
        entriesOf table (columns.filter fun c => decide (boundAs table c ∉ bodyNames)) := by
    refine List.filter_eq_self.2 fun p hp => ?_
    obtain ⟨c, hc, rfl⟩ := List.mem_map.1 hp
    have hnot := of_decide_eq_true (List.mem_filter.1 hc).2
    rw [bne_iff_ne]
    dsimp only
    intro hname
    rw [hname] at hnot
    exact hnot (by decide)
  have hpair (x y : Object) : fieldsOf [(moduleName, x), (descriptionName, y)] =
      fieldsOf [(moduleName, x)] ++ fieldsOf [(descriptionName, y)] := fieldsOf_append [_] [_]
  rw [declaredType, recordTypeOf, hfinal, Pairs.erase, List.filter_append]
  change fieldsOf (Pairs.erase _ qualifiedName ++ Pairs.erase _ qualifiedName) = _
  rw [herase, hrest, fieldsOf_append, hpair, fieldsOf_place hnodup, fieldsOf_place hnodup,
    fieldsOf_entriesOf, inClassOrder, List.map_append, List.map_append]

/-! ## Fields of the columns -/

lemma boundAs_of_mem_bodyNames (h : c.name ∈ bodyNames) : boundAs table c = c.name := by
  have hall : ∀ name ∈ bodyNames, ∀ owner, boundName owner (compatibleForm name) = name := by
    intro name hname owner
    rcases List.mem_cons.1 hname with rfl | hname
    · rw [compatibleForm_of_ascii (by decide)]
      rfl
    · rcases List.mem_pair.1 hname with rfl | rfl
      · rw [compatibleForm_of_ascii (by decide)]
        rfl
      · rw [compatibleForm_of_ascii (by decide)]
        rfl
  exact hall _ h _

lemma names_fieldsOf_sublist (names : Pairs Object) :
    ((fieldsOf names).map Field.name).Sublist names.names := by
  induction names with
  | nil => exact .slnil
  | cons p names ih =>
    obtain ⟨k, o⟩ := p
    have hcons : fieldsOf ((k, o) :: names) = fieldsOf [(k, o)] ++ fieldsOf names :=
      fieldsOf_append [_] _
    rw [hcons, List.map_append, Pairs.names, List.map_cons]
    cases o with
    | field type isArray isReference => exact ih.cons_cons k
    | _ => exact ih.cons k

/-- Every field is that of a column, under the name that the column is kept under. -/
lemma exists_column_of_mem_fields {f : Field}
    (hf : f ∈ (declaredType table script columns).fields) :
    ∃ c ∈ columns, f = boundField table c := by
  obtain ⟨⟨k, o⟩, hp, hfield⟩ := List.mem_filterMap.1 hf
  rcases Pairs.mem_putAll (List.mem_filter.1 hp).1 with hmem | hmem
  · -- what stands there beforehand is no field
    have hvalues : ∀ p ∈ classNames table script columns, ∃ v, p.2 = .value v := by
      intro p hp
      rcases List.mem_cons.1 hp with rfl | hp
      · exact ⟨_, rfl⟩
      · rcases List.mem_pair.1 hp with rfl | rfl
        · exact ⟨_, rfl⟩
        · exact ⟨_, rfl⟩
    obtain ⟨v, hv⟩ := hvalues _ hmem
    dsimp only at hv hfield
    rw [hv] at hfield
    cases hfield
  · obtain ⟨c, hc, hentry⟩ := List.mem_map.1 hmem
    obtain ⟨rfl, rfl⟩ := Prod.mk.inj hentry
    exact ⟨c, hc, (Option.some.inj hfield).symm⟩

/-- The names of fields are distinct, and columns are kept under them. -/
lemma names_fields (table script : String) (columns : List Column) :
    ((declaredType table script columns).fields.map Field.name).Nodup ∧
      ∀ name ∈ (declaredType table script columns).fields.map Field.name,
        name ∈ columns.map (boundAs table) := by
  have hbefore : (classNames table script columns).names.Nodup := nodup_initialNames
  have hfinal : (finalNames table script columns).names.Nodup :=
    Pairs.nodup_names_putAll hbefore _
  have hsub : ((finalNames table script columns).erase qualifiedName).names.Sublist
      (finalNames table script columns).names := List.filter_sublist.map _
  have hnodup := ((names_fieldsOf_sublist _).trans hsub).nodup hfinal
  refine ⟨hnodup, fun name hname => ?_⟩
  obtain ⟨f, hf, rfl⟩ := List.mem_map.1 hname
  obtain ⟨c, hc, rfl⟩ := exists_column_of_mem_fields hf
  rw [name_boundField]
  exact List.mem_map_of_mem hc

/-- The names of columns are those of distinct fields only if the columns are kept under distinct
names. -/
lemma nodup_boundAs (hfields : (declaredType table script columns).fields =
    columns.map Column.field) :
    (columns.map (boundAs table)).Nodup ∧
      ∀ c ∈ columns, ∃ e ∈ columns, e.name = boundAs table c := by
  obtain ⟨hnodup, hsub⟩ := names_fields table script columns
  rw [hfields, map_name_field] at hnodup hsub
  have hperm : (columns.map Column.name).Perm (columns.map (boundAs table)) :=
    (hnodup.subperm hsub).perm_of_length_le (by simp)
  refine ⟨hperm.nodup_iff.1 hnodup, fun c hc => ?_⟩
  obtain ⟨e, he, hname⟩ := List.mem_map.1 (hperm.mem_iff.2 (List.mem_map_of_mem hc))
  exact ⟨e, he, hname⟩

/-- Columns are kept under names that stand in every class exactly if they have them. -/
lemma boundAs_eq_iff (hfields : (declaredType table script columns).fields =
    columns.map Column.field) (hc : c ∈ columns) {name : String} (hname : name ∈ bodyNames) :
    boundAs table c = name ↔ c.name = name := by
  obtain ⟨hnodup, hmem⟩ := nodup_boundAs hfields
  constructor
  · rintro rfl
    obtain ⟨e, he, heq⟩ := hmem c hc
    have hsame : boundAs table e = boundAs table c :=
      (boundAs_of_mem_bodyNames (heq ▸ hname)).trans heq
    rw [List.inj_on_of_nodup_map hnodup he hc hsame] at heq
    exact heq
  · rintro rfl
    exact boundAs_of_mem_bodyNames hname

lemma mem_inClassOrder {name : Column → String} (h : c ∈ inClassOrder name columns) :
    c ∈ columns := by
  rw [inClassOrder, List.mem_append, List.mem_append] at h
  rcases h with (h | h) | h
  · exact (List.mem_filter.1 h).1
  · exact (List.mem_filter.1 h).1
  · exact (List.mem_filter.1 h).1

/-- The order depends on nothing but which columns have the names that come first. -/
lemma inClassOrder_congr {name other : Column → String}
    (h : ∀ c ∈ columns, ∀ special ∈ bodyNames, name c = special ↔ other c = special) :
    inClassOrder name columns = inClassOrder other columns := by
  have hplace {special : String} (hs : special ∈ bodyNames) :
      columns.filter (fun c => decide (name c = special)) =
        columns.filter fun c => decide (other c = special) :=
    List.filter_congr fun c hc => decide_eq_decide.2 (h c hc special hs)
  have hrest : columns.filter (fun c => decide (name c ∉ bodyNames)) =
      columns.filter fun c => decide (other c ∉ bodyNames) := by
    refine List.filter_congr fun c hc => decide_eq_decide.2 (not_congr ?_)
    exact ⟨fun hmem => (h c hc _ hmem).1 rfl ▸ hmem, fun hmem => (h c hc _ hmem).2 rfl ▸ hmem⟩
  rw [inClassOrder, inClassOrder, hplace (by decide), hplace (by decide), hrest]

/-- The columns behind those that come first. -/
lemma filter_inClassOrder (name : Column → String) (columns : List Column) :
    (inClassOrder name columns).filter (fun c => decide (name c ∉ bodyNames)) =
      columns.filter fun c => decide (name c ∉ bodyNames) := by
  have hnone {special : String} (hs : special ∈ bodyNames) :
      (columns.filter fun c => decide (name c = special)).filter
        (fun c => decide (name c ∉ bodyNames)) = [] := by
    refine List.filter_eq_nil_iff.2 fun c hc => ?_
    rw [of_decide_eq_true (List.mem_filter.1 hc).2, decide_eq_true_eq, not_not]
    exact hs
  rw [inClassOrder, List.filter_append, List.filter_append, hnone (by decide), hnone (by decide),
    List.nil_append, List.nil_append, List.filter_filter]
  simp only [Bool.and_self]

lemma eq_of_map_name_eq (hnodup : (columns.map Column.name).Nodup) {others : List Column}
    (hmem : ∀ c ∈ others, c ∈ columns) (h : others.map Column.name = columns.map Column.name) :
    others = columns := by
  have hlength : others.length = columns.length := by
    rw [← List.length_map, h, List.length_map]
  refine List.ext_getElem hlength fun i hi hj => ?_
  refine List.inj_on_of_nodup_map hnodup (hmem _ (List.getElem_mem hi)) (List.getElem_mem hj) ?_
  have hname : (others.map Column.name)[i]? = (columns.map Column.name)[i]? := by rw [h]
  simpa [hi, hj] using hname

/-- The fields are those of the columns, in their order, exactly if the columns are kept. -/
theorem fields_eq_iff (hnodup : (columns.map Column.name).Nodup) :
    (declaredType table script columns).fields = columns.map Column.field ↔
      AreKept table columns := by
  constructor
  · intro h
    have hsame := h
    rw [fields_declaredType (nodup_boundAs h).1,
      inClassOrder_congr fun c hc special hs => boundAs_eq_iff h hc hs] at hsame
    have hbound : (inClassOrder Column.name columns).map (boundAs table) =
        columns.map Column.name := by
      have hnames := congrArg (List.map Field.name) hsame
      rwa [map_name_boundField, map_name_field] at hnames
    -- without the names that come first, the columns stand in the same places on both sides
    have hrest : (columns.filter fun c => decide (c.name ∉ bodyNames)).map (boundAs table) =
        (columns.filter fun c => decide (c.name ∉ bodyNames)).map Column.name := by
      have hfilter := congrArg (List.filter fun name => decide (name ∉ bodyNames)) hbound
      have hcongr : (inClassOrder Column.name columns).filter
          (fun c => decide (boundAs table c ∉ bodyNames)) =
            (inClassOrder Column.name columns).filter fun c => decide (c.name ∉ bodyNames) := by
        refine List.filter_congr fun c hc => decide_eq_decide.2 (not_congr ?_)
        have hiff {special : String} (hs : special ∈ bodyNames) :=
          boundAs_eq_iff h (mem_inClassOrder hc) hs
        exact ⟨fun hmem => (hiff hmem).1 rfl ▸ hmem, fun hmem => (hiff hmem).2 rfl ▸ hmem⟩
      rw [List.filter_map, List.filter_map, Function.comp_def, Function.comp_def, hcongr,
        filter_inClassOrder] at hfilter
      exact hfilter
    have hkept : ∀ c ∈ columns, boundAs table c = c.name := by
      intro c hc
      by_cases hspecial : c.name ∈ bodyNames
      · exact boundAs_of_mem_bodyNames hspecial
      · exact List.map_inj_left.1 hrest c (List.mem_filter.2 ⟨hc, decide_eq_true hspecial⟩)
    refine ⟨hkept, eq_of_map_name_eq hnodup (fun c => mem_inClassOrder) ?_⟩
    rw [← hbound]
    exact List.map_congr_left fun c hc => (hkept c (mem_inClassOrder hc)).symm
  · intro h
    have hbound : columns.map (boundAs table) = columns.map Column.name :=
      List.map_congr_left h.names
    have horder : inClassOrder (boundAs table) columns = inClassOrder Column.name columns :=
      inClassOrder_congr fun c hc special _ => by rw [h.names c hc]
    rw [fields_declaredType (hbound ▸ hnodup), horder, h.order]
    refine List.map_congr_left fun c hc => ?_
    rw [boundField, h.names c hc]
    rfl

/-! ## Reading -/

/-- The fields of columns are read as theirs in every record exactly if none of them has the name of
what a record is made from, or is asked for everything that a record has. -/
theorem reads_iff {type : RecordType} (hnodup : (columns.map Column.name).Nodup)
    (hfields : type.fields = columns.map Column.field) :
    (∀ c ∈ columns, ∀ files record (r : Registry),
      (Registry.attributeIn files type record c.name).apply r =
        (Registry.fieldValue files c.field record).apply r) ↔
      ∀ c ∈ columns, c.name ≠ Registry.rowName ∧ c.name ≠ Registry.firstResort := by
  have hhas : type.hasField Registry.firstResort = true ↔
      ∃ c ∈ columns, c.name = Registry.firstResort := by
    exact hasField_iff hfields _
  constructor
  · intro h c hc
    -- a record that stores nothing
    have hread := h c hc ⟨[]⟩ ⟨.null, []⟩ (.empty "")
    have hnothing : (Registry.fieldValue ⟨[]⟩ c.field ⟨.null, []⟩).apply (Registry.empty "") =
        (.ok (.stored .null), Registry.empty "") := rfl
    rw [hnothing] at hread
    cases hfirst : type.hasField Registry.firstResort with
    | true =>
      rw [Registry.attributeIn_of_firstResort hfirst] at hread
      cases hread
    | false =>
      refine ⟨fun hrow => ?_, fun hname => ?_⟩
      · rw [hrow, Registry.attributeIn, hfirst, if_neg Bool.false_ne_true, if_pos rfl] at hread
        cases hread
      · rw [hhas.2 ⟨c, hc, hname⟩] at hfirst
        cases hfirst
  · intro h c hc files record r
    have hfirst : type.hasField Registry.firstResort = false := by
      rw [← Bool.not_eq_true, hhas]
      rintro ⟨e, he, hname⟩
      exact (h e he).2 hname
    exact Registry.attributeIn_of_column hfields hnodup hc hfirst (h c hc).1 files record

/-! ## Ordinary names -/

/-- A name that columns may have without meaning anything else: it is ASCII, does not begin with an
underscore, and is not that of what declares fields. -/
structure IsFieldName (name : String) : Prop where
  ascii : ∀ c ∈ name.toList, isAscii c = true
  plain : startsWith "_" name = false
  undeclaring : name ≠ "Field" ∧ name ≠ "Reference"

lemma boundAs_of_isFieldName (h : IsFieldName c.name) : boundAs table c = c.name := by
  rw [boundAs, compatibleForm_of_ascii h.ascii]
  exact boundName_of_plain (head?_ne_of_startsWith h.plain) _

/-- Columns with ordinary names can be declared, are kept, and are read. -/
theorem areDeclarable_of_isFieldName (h : ∀ c ∈ columns, IsFieldName c.name) :
    AreDeclarable table columns ∧ AreKept table columns ∧
      ∀ c ∈ columns, c.name ≠ Registry.rowName ∧ c.name ≠ Registry.firstResort := by
  have hne {c : Column} (hc : c ∈ columns) {special : String}
      (hs : special.toList.head? = some '_') : c.name ≠ special := by
    rintro rfl
    exact head?_ne_of_startsWith (h c hc).plain hs
  have hbody {c : Column} (hc : c ∈ columns) {special : String} (hs : special ∈ bodyNames) :
      c.name ≠ special := hne hc (head?_of_mem_bodyNames hs)
  refine ⟨⟨fun c hc => ?_, fun c hc => ?_, fun front c back heq e he => ?_⟩,
    ⟨fun c hc => boundAs_of_isFieldName (h c hc), ?_⟩, fun c hc => ⟨hne hc rfl, hne hc rfl⟩⟩
  · rw [compatibleForm_of_ascii (h c hc).ascii, isBindable, decide_eq_true_eq]
    exact hne hc rfl
  · rw [boundAs_of_isFieldName (h c hc)]
    intro hmem
    have hall : ∀ name ∈ unusableFields, name.toList.head? = some '_' := by decide
    exact hne hc (hall _ hmem) rfl
  · have hmem : e ∈ columns := by
      rw [heq]
      exact List.mem_append_left _ he
    rw [boundAs_of_isFieldName (h e hmem), Column.declarer]
    split_ifs
    · exact (h e hmem).undeclaring.2
    · exact (h e hmem).undeclaring.1
  · have hnone {special : String} (hs : special ∈ bodyNames) :
        columns.filter (fun c => decide (c.name = special)) = [] :=
      List.filter_eq_nil_iff.2 fun c hc => by simpa using hbody hc hs
    have hall : columns.filter (fun c => decide (c.name ∉ bodyNames)) = columns :=
      List.filter_eq_self.2 fun c hc => decide_eq_true fun hmem => hbody hc hmem rfl
    rw [inClassOrder, hnone (by decide), hnone (by decide), hall]
    rfl

end Script

end SheetCompiler
