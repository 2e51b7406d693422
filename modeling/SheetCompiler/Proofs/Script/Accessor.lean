import SheetCompiler.Proofs.Registry.Reload
import SheetCompiler.Proofs.Script.Outcome
import SheetCompiler.Proofs.Script.Record

/-!
# Accessors of Convert tables

The class of a Convert table has a field for each column. A field is declared by calling what the
name `Field` or `Reference` stands for among the columns in front of it, and is kept under the name
that its own has in the class. So the script fails for columns with certain names (`AreDeclarable`),
and else what it declares are the columns' fields under their names there.

Main statements:

* `outcome?_columns`: what the body of the class declares;
* `run_convertScript` and `run_convertScript_of_not_declarable`: what the script declares, or that it
  fails.
-/

namespace SheetCompiler

open SheetCompiler.Text SheetCompiler.Script

namespace Script

variable {table : String} {c : Column} {columns : List Column}

/-! ## Names in the class -/

/-- The name that the field of a column has in the class of its table. -/
def boundAs (table : String) (c : Column) : String :=
  boundName (recordAs table) (compatibleForm c.name)

/-- What columns declare, one after the other. -/
def entriesOf (table : String) (columns : List Column) : Pairs Object :=
  columns.map fun c => (boundAs table c, c.object)

lemma names_entriesOf (table : String) (columns : List Column) :
    Pairs.names (entriesOf table columns) = columns.map (boundAs table) := by
  rw [Pairs.names, entriesOf, List.map_map, Function.comp_def]

/-- One more column gives its name a value. -/
lemma putAll_entriesOf_concat (before : Pairs Object) (table : String) (front : List Column)
    (c : Column) : before.putAll (entriesOf table (front ++ [c])) =
      Pairs.put (boundAs table c) c.object (before.putAll (entriesOf table front)) := by
  rw [entriesOf, List.map_append, Pairs.putAll, List.foldl_append, List.map_singleton,
    List.foldl_cons, List.foldl_nil, entriesOf, Pairs.putAll]

/-- The names of the class in front of its first column. -/
def classNames (table script : String) (columns : List Column) : Pairs Object :=
  initialNames (some (.value (.text script))) (recordAs table) (recordBody table columns)

/-- No column hides what a column behind it is declared with. -/
def AreCalledBehind (table : String) (front columns : List Column) : Prop :=
  ∀ f c b, columns = f ++ c :: b → ∀ e ∈ front ++ f, boundAs table e ≠ c.declarer

lemma areCalledBehind_cons (table : String) (front : List Column) (c : Column)
    (columns : List Column) : AreCalledBehind table front (c :: columns) ↔
      (∀ e ∈ front, boundAs table e ≠ c.declarer) ∧
        AreCalledBehind table (front ++ [c]) columns :=
  forall_split_cons_iff fun front c => ∀ e ∈ front, boundAs table e ≠ c.declarer

instance decidableAreCalledBehind (table : String) :
    (front columns : List Column) → Decidable (AreCalledBehind table front columns)
  | _, [] => isTrue fun f c b h => absurd h (by simp)
  | front, c :: columns =>
    have := decidableAreCalledBehind table (front ++ [c]) columns
    decidable_of_iff' _ (areCalledBehind_cons table front c columns)

/-- Columns can be declared in the class of their table: no name is `__debug__`, none is unusable in
the class, and none hides what a column behind it is declared with. -/
structure AreDeclarable (table : String) (columns : List Column) : Prop where
  bindable : ∀ c ∈ columns, isBindable (compatibleForm c.name) = true
  usable : ∀ c ∈ columns, boundAs table c ∉ unusableFields
  called : AreCalledBehind table [] columns

instance (table : String) (columns : List Column) : Decidable (AreDeclarable table columns) :=
  decidable_of_iff ((∀ c ∈ columns, isBindable (compatibleForm c.name) = true) ∧
      (∀ c ∈ columns, boundAs table c ∉ unusableFields) ∧ AreCalledBehind table [] columns)
    ⟨fun h => ⟨h.1, h.2.1, h.2.2⟩, fun h => ⟨h.1, h.2, h.3⟩⟩

/-! ## Fields -/

variable {names : Pairs Object} {d : Declared} {outer owner : String}

lemma head?_declarer (c : Column) : c.declarer.toList.head? ≠ some '_' := by
  rw [Column.declarer]
  cases c.isReference with
  | true => decide
  | false => decide

/-- What declares fields, among the names of the script. -/
def HasDeclarers (d : Declared) : Prop :=
  ∀ c : Column, d.names.get? c.declarer = some (.builtin (.field c.isReference))

/-- A column is declared, unless what declares it is a field itself. -/
lemma outcome?_column (hd : HasDeclarers d)
    (hfields : ∀ o, names.get? c.declarer = some o → ∃ type isArray isReference,
      o = .field type isArray isReference) :
    outcome? (runStatement .record outer ⟨some owner, names, []⟩ c.statement) d =
      if names.get? c.declarer = none then
        some (⟨some owner, names.put (boundName owner (compatibleForm c.name)) c.object, []⟩, d)
      else none := by
  have hbound : Scope.outerName ⟨some owner, names, []⟩ c.declarer = c.declarer :=
    boundName_of_plain (head?_declarer c) owner
  have harguments : outcome? (evalAll ⟨some owner, names, []⟩ [.constant (.text c.type)]) d =
      some ([.value (.text c.type)], d) := rfl
  have hnamed : outcome? (evalNamed ⟨some owner, names, []⟩ c.arrayArgument) d =
      some (if c.isArray then [("array", .value (.truth true))] else [], d) := by
    rw [Column.arrayArgument]
    cases c.isArray with
    | true => rfl
    | false => rfl
  rw [Column.statement, Column.expression, runStatement, outcome?_bind, eval, outcome?_bind, eval,
    outcome?_find, hbound, hd c]
  cases ho : names.get? c.declarer with
  | none =>
    have hcall : outcome? (apply (.builtin (.field c.isReference)) [.value (.text c.type)]
        (if c.isArray then [("array", .value (.truth true))] else [])) d = some (c.object, d) := by
      rw [Column.object]
      cases c.isArray with
      | true => rfl
      | false => rfl
    rw [Option.none_or, Option.some_or, Option.map_some, Option.bind_some, outcome?_bind,
      harguments, Option.bind_some, outcome?_bind, hnamed, Option.bind_some, hcall]
    rfl
  | some o =>
    obtain ⟨type, isArray, isReference, rfl⟩ := hfields o ho
    rw [Option.some_or, Option.some_or, Option.map_some, Option.bind_some, outcome?_bind,
      harguments, Option.bind_some, outcome?_bind, hnamed, Option.bind_some]
    cases c.isArray with
    | true => rfl
    | false => rfl

section

variable {before : Pairs Object} (hbefore : ∀ n ∈ before.names, n ∈ bodyNames)
include hbefore

lemma get?_before_declarer (c : Column) : before.get? c.declarer = none :=
  Pairs.get?_eq_none_iff.2 fun hmem => head?_declarer c (head?_of_mem_bodyNames (hbefore _ hmem))

/-- What declares a column is hidden exactly by the columns in front that are kept under its name. -/
lemma get?_declarer_eq_none_iff {front : List Column} (c : Column) :
    (before.putAll (entriesOf table front)).get? c.declarer = none ↔
      ∀ e ∈ front, boundAs table e ≠ c.declarer := by
  have hnames : c.declarer ∈ Pairs.names (entriesOf table front).reverse ↔
      ∃ e ∈ front, boundAs table e = c.declarer := by
    rw [Pairs.names, List.map_reverse, List.mem_reverse, ← Pairs.names, names_entriesOf,
      List.mem_map]
  rw [Pairs.get?_putAll, get?_before_declarer hbefore c, Option.or_none, Pairs.get?_eq_none_iff,
    hnames]
  simp

lemma exists_field_of_get? {front : List Column} {o : Object}
    (h : (before.putAll (entriesOf table front)).get? c.declarer = some o) :
    ∃ type isArray isReference, o = .field type isArray isReference := by
  rw [Pairs.get?_putAll, get?_before_declarer hbefore c, Option.or_none] at h
  obtain ⟨e, -, he⟩ := List.mem_map.1 (List.mem_reverse.1 (Pairs.mem_of_get? h))
  exact ⟨e.type, e.isArray, e.isReference, (Prod.mk.inj he).2.symm⟩

/-- Columns are declared one after the other, as long as nothing they are declared with is hidden. -/
theorem outcome?_columns (hd : HasDeclarers d) {front columns : List Column} :
    outcome? (runStatements .record outer
      ⟨some (recordAs table), before.putAll (entriesOf table front), []⟩
      (columns.map Column.statement)) d =
      if AreCalledBehind table front columns then
        some (⟨some (recordAs table), before.putAll (entriesOf table (front ++ columns)), []⟩, d)
      else none := by
  induction columns generalizing front with
  | nil =>
    have hnone : AreCalledBehind table front [] := fun f c b h => absurd h (by simp)
    rw [if_pos hnone, List.append_nil, List.map_nil, runStatements]
    rfl
  | cons c columns ih =>
    have hcolumn : outcome? (runStatement .record outer
        ⟨some (recordAs table), before.putAll (entriesOf table front), []⟩ c.statement) d =
        if (before.putAll (entriesOf table front)).get? c.declarer = none then
          some (⟨some (recordAs table), before.putAll (entriesOf table (front ++ [c])), []⟩, d)
        else none := by
      rw [putAll_entriesOf_concat]
      exact outcome?_column hd fun o => exists_field_of_get? hbefore
    have hall : front ++ c :: columns = front ++ [c] ++ columns := by
      rw [List.append_assoc, List.singleton_append]
    have hfree : (before.putAll (entriesOf table front)).get? c.declarer = none ↔
        ∀ e ∈ front, boundAs table e ≠ c.declarer := get?_declarer_eq_none_iff hbefore c
    rw [List.map_cons, runStatements, outcome?_bind, hcolumn, hall]
    by_cases hc : ∀ e ∈ front, boundAs table e ≠ c.declarer
    · rw [if_pos (hfree.2 hc), Option.bind_some]
      dsimp only
      rw [ih]
      by_cases hrest : AreCalledBehind table (front ++ [c]) columns
      · rw [if_pos hrest, if_pos ((areCalledBehind_cons _ _ _ _).2 ⟨hc, hrest⟩)]
      · rw [if_neg hrest, if_neg fun h => hrest ((areCalledBehind_cons _ _ _ _).1 h).2]
    · rw [if_neg fun h => hc (hfree.1 h), if_neg fun h => hc ((areCalledBehind_cons _ _ _ _).1 h).1]
      rfl

end

/-! ## The class -/

/-- The fields among what names stand for. -/
def fieldsOf (names : Pairs Object) : List Field :=
  names.filterMap fun (key, o) =>
    match o with
    | .field type isArray isReference => some ⟨key, type, isArray, isReference⟩
    | _ => none

/-- The type of the records of a class with names. -/
def recordTypeOf (name : String) (names : Pairs Object) : RecordType :=
  ⟨name, fieldsOf (names.erase qualifiedName),
    (names.erase qualifiedName).filterMap fun (key, o) => o.value?.map fun v => (key, v)⟩

/-- The names of the class behind its last column. -/
def finalNames (table script : String) (columns : List Column) : Pairs Object :=
  (classNames table script columns).putAll (entriesOf table columns)

variable {script : String}

/-- A name of the class is that of a column, or one that stands there beforehand. -/
lemma get?_finalNames (name : String) :
    (∃ c ∈ columns, boundAs table c = name ∧
      (finalNames table script columns).get? name = some c.object) ∨
    ((∀ c ∈ columns, boundAs table c ≠ name) ∧
      (finalNames table script columns).get? name =
        (classNames table script columns).get? name) := by
  rw [finalNames, Pairs.get?_putAll]
  cases ho : Pairs.get? (entriesOf table columns).reverse name with
  | some o =>
    obtain ⟨c, hc, hentry⟩ := List.mem_map.1 (List.mem_reverse.1 (Pairs.mem_of_get? ho))
    obtain ⟨hname, hobject⟩ := Prod.mk.inj hentry
    exact .inl ⟨c, hc, hname, by rw [hobject]; rfl⟩
  | none =>
    refine .inr ⟨fun c hc hname => ?_, rfl⟩
    rw [Pairs.get?_eq_none_iff, Pairs.names, List.map_reverse, List.mem_reverse, ← Pairs.names,
      names_entriesOf] at ho
    exact ho (List.mem_map.2 ⟨c, hc, hname⟩)

/-- There is no class with a field under a name that is unusable in it. -/
lemma bodyFault?_ne_none_of_field {name type : String} {isArray isReference : Bool}
    (hname : name ∈ unusableFields)
    (hfield : names.get? name = some (.field type isArray isReference)) :
    bodyFault? names ≠ none := by
  have hspecial : unusableFields = [slotsName, qualifiedName, cellName] := rfl
  rw [hspecial, List.mem_cons, List.mem_pair] at hname
  unfold bodyFault?
  rcases hname with rfl | rfl | rfl
  · have hslots : slotsFault? names = some .wrongType := by
      rw [slotsFault?, hfield]
      rfl
    rw [hslots]
    exact Option.some_ne_none _
  · rw [hfield]
    cases slotsFault? names with
    | some fault => exact Option.some_ne_none _
    | none => exact Option.some_ne_none _
  · have hcell : names.names.contains cellName = true :=
      List.contains_iff_mem.2 (List.mem_map_of_mem (f := Prod.fst) (Pairs.mem_of_get? hfield))
    rw [hcell]
    split
    · exact Option.some_ne_none _
    · exact Option.some_ne_none _
    · exact Option.some_ne_none _
    · exact Option.some_ne_none _

/-- There is a class exactly if no column is kept under a name that is unusable in it. -/
lemma bodyFault?_finalNames :
    bodyFault? (finalNames table script columns) = none ↔
      ∀ c ∈ columns, boundAs table c ∉ unusableFields := by
  constructor
  · intro h c hc hmem
    rcases get?_finalNames (boundAs table c) with ⟨e, -, -, he⟩ | ⟨hne, -⟩
    · exact bodyFault?_ne_none_of_field hmem he h
    · exact hne c hc rfl
  · intro h
    have hget {name : String} (hname : name ∈ unusableFields) :
        (finalNames table script columns).get? name =
          (classNames table script columns).get? name := by
      rcases get?_finalNames name with ⟨c, hc, hbound, -⟩ | ⟨-, hget⟩
      · exact absurd (hbound ▸ hname) (h c hc)
      · exact hget
    refine bodyFault?_eq_none (recordAs table) ?_ ?_ ?_
    · rw [hget (by decide), classNames, get?_initialNames (by decide)]
    · rw [hget (by decide), classNames, get?_qualifiedName]
    · rw [hget (by decide), classNames, get?_initialNames (by decide)]

lemma outcome?_classOf_record (name qualified : String) (scope : Scope) :
    outcome? (classOf .record name qualified scope) d =
      if bodyFault? scope.names = none then
        some (.recordType (recordTypeOf name scope.names), d)
      else none := by
  unfold classOf
  dsimp only
  cases bodyFault? scope.names with
  | none => rfl
  | some fault => rfl

/-! ## The script -/

/-- What the script has behind its first statement. -/
def withDeclarers (script : String) : Declared :=
  ⟨[(scriptNameName, .value (.text script)), ("Field", .builtin (.field false)),
    ("Record", .builtin .record), ("Reference", .builtin (.field true)),
    ("Table", .builtin .table)], [], []⟩

/-- The type of the records of a table, as its script declares it. -/
def declaredType (table script : String) (columns : List Column) : RecordType :=
  recordTypeOf (recordAs table) (finalNames table script columns)

/-- What the script of a Convert table has behind its class. -/
def withRecord (table script : String) (columns : List Column) : Declared :=
  { withDeclarers script with
    names := (withDeclarers script).names.put (recordAs table)
      (.recordType (declaredType table script columns)) }

/-- What the script of a Convert table declares. -/
def convertDeclared (table script : String) (columns : List Column) : Declared :=
  ⟨(withRecord table script columns).names.put (tableAs table) .table, [],
    [(table, declaredType table script columns)]⟩

lemma hasDeclarers_withDeclarers (script : String) : HasDeclarers (withDeclarers script) := by
  intro c
  rw [Column.declarer]
  cases c.isReference with
  | true => rfl
  | false => rfl

/-- What keeps the script from its end, but for names that nothing can be given. -/
def ClassDeclares (table : String) (columns : List Column) : Prop :=
  AreCalledBehind table [] columns ∧ ∀ c ∈ columns, boundAs table c ∉ unusableFields

instance (table : String) (columns : List Column) : Decidable (ClassDeclares table columns) :=
  inferInstanceAs (Decidable (_ ∧ _))

/-- The class of a table is declared exactly if its columns are, and none of them is unusable. -/
lemma outcome?_recordClass (table script : String) (columns : List Column) :
    outcome? (runStatement .plain "" .outermost
      (.declareClass [] (recordAs table) (some (.name "Record")) (recordBody table columns)))
      (withDeclarers script) =
        if ClassDeclares table columns then some (.outermost, withRecord table script columns)
        else none := by
  have hname : "" ++ recordAs table = recordAs table := String.empty_append
  have hdecorators : outcome? (evalAll .outermost []) (withDeclarers script) =
      some ([], withDeclarers script) := rfl
  have hbase : outcome? (Option.mapM (eval .outermost) (some (.name "Record")))
      (withDeclarers script) = some (some (.builtin .record), withDeclarers script) := rfl
  have hscript : (withDeclarers script).names.get? scriptNameName =
      some (.value (.text script)) := rfl
  -- the text that describes the class declares nothing
  have hbody : outcome? (runStatements .record (recordAs table ++ ".")
      ⟨some (recordAs table), classNames table script columns, []⟩ (recordBody table columns))
      (withDeclarers script) =
        if AreCalledBehind table [] columns then
          some (⟨some (recordAs table), finalNames table script columns, []⟩, withDeclarers script)
        else none := by
    have hdescription (scope : Scope) : outcome? (runStatement .record (recordAs table ++ ".") scope
        (.evaluate (.constant (.text (recordDescription table))))) (withDeclarers script) =
          some (scope, withDeclarers script) := rfl
    have hcolumns : outcome? (runStatements .record (recordAs table ++ ".")
        ⟨some (recordAs table), (classNames table script columns).putAll (entriesOf table []), []⟩
        (columns.map Column.statement)) (withDeclarers script) =
          if AreCalledBehind table [] columns then
            some (⟨some (recordAs table),
              (classNames table script columns).putAll (entriesOf table ([] ++ columns)), []⟩,
              withDeclarers script)
          else none :=
      outcome?_columns (fun _ => mem_bodyNames) (hasDeclarers_withDeclarers script)
    rw [recordBody, runStatements, outcome?_bind, hdescription, Option.bind_some]
    exact hcolumns
  rw [classNames] at hbody
  rw [runStatement]
  simp only [outcome?_bind, hdecorators, outcome?_pure, Option.bind_some, outcome?_get, hscript,
    hname, hbase, baseOf, hbody]
  by_cases hcalled : AreCalledBehind table [] columns
  · rw [if_pos hcalled, Option.bind_some, outcome?_classOf_record]
    dsimp only
    by_cases hfault : bodyFault? (finalNames table script columns) = none
    · rw [if_pos hfault, if_pos ⟨hcalled, bodyFault?_finalNames.1 hfault⟩]
      rfl
    · rw [if_neg hfault, if_neg fun h => hfault (bodyFault?_finalNames.2 h.2)]
      rfl
  · rw [if_neg hcalled, if_neg fun h => hcalled h.1]
    rfl

lemma outcome?_tableStatement (table script : String) (columns : List Column) :
    outcome? (runStatement .plain "" .outermost (tableStatement table))
      (withRecord table script columns) =
        some (.outermost, convertDeclared table script columns) := by
  have hmaker : (withRecord table script columns).names.get? "Table" =
      some (.builtin .table) := by
    rw [withRecord, Pairs.get?_put_of_ne recordAs_ne_table]
    rfl
  have htype : (withRecord table script columns).names.get? (recordAs table) =
      some (.recordType (declaredType table script columns)) := Pairs.get?_put_self _ _ _
  have hfind {name : String} {o : Object}
      (h : (withRecord table script columns).names.get? name = some o) :
      outcome? (Scope.find .outermost name) (withRecord table script columns) =
        some (o, withRecord table script columns) := by
    have hown : Scope.outermost.names.get? (Scope.outermost.outerName name) = none := rfl
    have hscript : (withRecord table script columns).names.get? (Scope.outermost.outerName name) =
        some o := h
    rw [outcome?_find, hown, hscript]
    rfl
  rw [tableStatement, runStatement, outcome?_bind, eval, outcome?_bind, eval, hfind hmaker]
  simp only [Option.bind_some, outcome?_bind, evalAll, eval, hfind htype, evalNamed, outcome?_pure]
  rfl

/-- What the script declares if its columns can be declared, and that it fails if not. -/
lemma outcome?_convertScript (table script : String) (columns : List Column) :
    outcome? (runStatements .plain "" .outermost (convertStatements table columns))
      (.start script) =
        if ClassDeclares table columns then
          some (.outermost, convertDeclared table script columns)
        else none := by
  have htaken : outcome? (runStatement .plain "" .outermost
      (.useNames "excel_database.runtime" takenNames)) (.start script) =
        some (.outermost, withDeclarers script) := rfl
  rw [convertStatements, runStatements, outcome?_bind, htaken, Option.bind_some]
  dsimp only
  rw [runStatements, outcome?_bind, outcome?_recordClass]
  split_ifs
  · rw [Option.bind_some]
    dsimp only
    rw [runStatements, outcome?_bind, outcome?_tableStatement]
    rfl
  · rfl

section

variable (hident : isIdentifier table = true) (hcolumns : ∀ c ∈ columns, IsWritten c)
include hident hcolumns

/-- What a script declares whose columns can be declared. -/
theorem run_convertScript (script : String) (h : AreDeclarable table columns) :
    run script (Template.lines (Template.convertScriptTexts table columns)) =
      (convertDeclared table script columns, none) := by
  have hstatements := statements?_convertScript hident hcolumns
  rw [if_pos h.bindable] at hstatements
  have hrun := outcome?_convertScript table script columns
  rw [if_pos ⟨h.called, h.usable⟩] at hrun
  exact run_of_outcome? hstatements hrun

/-- A script with columns that cannot be declared fails. -/
theorem run_convertScript_of_not_declarable (script : String) (h : ¬AreDeclarable table columns) :
    ∃ declared fault, run script (Template.lines (Template.convertScriptTexts table columns)) =
      (declared, some fault) := by
  have hstatements := statements?_convertScript hident hcolumns
  by_cases hb : ∀ c ∈ columns, isBindable (compatibleForm c.name) = true
  · rw [if_pos hb] at hstatements
    have hrun := outcome?_convertScript table script columns
    rw [if_neg fun hclass => h ⟨hb, hclass.2, hclass.1⟩] at hrun
    exact run_of_outcome?_none hstatements hrun
  · rw [if_neg hb] at hstatements
    rw [run, hstatements]
    exact ⟨_, _, rfl⟩

end

end Script

end SheetCompiler
