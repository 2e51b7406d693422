import SheetCompiler.Proofs.Compile.Reload
import SheetCompiler.Proofs.Registry.Repeated
import SheetCompiler.Registry.Question

/-!
# Snapshots of data files

The records of a table are read when they are first needed. From then on every question is answered
from them, whatever becomes of the data file, until a directory of data files is set or the table is
declared anew (`Operation.Resets`). While the file cannot be read, questions fail and leave the table
as it is, so that a later one may find a file that can be.

Whatever looks into records may read tables that it refers to; what all of it keeps is that tables
are read at most, each from the data file of its name (`Registry.Loads`).

Main statements:

* `Registry.apply_ask`: questions are answered from the records of the table alone;
* `Runtime.exists_isSnapshot`: between two resets, all answers come from one reading;
* `Runtime.isSnapshot_after`: so do they in every run from an empty registry, and the reading is that
  of the directory that was set last.
-/

namespace SheetCompiler

open SheetCompiler.Stateful

/-- The answer to a question from records. -/
def Question.answerFrom (records : List StoredRecord) : Question → Except Failure Answer
  | .ids => .ok (.ids (records.map StoredRecord.key))
  | .count => .ok (.count records.length)
  | .all => .ok (.all records)
  | .has id =>
    if id.isKey then .ok (.truth (Registry.findRecord? records id).isSome) else .error .shape
  | .find id fallback =>
    if id.isKey then
      match Registry.findRecord? records id with
      | some found => .ok (.record found)
      | none => .ok (.fallback fallback)
    else .error .shape
  | .record id =>
    if id.isKey then
      match Registry.findRecord? records id with
      | some found => .ok (.record found)
      | none => .error (.key id)
    else .error .shape

namespace Registry

variable {files : FileTree} {r s u : Registry} {name : String} {α β : Type}

/-- A question is answered from the records of the table, and fails if they cannot be read. -/
theorem apply_ask (files : FileTree) (name : String) (question : Question) (r : Registry) :
    (ask files name question).apply r =
      match (rows files name).apply r with
      | (.ok records, s) => (question.answerFrom records, s)
      | (.error e, s) => (.error e, s) := by
  have hrecord? (id : Json) : (record? files name id).apply r =
      match (rows files name).apply r with
      | (.ok records, s) =>
        (if id.isKey then .ok (findRecord? records id) else .error .shape, s)
      | (.error e, s) => (.error e, s) := by
    rw [record?, apply_bind]
    rcases (rows files name).apply r with ⟨e | records, s⟩
    · rfl
    · dsimp only
      split <;> rfl
  cases question with
  | ids | count | all =>
    rw [ask, apply_bind]
    rcases (rows files name).apply r with ⟨e | records, s⟩ <;> rfl
  | has id =>
    rw [ask, apply_bind, hrecord?]
    rcases (rows files name).apply r with ⟨e | records, s⟩
    · rfl
    · dsimp only [Question.answerFrom]
      cases id.isKey <;> rfl
  | find id fallback =>
    rw [ask, apply_bind, hrecord?]
    rcases (rows files name).apply r with ⟨e | records, s⟩
    · rfl
    · dsimp only [Question.answerFrom]
      cases id.isKey
      · rfl
      · cases findRecord? records id <;> rfl
  | record id =>
    rw [ask, record, apply_bind, apply_bind, hrecord?]
    rcases (rows files name).apply r with ⟨e | records, s⟩
    · rfl
    · dsimp only [Question.answerFrom]
      cases id.isKey
      · rfl
      · cases findRecord? records id <;> rfl

/-! ## What looking into records keeps -/

/-- What queries do to a registry: tables that had not been read may have been read, each from its
data file. Nothing else has changed. -/
structure Loads (files : FileTree) (r s : Registry) : Prop where
  data : s.data = r.data
  tables : ∀ name, s.tables.get? name = r.tables.get? name ∨
    ∃ type records, r.tables.get? name = some ⟨type, none⟩ ∧
      readRecords files type (r.dataPath name) = .ok records ∧
      s.tables.get? name = some ⟨type, some records⟩

namespace Loads

lemma refl (files : FileTree) (r : Registry) : Loads files r r := ⟨rfl, fun _ => .inl rfl⟩

lemma trans (h : Loads files r s) (h' : Loads files s u) : Loads files r u := by
  refine ⟨h'.data.trans h.data, fun name => ?_⟩
  have hpath : s.dataPath name = r.dataPath name := by rw [dataPath, dataPath, h.data]
  rcases h.tables name with hsame | ⟨type, records, hnone, hread, hsome⟩
  · rw [← hsame, ← hpath]
    exact h'.tables name
  · rcases h'.tables name with hsame' | ⟨type', records', hnone', -⟩
    · exact .inr ⟨type, records, hnone, hread, hsame'.trans hsome⟩
    · cases hsome.symm.trans hnone'

/-- The types of tables stay. -/
lemma map_type (h : Loads files r s) (name : String) :
    (s.tables.get? name).map DeclaredTable.type =
      (r.tables.get? name).map DeclaredTable.type := by
  rcases h.tables name with hsame | ⟨type, records, hnone, -, hsome⟩
  · rw [hsame]
  · rw [hnone, hsome]
    rfl

end Loads

/-- A query that loads tables at most. -/
abbrev OnlyLoads (files : FileTree) (q : Query α) : Prop := Keeps (Loads files) q

namespace OnlyLoads

lemma pure (x : α) : OnlyLoads files (Pure.pure x : Query α) := Keeps.pure (Loads.refl files) x

lemma throw (e : Failure) : OnlyLoads files (MonadExcept.throw e : Query α) :=
  Keeps.throw (Loads.refl files) e

lemma get : OnlyLoads files (MonadState.get : Query Registry) := Keeps.get (Loads.refl files)

lemma bind {a : Query α} {f : α → Query β} (ha : OnlyLoads files a)
    (hf : ∀ x, OnlyLoads files (f x)) : OnlyLoads files (a >>= f) :=
  Keeps.bind (R := Loads files) (fun _ _ _ => Loads.trans) ha hf

/-- What fails under a condition loads what comes after it. -/
lemma guard {p : Prop} [Decidable p] {e : Failure} {f : PUnit → Query α}
    (hf : ∀ x, OnlyLoads files (f x)) :
    OnlyLoads files (if p then (do let x ← MonadExcept.throw e; f x) else f ⟨⟩) := by
  split
  · exact (throw e).bind hf
  · exact hf _

lemma mapM {xs : List α} {f : α → Query β} (hf : ∀ x, OnlyLoads files (f x)) :
    OnlyLoads files (xs.mapM f) := by
  induction xs with
  | nil => exact pure []
  | cons x xs ih =>
    rw [List.mapM_cons]
    exact (hf x).bind fun y => ih.bind fun ys => pure (y :: ys)

lemma table (name : String) : OnlyLoads files (Registry.table name) := by
  refine get.bind fun r => ?_
  split
  · exact pure _
  · exact throw _

/-- Going to the records of a table loads it if it has not been read and can be. -/
lemma rows (files : FileTree) (name : String) : OnlyLoads files (Registry.rows files name) := by
  intro r
  cases ht : r.tables.get? name with
  | none =>
    have hrows : (Registry.rows files name).apply r = (.error (.key (.text name)), r) := by
      simp [Registry.rows, Registry.table, ht]
    rw [hrows]
    exact .refl files r
  | some t =>
    obtain ⟨type, _ | records⟩ := t
    · rw [apply_rows ht]
      cases hread : readRecords files type (r.dataPath name) with
      | error e => exact .refl files r
      | ok records =>
        refine ⟨rfl, fun other => ?_⟩
        by_cases hother : name = other
        · subst hother
          exact .inr ⟨type, records, ht, hread, get?_keeping r name type records⟩
        · exact .inl (Pairs.get?_put_of_ne hother _ _)
    · rw [rows_of_loaded ht rfl]
      exact .refl files r

lemma record? (name : String) (id : Json) : OnlyLoads files (Registry.record? files name id) := by
  refine (rows files name).bind fun records => ?_
  split
  · exact pure _
  · exact throw _

lemma record (name : String) (id : Json) : OnlyLoads files (Registry.record files name id) := by
  refine (record? name id).bind fun found => ?_
  split
  · exact pure _
  · exact throw _

lemma ask (name : String) (question : Question) :
    OnlyLoads files (Registry.ask files name question) := by
  intro r
  have hrows := rows files name r
  rw [apply_ask]
  rcases hr : (Registry.rows files name).apply r with ⟨e | records, s⟩ <;> rw [hr] at hrows <;>
    exact hrows

lemma resolve (f : Field) (cell : Json) : OnlyLoads files (Registry.resolve files f cell) := by
  unfold Registry.resolve
  split
  · exact (record _ cell).bind fun found => pure _
  · refine get.bind fun r => ?_
    split
    · exact pure _
    · exact throw _

lemma resolveAll (f : Field) (cells : List Json) :
    OnlyLoads files (Registry.resolveAll files f cells) := by
  induction cells with
  | nil => exact pure []
  | cons cell cells ih => exact (resolve f cell).bind fun v => ih.bind fun vs => pure (v :: vs)

lemma fieldValue (f : Field) (record : StoredRecord) :
    OnlyLoads files (Registry.fieldValue files f record) := by
  unfold Registry.fieldValue
  split
  · exact pure _
  · split
    · split
      · exact (resolveAll f _).bind fun vs => pure _
      · exact throw _
    · exact resolve f _

lemma attributeIn (type : RecordType) (record : StoredRecord) (field : String) :
    OnlyLoads files (Registry.attributeIn files type record field) := by
  refine guard fun _ => guard fun _ => ?_
  split
  · exact fieldValue _ record
  · exact pure _
  · split_ifs
    · exact pure _
    · exact pure _
    · exact throw _
    · split
      · exact (fieldValue _ record).bind fun _ => throw _
      · exact throw _

lemma attributeOf (name : String) (id : Json) (field : String) :
    OnlyLoads files (Registry.attributeOf files name id field) :=
  (table name).bind fun t => (record name id).bind fun found => attributeIn t.type found field

lemma describe (name field : String) : OnlyLoads files (Registry.describe name field) := by
  refine (table name).bind fun t => ?_
  split
  · exact pure _
  · exact throw _

lemma valueText (fuel : Nat) (value : Value) :
    OnlyLoads files (Registry.valueText files fuel value) := by
  induction fuel generalizing value with
  | zero => exact throw _
  | succ fuel ih =>
    cases value with
    | stored v => exact pure _
    | member e name v => exact pure _
    | list items => exact (mapM ih).bind fun texts => pure _
    | record name key =>
      refine (table name).bind fun t => (record name key).bind fun found => ?_
      split
      · exact (attributeIn t.type found _).bind fun _ => throw _
      · exact (attributeIn t.type found _).bind fun id => (ih id).bind fun text => pure _

lemma compare (name : String) (id : Json) (other : String) (otherId : Json) :
    OnlyLoads files (Registry.compare files name id other otherId) := by
  refine (record name id).bind fun a => (record other otherId).bind fun b =>
    (table name).bind fun t => (table other).bind fun t' => guard fun _ =>
    (attributeIn t.type a idName).bind fun hash =>
    (attributeIn t'.type b idName).bind fun otherHash => ?_
  split
  · exact pure _
  · exact throw _

end OnlyLoads

end Registry

/-! ## Runs -/

/-- What scripts have declared, and the files around. -/
structure Runtime where
  registry : Registry
  files : FileTree

/-- What can be inquired of a registry: records are asked for, looked into, compared and shown, and
fields are described. -/
inductive Runtime.Inquiry
  | ask (name : String) (question : Question)
  | look (name : String) (id : Json) (field : String)
  | describe (name field : String)
  | compare (name : String) (id : Json) (other : String) (otherId : Json)
  | display (name : String) (key : Json)

/-- What is done at run time: tables and enumerations are declared, the directory of data files is
set, the registry is inquired of, and others change the files. -/
inductive Runtime.Operation
  | declare (name : String) (type : RecordType)
  | register (c : Container)
  | configure (data : String)
  | inquire (inquiry : Runtime.Inquiry)
  | change (files : FileTree)

namespace Runtime

open Registry (IsReading Loads)

/-- The registry that an inquiry leaves, whether or not it fails. -/
def Inquiry.leaves (files : FileTree) (r : Registry) : Inquiry → Registry
  | .ask name question => ((Registry.ask files name question).apply r).2
  | .look name id field => ((Registry.attributeOf files name id field).apply r).2
  | .describe name field => ((Registry.describe name field).apply r).2
  | .compare name id other otherId => ((Registry.compare files name id other otherId).apply r).2
  | .display name key => ((Registry.recordText files name key).apply r).2

/-- What an operation leaves. -/
def Operation.apply (p : Runtime) : Operation → Runtime
  | .declare name type => { p with registry := p.registry.declareTable name type }
  | .register c => { p with registry := p.registry.declareContainer c }
  | .configure data => { p with registry := p.registry.configure data }
  | .inquire inquiry => { p with registry := inquiry.leaves p.files p.registry }
  | .change files => { p with files }

/-- What operations leave, one after the other. -/
def after (p : Runtime) (ops : List Operation) : Runtime := ops.foldl Operation.apply p

/-- The answer to a question about the records of a table. -/
def answer (p : Runtime) (name : String) (question : Question) : Except Failure Answer :=
  ((Registry.ask p.files name question).apply p.registry).1

/-- Whether an operation makes a table be read again: it declares the table, or sets the directory. -/
def Operation.Resets (name : String) : Operation → Prop
  | .declare other _ => other = name
  | .configure _ => True
  | _ => False

/-- The directory that operations leave set. -/
def configured (data : String) (ops : List Operation) : String :=
  ops.foldl (fun data op => match op with | .configure other => other | _ => data) data

/-- The type with which operations leave a table declared. -/
def declared? (name : String) (type? : Option RecordType) (ops : List Operation) :
    Option RecordType :=
  ops.foldl (fun type? op => match op with
    | .declare other type => if other = name then some type else type?
    | _ => type?) type?

variable {p : Runtime} {name path data : String} {type : RecordType} {op : Operation}
  {records : List StoredRecord} {ops later : List Operation}

lemma after_cons (p : Runtime) (op : Operation) (ops : List Operation) :
    p.after (op :: ops) = (op.apply p).after ops := rfl

lemma after_append (p : Runtime) (ops more : List Operation) :
    p.after (ops ++ more) = (p.after ops).after more := List.foldl_append

/-! ### One operation -/

/-- Inquiries load tables at most. -/
lemma Inquiry.loads (files : FileTree) (r : Registry) (inquiry : Inquiry) :
    Loads files r (inquiry.leaves files r) := by
  cases inquiry with
  | ask name question => exact Registry.OnlyLoads.ask name question r
  | look name id field => exact Registry.OnlyLoads.attributeOf name id field r
  | describe name field => exact Registry.OnlyLoads.describe name field r
  | compare name id other otherId => exact Registry.OnlyLoads.compare name id other otherId r
  | display name key => exact Registry.OnlyLoads.valueText _ (.record name key) r

/-- An operation that does not reset a table reads its records at most. -/
lemma loads_of_not_resets (h : ¬ op.Resets name) (p : Runtime) :
    (op.apply p).registry.data = p.registry.data ∧
      ((op.apply p).registry.tables.get? name = p.registry.tables.get? name ∨
        ∃ type records, p.registry.tables.get? name = some ⟨type, none⟩ ∧
          Registry.readRecords p.files type (p.registry.dataPath name) = .ok records ∧
          (op.apply p).registry.tables.get? name = some ⟨type, some records⟩) := by
  cases op with
  | declare other type => exact ⟨rfl, .inl (Pairs.get?_put_of_ne h _ _)⟩
  | configure data => exact absurd trivial h
  | register c => exact ⟨rfl, .inl rfl⟩
  | change files => exact ⟨rfl, .inl rfl⟩
  | inquire inquiry =>
    have hloads := inquiry.loads p.files p.registry
    exact ⟨hloads.data, hloads.tables name⟩

/-- What a runtime knows of a table: its type, the directory of its data file, and the records that
have been read, if any have. -/
structure Has (p : Runtime) (name : String) (type : RecordType) (data : String)
    (rows : Option (List StoredRecord)) : Prop where
  data : p.registry.data = data
  table : p.registry.tables.get? name = some ⟨type, rows⟩

lemma Has.dataPath {rows : Option (List StoredRecord)} (h : p.Has name type data rows) :
    p.registry.dataPath name = Path.join data (name ++ ".json") := by
  rw [Registry.dataPath, h.data]

/-- Records that have been read stay. -/
lemma Has.step_read (h : p.Has name type data (some records)) (hop : ¬ op.Resets name) :
    (op.apply p).Has name type data (some records) := by
  obtain ⟨hdata, hsame | ⟨type', records', hnone, -⟩⟩ := loads_of_not_resets hop p
  · exact ⟨hdata.trans h.data, hsame.trans h.table⟩
  · cases h.table.symm.trans hnone

/-- Records that have not been read stay so, or are read from the data file. -/
lemma Has.step_unread (h : p.Has name type data none) (hop : ¬ op.Resets name) :
    (op.apply p).Has name type data none ∨
      ∃ records, Registry.readRecords p.files type (Path.join data (name ++ ".json")) =
          .ok records ∧
        (op.apply p).Has name type data (some records) := by
  obtain ⟨hdata, hsame | ⟨type', records, hnone, hread, hsome⟩⟩ := loads_of_not_resets hop p
  · exact .inl ⟨hdata.trans h.data, hsame.trans h.table⟩
  · obtain rfl : type = type' := by cases h.table.symm.trans hnone; rfl
    rw [h.dataPath] at hread
    exact .inr ⟨records, hread, hdata.trans h.data, hsome⟩

/-- Records that have been read answer every question, and the question changes nothing. -/
lemma Has.ask_read (h : p.Has name type data (some records)) (question : Question) :
    (Registry.ask p.files name question).apply p.registry =
      (question.answerFrom records, p.registry) := by
  rw [Registry.apply_ask, Registry.rows_of_loaded h.table rfl]

/-- As long as records have not been read, a question reads them. -/
lemma Has.ask_unread (h : p.Has name type data none) (question : Question) :
    (Registry.ask p.files name question).apply p.registry =
      match Registry.readRecords p.files type (Path.join data (name ++ ".json")) with
      | .ok records => (question.answerFrom records, p.registry.keeping name type records)
      | .error e => (.error e, p.registry) := by
  rw [Registry.apply_ask, Registry.apply_rows h.table, h.dataPath]
  cases Registry.readRecords p.files type (Path.join data (name ++ ".json")) <;> rfl

/-! ### Operations one after the other -/

/-- Records that have been read stay through operations that do not reset the table. -/
lemma Has.run_read (h : p.Has name type data (some records))
    (hops : ∀ op ∈ ops, ¬ op.Resets name) : (p.after ops).Has name type data (some records) := by
  induction ops generalizing p with
  | nil => exact h
  | cons op ops ih =>
    obtain ⟨hop, hrest⟩ := List.forall_mem_cons.1 hops
    exact ih (h.step_read hop) hrest

/-- How questions about the records of a table are answered in a run whose operations do not reset
it. While the table waits to be read, its data file could not be read when a question came; then the
records are kept that the data file holds, and nothing but them counts. -/
structure IsSnapshot (name : String) (type : RecordType) (path : String) (start : Runtime)
    (waiting kept : List Operation) : Prop where
  unread : ∀ seen, seen <+: waiting →
    (start.after seen).registry.tables.get? name = some ⟨type, none⟩
  reading : ∀ seen, seen <+: waiting → ∀ question,
    (start.after seen).answer name question =
      Registry.readRecords (start.after seen).files type path >>= question.answerFrom
  raised : ∀ seen question, seen ++ [.inquire (.ask name question)] <+: waiting →
    ∃ e, Registry.readRecords (start.after seen).files type path = .error e ∧
      (start.after seen).answer name question = .error e ∧
      start.after (seen ++ [.inquire (.ask name question)]) = start.after seen
  read : kept ≠ [] → ∃ records,
    Registry.readRecords (start.after waiting).files type path = .ok records ∧
      ∀ seen, seen <+: kept → ∀ question,
        (start.after (waiting ++ seen)).answer name question = question.answerFrom records
  readable : ∀ seen, seen <+: waiting →
    IsReading (start.after seen).files type path
      (Registry.readRecords (start.after seen).files type path)

/-- As long as records have not been read, a question is answered from what the data file holds. -/
lemma Has.answer_unread (h : p.Has name type data none) (question : Question) :
    p.answer name question =
      Registry.readRecords p.files type (Path.join data (name ++ ".json")) >>=
        question.answerFrom := by
  rw [answer, h.ask_unread]
  cases Registry.readRecords p.files type (Path.join data (name ++ ".json")) <;> rfl

/-- A question after which the records have still not been read has failed and changed nothing. -/
lemma Has.raised {question : Question} (h : p.Has name type data none)
    (hafter : ((Operation.inquire (.ask name question)).apply p).Has name type data none) :
    ∃ e, Registry.readRecords p.files type (Path.join data (name ++ ".json")) = .error e ∧
      p.answer name question = .error e ∧ (Operation.inquire (.ask name question)).apply p = p := by
  have hask := h.ask_unread question
  cases hread : Registry.readRecords p.files type (Path.join data (name ++ ".json")) with
  | error e =>
    rw [hread] at hask
    refine ⟨e, rfl, congrArg Prod.fst hask, ?_⟩
    rw [Operation.apply, Inquiry.leaves, hask]
  | ok records =>
    rw [hread] at hask
    have htable := hafter.table
    rw [Operation.apply, Inquiry.leaves, hask] at htable
    cases htable.symm.trans (Registry.get?_keeping p.registry name type records)

/-- Where nothing has to be waited for, the records are those that the data file holds at once. -/
lemma Has.isSnapshot_nil {kept : List Operation} (h : p.Has name type data none)
    (hkept : kept ≠ [] → ∃ records,
      Registry.readRecords p.files type (Path.join data (name ++ ".json")) = .ok records ∧
        ∀ seen, seen <+: kept → ∀ question,
          (p.after seen).answer name question = question.answerFrom records) :
    IsSnapshot name type (Path.join data (name ++ ".json")) p [] kept := by
  constructor
  case unread =>
    intro seen hseen
    rw [List.prefix_nil.1 hseen]
    exact h.table
  case reading =>
    intro seen hseen
    rw [List.prefix_nil.1 hseen]
    exact h.answer_unread
  case raised =>
    intro seen question hseen
    exact absurd (List.prefix_nil.1 hseen) (by simp)
  case read => exact hkept
  case readable => exact fun seen _ => Registry.isReading_readRecords _ _ _

/-- An operation that leaves the records unread prolongs the waiting. -/
lemma Has.isSnapshot_cons {waiting kept : List Operation} (h : p.Has name type data none)
    (hafter : (op.apply p).Has name type data none)
    (hsnapshot : IsSnapshot name type (Path.join data (name ++ ".json")) (op.apply p) waiting
      kept) :
    IsSnapshot name type (Path.join data (name ++ ".json")) p (op :: waiting) kept := by
  constructor
  case unread =>
    intro seen hseen
    rcases List.prefix_cons_iff.1 hseen with rfl | ⟨rest, rfl, hrest⟩
    · exact h.table
    · exact hsnapshot.unread rest hrest
  case reading =>
    intro seen hseen
    rcases List.prefix_cons_iff.1 hseen with rfl | ⟨rest, rfl, hrest⟩
    · exact h.answer_unread
    · exact hsnapshot.reading rest hrest
  case raised =>
    intro seen question hseen
    cases seen with
    | nil =>
      obtain ⟨rfl, -⟩ := List.cons_prefix_cons.1 hseen
      exact h.raised hafter
    | cons first rest =>
      obtain ⟨rfl, hrest⟩ := List.cons_prefix_cons.1 hseen
      exact hsnapshot.raised rest question hrest
  case read => exact hsnapshot.read
  case readable => exact fun seen _ => Registry.isReading_readRecords _ _ _

/-- Between two resets, all answers come from one reading. The induction is on the operations: the
first one after which the records have been read ends the waiting. -/
theorem exists_isSnapshot (h : p.Has name type data none) (hops : ∀ op ∈ ops, ¬ op.Resets name) :
    ∃ waiting kept, ops = waiting ++ kept ∧
      IsSnapshot name type (Path.join data (name ++ ".json")) p waiting kept := by
  induction ops generalizing p with
  | nil => exact ⟨[], [], rfl, h.isSnapshot_nil fun hne => absurd rfl hne⟩
  | cons op ops ih =>
    obtain ⟨hop, hrest⟩ := List.forall_mem_cons.1 hops
    rcases h.step_unread hop with hunread | ⟨records, hread, hhas⟩
    · obtain ⟨waiting, kept, rfl, hsnapshot⟩ := ih hunread hrest
      exact ⟨op :: waiting, kept, rfl, h.isSnapshot_cons hunread hsnapshot⟩
    · refine ⟨[], op :: ops, rfl, h.isSnapshot_nil fun _ => ⟨records, hread, ?_⟩⟩
      intro seen hseen question
      rcases List.prefix_cons_iff.1 hseen with rfl | ⟨rest, rfl, hmore⟩
      · have hfirst := h.answer_unread question
        rw [hread] at hfirst
        exact hfirst
      · have hkept := hhas.run_read fun other hother => hrest other (hmore.subset hother)
        exact congrArg Prod.fst (hkept.ask_read question)

/-! ### Runs from empty registries -/

/-- The directory is the one that was set last. -/
lemma data_after (p : Runtime) (ops : List Operation) :
    (p.after ops).registry.data = configured p.registry.data ops := by
  induction ops generalizing p with
  | nil => rfl
  | cons op ops ih =>
    rw [after_cons, ih]
    cases op with
    | inquire inquiry =>
      exact congrArg (configured · ops) (inquiry.loads p.files p.registry).data
    | _ => rfl

/-- The type of a table is the one that was declared last. -/
lemma type_after (name : String) (p : Runtime) (ops : List Operation) :
    ((p.after ops).registry.tables.get? name).map DeclaredTable.type =
      declared? name ((p.registry.tables.get? name).map DeclaredTable.type) ops := by
  induction ops generalizing p with
  | nil => rfl
  | cons op ops ih =>
    rw [after_cons, ih]
    refine congrArg (declared? name · ops) ?_
    cases op with
    | declare other type =>
      dsimp only [Operation.apply, Registry.declareTable]
      split_ifs with hother
      · rw [hother, Pairs.get?_put_self]
        rfl
      · rw [Pairs.get?_put_of_ne hother]
    | configure data =>
      dsimp only [Operation.apply]
      rw [Registry.table?_configure, Option.map_map]
      rfl
    | inquire inquiry => exact (inquiry.loads p.files p.registry).map_type name
    | register c => rfl
    | change files => rfl

/-- An operation that resets a table leaves its records unread. -/
lemma rows_of_resets {t : DeclaredTable} (h : op.Resets name)
    (ht : (op.apply p).registry.tables.get? name = some t) : t.rows = none := by
  cases op with
  | declare other type =>
    obtain rfl : other = name := h
    have hput := Pairs.get?_put_self p.registry.tables other (⟨type, none⟩ : DeclaredTable)
    cases ht.symm.trans hput
    rfl
  | configure data =>
    have hmap := (Registry.table?_configure p.registry data name).symm.trans ht
    obtain ⟨before, -, rfl⟩ := Option.map_eq_some_iff.1 hmap
    rfl
  | _ => exact h.elim

/-- In every run from an empty registry, the records of a table are a snapshot of its data file in
the directory that was set last, made after the table was reset for the last time. -/
theorem isSnapshot_after (data : String) (files : FileTree) {name : String} {type : RecordType}
    {before later : List Operation} {reset : Operation} (hreset : reset.Resets name)
    (hlater : ∀ op ∈ later, ¬ op.Resets name)
    (htype : declared? name none (before ++ [reset]) = some type) :
    ∃ waiting kept, later = waiting ++ kept ∧
      IsSnapshot name type
        (Path.join (configured data (before ++ [reset])) (name ++ ".json"))
        ((Runtime.mk (.empty data) files).after (before ++ [reset])) waiting kept := by
  have hdata := data_after (.mk (.empty data) files) (before ++ [reset])
  have htables := type_after name (.mk (.empty data) files) (before ++ [reset])
  have hnone : ((Registry.empty data).tables.get? name).map DeclaredTable.type = none := rfl
  rw [hnone, htype] at htables
  obtain ⟨t, ht, rfl⟩ := Option.map_eq_some_iff.1 htables
  have hrows : t.rows = none := by
    rw [after_append] at ht
    exact rows_of_resets hreset ht
  refine exists_isSnapshot ⟨hdata, ?_⟩ hlater
  rw [ht, ← hrows]

/-- A record type of one field. -/
def itemType : RecordType := ⟨"TbItemType", [⟨"Name", "string", false, false⟩], []⟩

/-- A run in which the data file of a table comes after the first question and goes after the
second. -/
def itemRun : List Operation :=
  [.inquire (.ask "Item" .ids),
    .change ⟨[(["Data"], .directory),
      (["Data", "Item.json"], .file (.text "[\x7b\"ID\": \"1\"\x7d, \x7b\"ID\": \"1\"\x7d]"))]⟩,
    .inquire (.ask "Item" .ids), .change .empty, .inquire (.ask "Item" .count)]

/-- The run takes place between two resets. -/
theorem isSnapshot_itemRun :
    (Operation.configure "Data").Resets "Item" ∧ (∀ op ∈ itemRun, ¬ op.Resets "Item") ∧
      declared? "Item" none [.declare "Item" itemType, .configure "Data"] = some itemType ∧
      ∃ waiting kept, itemRun = waiting ++ kept ∧
        IsSnapshot "Item" itemType (Path.join "Data" "Item.json")
          ((Runtime.mk (.empty "Resources") .empty).after
            [.declare "Item" itemType, .configure "Data"]) waiting kept := by
  have hreset : (Operation.configure "Data").Resets "Item" := trivial
  have hlater : ∀ op ∈ itemRun, ¬ op.Resets "Item" := by simp [itemRun, Operation.Resets]
  have htype : declared? "Item" none ([.declare "Item" itemType] ++ [.configure "Data"]) =
      some itemType := rfl
  exact ⟨hreset, hlater, htype, isSnapshot_after "Resources" .empty hreset hlater htype⟩

end Runtime

end SheetCompiler
