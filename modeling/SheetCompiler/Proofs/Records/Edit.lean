import SheetCompiler.Proofs.Records.RoundTrip
import SheetCompiler.Proofs.Table.Rows

/-!
# Edits of records

The cells of records are texts, and lists of lines that are never empty (`IsStored`). An edit is
refused, and then nothing changes, or it puts one cell of one record: the order of the records, the
keys of each and their order, the IDs and all other cells stay (`Edit.Puts`). A cell of lines stays
one. So whatever the edits, records stay as rows store them, and putting back the text that a cell
is shown as changes nothing.

Main statements:

* `isStored_of_readRows`: the records of accepted rows;
* `Edit.apply_of_isRefused` and `Edit.puts`: what an edit is refused for, and what it does else;
* `apply_shownText`: putting back what is shown;
* `isStored_afterEdits`: what any edits keep.
-/

namespace SheetCompiler

open SheetCompiler.Text

/-- A text is equal to no other value. -/
lemma Json.equal_text_iff {value : Json} {text : String} :
    value.equal (.text text) = true ↔ value = .text text := by
  have hscalar : value.text? = none → value.equalScalar (.text text) = false := by
    intro hnone
    unfold equalScalar
    cases value with
    | text s => cases hnone
    | real x =>
      have hreal : (Json.real x).integer? = x.toInt? := rfl
      rw [hreal]
      cases x.toInt? with
      | none => cases x <;> rfl
      | some i => rfl
    | _ => rfl
  have hother (hnone : value.text? = none) (hequal : value.equal (.text text) =
      value.equalScalar (.text text)) : value.equal (.text text) = true ↔ value = .text text := by
    rw [hequal, hscalar hnone]
    constructor
    · intro h
      cases h
    · rintro rfl
      cases hnone
  cases value with
  | text s => rw [equal_text, decide_eq_true_eq, Json.text.injEq]
  | _ => exact hother rfl (by simp [equal])

lemma Pairs.put_of_get? {α : Type} {pairs : Pairs α} {name : String} {value : α}
    (h : pairs.get? name = some value) : pairs.put name value = pairs := by
  induction pairs with
  | nil => cases h
  | cons p pairs ih =>
    obtain ⟨k, v⟩ := p
    rw [get?_cons] at h
    rw [put]
    split_ifs at h ⊢ with hk
    · cases h
      rfl
    · rw [ih h]

lemma Pairs.names_put_of_get? {α : Type} {pairs : Pairs α} {name : String} {value : α}
    (h : pairs.get? name = some value) (other : α) :
    (pairs.put name other).names = pairs.names := by
  have hmem : name ∈ pairs.names := by
    by_contra hnot
    rw [get?_eq_none_iff.2 hnot] at h
    cases h
  rw [names_put, if_pos hmem]

namespace Records

/-! ## Cells -/

/-- A cell as rows store it: a text, or a list of lines that is not empty. -/
inductive IsCell : Json → Prop
  | text (text : String) : IsCell (.text text)
  | lines {texts : List String} (hne : texts ≠ []) (h : ∀ text ∈ texts, '\n' ∉ text.toList) :
    IsCell (.ofTexts texts)

lemma splitCell_ne_nil (text : String) : splitCell text ≠ [] := by
  rw [splitCell, pieces, Ne, List.map_eq_nil_iff]
  exact splitOn_ne_nil _ _

lemma notMem_of_mem_splitCell {text line : String} (h : line ∈ splitCell text) :
    '\n' ∉ line.toList := by
  obtain ⟨piece, hpiece, rfl⟩ := List.mem_map.1 h
  rw [String.toList_ofList]
  exact not_mem_of_mem_splitOn hpiece

lemma isCell_splitCell (text : String) : IsCell (.ofTexts (splitCell text)) :=
  .lines (splitCell_ne_nil text) fun _ => notMem_of_mem_splitCell

/-- What a text becomes in the place of a cell: the lines of it where lines are stored. -/
def newCell (text : String) : Json → Json
  | .list _ => .ofTexts (splitCell text)
  | _ => .text text

lemma editedCell_text (text : String) (cell : Json) :
    editedCell (.text text) cell = .ok (newCell text cell) := by
  cases cell <;> rfl

lemma isCell_newCell (text : String) (cell : Json) : IsCell (newCell text cell) := by
  cases cell with
  | list items => exact isCell_splitCell text
  | _ => exact .text text

/-- A cell is shown as a text, and that text becomes the cell again. -/
lemma IsCell.shown {cell : Json} (h : IsCell cell) :
    ∃ text, cellText? cell = some (.text text) ∧ newCell text cell = cell := by
  cases h with
  | text text => exact ⟨text, rfl, rfl⟩
  | @lines texts hne h =>
    have htexts : (texts.map Json.text).mapM Json.text? = some texts := by
      induction texts with
      | nil => rfl
      | cons text texts ih =>
        by_cases hrest : texts = []
        · subst hrest
          rfl
        · rw [List.map_cons, List.mapM_cons, ih hrest fun t ht => h t (List.mem_cons_of_mem _ ht)]
          rfl
    refine ⟨Text.join "\n" texts, ?_, ?_⟩
    · rw [Json.ofTexts, cellText?, htexts]
    · have hsplit := splitCell_join hne h
      rw [Json.ofTexts, newCell, hsplit, Json.ofTexts]

/-! ## Records -/

/-- Whether the cells of a record are as rows store them, under distinct keys. -/
structure IsStored (record : Record) : Prop where
  keys : record.names.Nodup
  cells : ∀ cell ∈ record, IsCell cell.2

lemma IsStored.isPlain {record : Record} (h : IsStored record) : record.IsPlain := by
  refine ⟨h.keys, fun cell hcell => ?_⟩
  have hc := h.cells cell hcell
  revert hc
  generalize cell.2 = value
  rintro (text | _)
  · exact .inl ⟨text, rfl⟩
  · exact .inr ⟨_, rfl⟩

lemma IsStored.put {record : Record} (h : IsStored record) (key : String) {cell : Json}
    (hcell : IsCell cell) : IsStored (Pairs.put key cell record) := by
  refine ⟨Pairs.nodup_names_put h.keys key cell, fun other hother => ?_⟩
  rcases Pairs.mem_put hother with hold | rfl
  · exact h.cells other hold
  · exact hcell

/-- The records of accepted rows hold what their columns store. -/
theorem isStored_of_readRows {sheet : Sheet} {columns : List Column} {resolver : Resolver}
    {start : Int} {rows : List Row} (h : readRowsFromAny sheet columns resolver start = .ok rows) :
    ∀ record ∈ rows.map Row.cells, IsStored record := by
  intro record hrecord
  obtain ⟨row, hrow, rfl⟩ := List.mem_map.1 hrecord
  obtain ⟨r, hof⟩ := exists_isOf_of_mem (readRowsFromAny_eq_ok h).1 hrow
  rw [(readCells_eq_ok hof.cells).1]
  refine ⟨Pairs.nodup_names_putAll (by simp [Pairs.names]) _, fun cell hcell => ?_⟩
  rcases Pairs.mem_putAll hcell with hid | hstored
  · rw [List.mem_singleton.1 hid]
    exact .text _
  · have hpair : (cell.1, cell.2) ∈ Column.storedBy columns sheet r := hstored
    obtain ⟨c, -, -, -, hvalue⟩ := mem_storedBy hpair
    rw [← hvalue, Column.stored, storedCell]
    split_ifs
    · exact isCell_splitCell _
    · exact .text _

/-! ## Looking records up -/

/-- A record is the first one with an ID. -/
structure IsFirst (id : String) (records front : List Record) (record : Record)
    (back : List Record) : Prop where
  split : records = front ++ record :: back
  others : ∀ other ∈ front, idOf other ≠ .text id
  own : idOf record = .text id

variable {id : String} {records front back : List Record} {record : Record}

/-- There is a first record with an ID unless no record has it. -/
lemma exists_isFirst (h : ∃ record ∈ records, idOf record = .text id) :
    ∃ front record back, IsFirst id records front record back := by
  induction records with
  | nil =>
    obtain ⟨record, hrecord, -⟩ := h
    cases hrecord
  | cons first records ih =>
    by_cases hfirst : idOf first = .text id
    · exact ⟨[], first, records, rfl, nofun, hfirst⟩
    · obtain ⟨record, hrecord, hid⟩ := h
      have hrest : ∃ record ∈ records, idOf record = .text id := by
        rcases List.mem_cons.1 hrecord with rfl | hrecord
        · exact absurd hid hfirst
        · exact ⟨record, hrecord, hid⟩
      obtain ⟨front, found, back, hsplit, hothers, hown⟩ := ih hrest
      refine ⟨first :: front, found, back, by rw [hsplit]; rfl, ?_, hown⟩
      exact List.forall_mem_cons.2 ⟨hfirst, hothers⟩

lemma IsFirst.find (h : IsFirst id records front record back) :
    find (.text id) (records.map .object) = .ok record := by
  obtain ⟨rfl, hothers, hown⟩ := h
  have hfind : (front ++ record :: back).find? (fun r => (idOf r).equal (.text id)) =
      some record := by
    rw [List.find?_append, List.find?_eq_none.2, Option.none_or,
      List.find?_cons_of_pos (p := fun r => (idOf r).equal (.text id))
        (Json.equal_text_iff.2 hown)]
    intro other hother hequal
    exact hothers other hother (Json.equal_text_iff.1 hequal)
  rw [find_objects, hfind]

lemma find_of_forall_ne (h : ∀ record ∈ records, idOf record ≠ .text id) :
    find (.text id) (records.map .object) = .error (.record (.noRecord id)) := by
  have hfind : records.find? (fun r => (idOf r).equal (.text id)) = none :=
    List.find?_eq_none.2 fun record hrecord hequal =>
      h record hrecord (Json.equal_text_iff.1 hequal)
  rw [find_objects, hfind]
  rfl

/-- The first record with an ID is the one that gets the cell, in its place. -/
lemma IsFirst.putFirst (h : IsFirst id records front record back) (key : String) (cell : Json) :
    putFirst (.text id) key cell (records.map .object) =
      (front ++ Pairs.put key cell record :: back).map .object := by
  obtain ⟨rfl, hothers, hown⟩ := h
  induction front with
  | nil =>
    rw [List.nil_append, List.map_cons, Records.putFirst, Json.members?, Option.any_some,
      if_pos (Json.equal_text_iff.2 hown)]
    rfl
  | cons first front ih =>
    rw [List.forall_mem_cons] at hothers
    rw [List.cons_append, List.map_cons, Records.putFirst, Json.members?, Option.any_some,
      if_neg fun hequal => hothers.1 (Json.equal_text_iff.1 hequal), ih hothers.2]
    rfl

/-! ## Edits -/

/-- An edit: the ID of a record, the key of a cell, and the text that is put there. -/
structure Edit where
  id : String
  column : String
  text : String

namespace Edit

/-- The records after an edit with the edited one, or why it is refused. -/
def apply (e : Edit) (records : List Json) : Except Failure (List Json × Record) :=
  setCell records (.text e.id) (.text e.column) (.text e.text)

/-- The records after an edit; a refused one leaves them. -/
def after (records : List Json) (e : Edit) : List Json :=
  match e.apply records with
  | .ok (edited, _) => edited
  | .error _ => records

/-- What an edit is refused for: no record has the ID, the ID itself would be edited, or the record
has no cell under the key. -/
def IsRefused (e : Edit) (records : List Record) : Prop :=
  (∀ record ∈ records, idOf record ≠ .text e.id) ∨ e.column = idName ∨
    ∃ front record back, IsFirst e.id records front record back ∧ e.column ∉ record.names

/-- An edit puts one cell of one record: the keys of the record, its ID and its other cells stay,
and so do the records in front of it and behind it. -/
structure Puts (e : Edit) (records front : List Record) (record edited : Record)
    (back : List Record) : Prop where
  first : IsFirst e.id records front record back
  applied : e.apply (records.map .object) = .ok ((front ++ edited :: back).map .object, edited)
  names : edited.names = record.names
  id : idOf edited = idOf record
  others : ∀ key, key ≠ e.column → edited.get? key = record.get? key
  cell : ∃ cell, record.get? e.column = some cell ∧
    edited.get? e.column = some (newCell e.text cell)

variable {e : Edit}

/-- An edit is refused, or it is for a cell of the record with its ID. -/
lemma isRefused_or (e : Edit) (records : List Record) :
    e.IsRefused records ∨ ∃ front record back cell, IsFirst e.id records front record back ∧
      e.column ≠ idName ∧ record.get? e.column = some cell := by
  by_cases hid : ∃ record ∈ records, idOf record = .text e.id
  · obtain ⟨front, record, back, hfirst⟩ := exists_isFirst hid
    by_cases hcolumn : e.column = idName
    · exact .inl (.inr (.inl hcolumn))
    · cases hcell : record.get? e.column with
      | none =>
        exact .inl (.inr (.inr ⟨front, record, back, hfirst, Pairs.get?_eq_none_iff.1 hcell⟩))
      | some cell => exact .inr ⟨front, record, back, cell, hfirst, hcolumn, hcell⟩
  · exact .inl (.inl fun record hrecord howns => hid ⟨record, hrecord, howns⟩)

/-- A refused edit fails with a fault of records. -/
theorem apply_of_isRefused (h : e.IsRefused records) :
    ∃ fault, e.apply (records.map .object) = .error (.record fault) := by
  unfold apply setCell
  rcases h with hnone | hrest
  · rw [find_of_forall_ne hnone]
    exact ⟨_, rfl⟩
  · by_cases hnone : ∀ record ∈ records, idOf record ≠ .text e.id
    · rw [find_of_forall_ne hnone]
      exact ⟨_, rfl⟩
    · push Not at hnone
      obtain ⟨front, record, back, hfirst⟩ := exists_isFirst hnone
      rw [hfirst.find]
      by_cases hcolumn : e.column = idName
      · refine ⟨.idColumn, ?_⟩
        simp only [bind, Except.bind, editable, if_pos hcolumn]
      · obtain ⟨front', record', back', hfirst', hkey⟩ := hrest.resolve_left hcolumn
        have hsame := hfirst.find.symm.trans hfirst'.find
        cases hsame
        refine ⟨.noColumn (Json.text e.id).display e.column, ?_⟩
        simp only [bind, Except.bind, editable, if_neg hcolumn, Pairs.get?_eq_none_iff.2 hkey]

/-- An edit of a cell that is there puts it. -/
theorem puts_of_isFirst {cell : Json} (h : IsFirst e.id records front record back)
    (hcolumn : e.column ≠ idName) (hcell : record.get? e.column = some cell) :
    e.Puts records front record (Pairs.put e.column (newCell e.text cell) record) back := by
  refine ⟨h, ?_, Pairs.names_put_of_get? hcell _, ?_, ?_, cell, hcell, Pairs.get?_put_self _ _ _⟩
  · unfold apply
    rw [setCell_ok h.find hcolumn hcell (editedCell_text e.text cell), h.putFirst]
  · rw [idOf, idOf, Pairs.get?_put_of_ne hcolumn]
  · intro key hkey
    exact Pairs.get?_put_of_ne hkey.symm _ _

/-- An edit of a cell that is there is not refused. -/
lemma not_isRefused_of_isFirst {cell : Json} (h : IsFirst e.id records front record back)
    (hcolumn : e.column ≠ idName) (hcell : record.get? e.column = some cell) :
    ¬ e.IsRefused records := by
  intro hrefused
  obtain ⟨fault, hfault⟩ := apply_of_isRefused hrefused
  rw [(puts_of_isFirst h hcolumn hcell).applied] at hfault
  cases hfault

/-- An edit that is not refused puts a cell. -/
theorem puts (h : ¬ e.IsRefused records) :
    ∃ front record edited back, e.Puts records front record edited back := by
  obtain ⟨front, record, back, cell, hfirst, hcolumn, hcell⟩ :=
    (isRefused_or e records).resolve_left h
  exact ⟨front, record, _, back, puts_of_isFirst hfirst hcolumn hcell⟩

lemma isRefused_iff :
    (∃ fault, e.apply (records.map .object) = .error (.record fault)) ↔ e.IsRefused records := by
  refine ⟨fun ⟨fault, hfault⟩ => ?_, apply_of_isRefused⟩
  by_contra h
  obtain ⟨front, record, edited, back, hputs⟩ := puts h
  rw [hputs.applied] at hfault
  cases hfault

lemma after_of_isRefused (h : e.IsRefused records) :
    after (records.map .object) e = records.map .object := by
  obtain ⟨fault, hfault⟩ := apply_of_isRefused h
  rw [after, hfault]

/-- Putting back the text that a cell is shown as changes nothing. -/
theorem apply_shownText {column : String} {cell : Json}
    (h : IsFirst id records front record back) (hstored : IsStored record)
    (hcolumn : column ≠ idName) (hcell : record.get? column = some cell) :
    ∃ text, cellText? cell = some (.text text) ∧
      (⟨id, column, text⟩ : Edit).apply (records.map .object) =
        .ok (records.map .object, record) := by
  obtain ⟨text, htext, hsame⟩ := (hstored.cells _ (Pairs.mem_of_get? hcell)).shown
  have hputs := puts_of_isFirst (e := ⟨id, column, text⟩) h hcolumn hcell
  have happlied := hputs.applied
  dsimp only at happlied
  rw [hsame, Pairs.put_of_get? hcell, ← h.split] at happlied
  exact ⟨text, htext, happlied⟩

/-! ## Edits one after the other -/

/-- Whatever an edit does, records stay as rows store them, with their IDs and their keys. -/
lemma exists_after (h : ∀ record ∈ records, IsStored record) (e : Edit) :
    ∃ edited : List Record, after (records.map .object) e = edited.map .object ∧
      (∀ record ∈ edited, IsStored record) ∧ edited.map idOf = records.map idOf ∧
      edited.map Pairs.names = records.map Pairs.names := by
  rcases isRefused_or e records with
    hrefused | ⟨front, record, back, cell, hfirst, hcolumn, hcell⟩
  · exact ⟨records, after_of_isRefused hrefused, h, rfl, rfl⟩
  · have hputs := puts_of_isFirst hfirst hcolumn hcell
    refine ⟨_, by rw [Edit.after, hputs.applied], ?_, ?_, ?_⟩
    · rw [hfirst.split, List.forall_mem_append, List.forall_mem_cons] at h
      rw [List.forall_mem_append, List.forall_mem_cons]
      exact ⟨h.1, h.2.1.put _ (isCell_newCell _ _), h.2.2⟩
    · rw [hfirst.split, List.map_append, List.map_append, List.map_cons, List.map_cons, hputs.id]
    · rw [hfirst.split, List.map_append, List.map_append, List.map_cons, List.map_cons, hputs.names]

end Edit

/-- The records after edits, one after the other. -/
def afterEdits (records : List Json) (edits : List Edit) : List Json :=
  edits.foldl Edit.after records

/-- Whatever the edits do, records stay as rows store them, with their IDs and their keys. -/
theorem isStored_afterEdits (h : ∀ record ∈ records, IsStored record) (edits : List Edit) :
    ∃ edited : List Record, afterEdits (records.map .object) edits = edited.map .object ∧
      (∀ record ∈ edited, IsStored record) ∧ edited.map idOf = records.map idOf ∧
      edited.map Pairs.names = records.map Pairs.names := by
  induction edits generalizing records with
  | nil => exact ⟨records, rfl, h, rfl, rfl⟩
  | cons e edits ih =>
    obtain ⟨next, hnext, hstored, hids, hnames⟩ := e.exists_after h
    obtain ⟨edited, hedited, hkept, hids', hnames'⟩ := ih hstored
    refine ⟨edited, ?_, hkept, hids'.trans hids, hnames'.trans hnames⟩
    rw [afterEdits, List.foldl_cons, hnext]
    exact hedited

end Records

end SheetCompiler
