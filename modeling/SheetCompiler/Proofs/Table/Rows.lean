import SheetCompiler.Proofs.Schema.Columns
import SheetCompiler.Proofs.Stateful
import SheetCompiler.Table.Convert

/-!
# Data rows and what their records hold

The rows of a data file are the data rows of the sheet (`dataRows`), one after the other, and the
record of a row holds the ID and what the columns store of it, put under their keys from left to
right. A cell is read back unless a column further to the right stores something else under the same
key.

Main statements:

* `readCells_eq_ok`: what a record holds, and that every cell has passed its check;
* `readRowsFrom_eq_ok`: which rows there are;
* `read_back_iff`: which cells are read back;
* `readColumns_keys`: what accepted columns promise of their keys and of the rows read under them.
-/

namespace SheetCompiler

open SheetCompiler.Text

/-! ## Values put one after the other -/

namespace Pairs

variable {α : Type}

lemma get?_append (pairs more : Pairs α) (name : String) :
    get? (pairs ++ more) name = (get? pairs name).or (get? more name) := by
  induction pairs with
  | nil => rfl
  | cons p pairs ih =>
    obtain ⟨k, v⟩ := p
    rw [List.cons_append, get?_cons, get?_cons, ih]
    split <;> rfl

/-- The last value that is put under a name counts. -/
lemma get?_putAll (pairs more : Pairs α) (name : String) :
    get? (putAll pairs more) name = (get? more.reverse name).or (get? pairs name) := by
  induction more generalizing pairs with
  | nil => rfl
  | cons p more ih =>
    obtain ⟨k, v⟩ := p
    have hput : get? (put k v pairs) name = (get? [(k, v)] name).or (get? pairs name) := by
      by_cases hk : k = name
      · subst hk
        simp [get?_cons]
      · simp [get?_put_of_ne hk, get?_cons, hk]
    show get? (putAll (put k v pairs) more) name = _
    rw [ih, List.reverse_cons, get?_append, hput, Option.or_assoc]

lemma mem_of_get? {pairs : Pairs α} {name : String} {v : α} (h : get? pairs name = some v) :
    (name, v) ∈ pairs := by
  induction pairs with
  | nil => cases h
  | cons p pairs ih =>
    obtain ⟨k, w⟩ := p
    rw [get?_cons] at h
    split at h
    · rename_i hk
      cases h
      simp [hk]
    · exact List.mem_cons_of_mem _ (ih h)

lemma mem_put {pairs : Pairs α} {name : String} {v : α} {m : String × α}
    (h : m ∈ put name v pairs) : m ∈ pairs ∨ m = (name, v) := by
  induction pairs with
  | nil => exact .inr (List.mem_singleton.1 h)
  | cons p pairs ih =>
    obtain ⟨k, w⟩ := p
    rw [put] at h
    split at h
    · rename_i hk
      rcases List.mem_cons.1 h with rfl | h
      · exact .inr (by rw [hk])
      · exact .inl (List.mem_cons_of_mem _ h)
    · rcases List.mem_cons.1 h with rfl | h
      · exact .inl (List.mem_cons_self ..)
      · exact (ih h).imp_left (List.mem_cons_of_mem _)

/-- What is put under names is there already or comes from what is put. -/
lemma mem_putAll {pairs more : Pairs α} {m : String × α} (h : m ∈ putAll pairs more) :
    m ∈ pairs ∨ m ∈ more := by
  induction more generalizing pairs with
  | nil => exact .inl h
  | cons p more ih =>
    have hput : m ∈ putAll (put p.1 p.2 pairs) more := h
    rcases ih hput with h | h
    · rcases mem_put h with h | rfl
      · exact .inl h
      · exact .inr (List.mem_cons_self ..)
    · exact .inr (List.mem_cons_of_mem _ h)

lemma nodup_names_putAll {pairs : Pairs α} (h : (names pairs).Nodup) (more : Pairs α) :
    (names (putAll pairs more)).Nodup := by
  induction more generalizing pairs with
  | nil => exact h
  | cons p more ih => exact ih (nodup_names_put h p.1 p.2)

lemma put_of_mem {pairs : Pairs α} (h : pairs.names.Nodup) {name : String} (hmem : name ∈ pairs.names)
    (v : α) : put name v pairs = pairs.map fun p => if p.1 = name then (name, v) else p := by
  induction pairs with
  | nil => cases hmem
  | cons p pairs ih =>
    obtain ⟨k, w⟩ := p
    rw [names, List.map_cons, List.nodup_cons] at h
    rw [put, List.map_cons]
    by_cases hk : k = name
    · subst hk
      have hrest : pairs.map (fun p => if p.1 = k then (k, v) else p) = pairs := by
        refine (List.map_congr_left fun p hp => ?_).trans (List.map_id _)
        rw [if_neg fun heq => h.1 (List.mem_map.2 ⟨p, hp, heq⟩)]
        rfl
      rw [if_pos rfl, if_pos rfl, hrest]
    · rw [names, List.map_cons] at hmem
      rw [if_neg hk, if_neg hk, ih h.2 ((List.mem_cons.1 hmem).resolve_left (Ne.symm hk))]

/-- Distinct names that are put among others stand in the places of those, or behind them. -/
lemma putAll_eq {pairs more : Pairs α} (hp : pairs.names.Nodup) (hm : more.names.Nodup) :
    putAll pairs more = pairs.map (fun p => (p.1, (get? more p.1).getD p.2)) ++
      more.filter fun m => decide (m.1 ∉ pairs.names) := by
  induction more generalizing pairs with
  | nil => simp [putAll]
  | cons m more ih =>
    obtain ⟨k, v⟩ := m
    rw [names, List.map_cons, List.nodup_cons] at hm
    have hnone : get? more k = none := get?_eq_none_iff.2 hm.1
    have hall : putAll pairs ((k, v) :: more) = putAll (put k v pairs) more := rfl
    rw [hall, ih (nodup_names_put hp k v) hm.2, names_put]
    by_cases hmem : k ∈ pairs.names
    · rw [if_pos hmem, put_of_mem hp hmem, List.map_map, List.filter_cons_of_neg (by simpa using hmem)]
      congr 1
      refine List.map_congr_left fun p hp => ?_
      rw [Function.comp_apply, get?_cons]
      by_cases hk : k = p.1
      · rw [if_pos hk.symm, if_pos hk, ← hk, hnone]
        rfl
      · rw [if_neg (Ne.symm hk), if_neg hk]
    · have hold : pairs.map (fun p => (p.1, (get? more p.1).getD p.2)) =
          pairs.map fun p => (p.1, (get? ((k, v) :: more) p.1).getD p.2) := by
        refine List.map_congr_left fun p hp => ?_
        have hne : k ≠ p.1 := fun heq => hmem (List.mem_map.2 ⟨p, hp, heq.symm⟩)
        rw [get?_cons, if_neg hne]
      have hnew : more.filter (fun m => decide (m.1 ∉ pairs.names ++ [k])) =
          more.filter fun m => decide (m.1 ∉ pairs.names) := by
        refine List.filter_congr fun m hmore => ?_
        have hne : m.1 ≠ k := fun heq => hm.1 (List.mem_map.2 ⟨m, hmore, heq⟩)
        simp [hne]
      rw [if_neg hmem, put_of_not_mem hmem, List.map_append,
        List.filter_cons_of_pos (by simpa using hmem), hold, hnew, List.append_assoc, List.map_singleton,
        hnone]
      rfl

lemma get?_of_mem {pairs : Pairs α} (h : (names pairs).Nodup) {name : String} {v : α}
    (hm : (name, v) ∈ pairs) : get? pairs name = some v := by
  induction pairs with
  | nil => cases hm
  | cons p pairs ih =>
    obtain ⟨k, w⟩ := p
    rw [names, List.map_cons, List.nodup_cons] at h
    rcases List.mem_cons.1 hm with heq | hm
    · cases heq
      rw [get?_cons, if_pos rfl]
    · have hne : k ≠ name := fun hk => h.1 (List.mem_map.2 ⟨(name, v), hm, hk.symm⟩)
      rw [get?_cons, if_neg hne]
      exact ih h.2 hm

end Pairs

/-! ## Cells -/

/-- A cell that passes has a line, one line unless its column is an array, and gives its lines. -/
lemma checkCell_eq_ok {resolver : Resolver} {row column type : String} {kind : ColumnKind}
    {isArray : Bool} {cell : String} {values : List String}
    (h : checkCell resolver row column type kind isArray cell = .ok values) :
    cell ≠ "" ∧ values = splitCell cell ∧ (isArray = false → values.length ≤ 1) ∧
      (kind = .primitive →
        ∃ p, Primitive.ofName? type = some p ∧ p.areValid values = .ok true) := by
  unfold checkCell at h
  split at h
  · cases h
  rename_i hne
  dsimp only at h
  split at h
  · cases h
  rename_i hone
  refine ⟨hne, ?_⟩
  have hlength (hv : values = splitCell cell) : isArray = false → values.length ≤ 1 := by
    intro ha
    simpa [ha, hv] using hone
  split at h
  · split at h
    · cases h
    · rename_i p hp
      split at h <;> cases h
      rename_i hvalid
      exact ⟨rfl, hlength rfl, fun _ => ⟨p, hp, hvalid⟩⟩
  · split at h
    · cases h
    · split at h <;> cases h
      exact ⟨rfl, hlength rfl, fun hk => by cases hk⟩
  · rename_i hkind _
    cases h
    exact ⟨rfl, hlength rfl, fun hk => absurd hk hkind⟩

namespace Column

/-- Whether the cell of a column in a row is not left out. -/
def isHeld (c : Column) (sheet : Sheet) (r : Nat) : Bool := !isExcluded (sheet.cell r c.index)

/-- What a column stores of a row. -/
def stored (c : Column) (sheet : Sheet) (r : Nat) : Json :=
  storedCell c (sheet.cell r c.index) (splitCell (sheet.cell r c.index))

/-- What the columns store of a row, under their keys and from left to right. -/
def storedBy (columns : List Column) (sheet : Sheet) (r : Nat) : Pairs Json :=
  (columns.filter fun c => c.isHeld sheet r).map fun c => (c.key, c.stored sheet r)

lemma storedBy_append (columns more : List Column) (sheet : Sheet) (r : Nat) :
    storedBy (columns ++ more) sheet r = storedBy columns sheet r ++ storedBy more sheet r := by
  rw [storedBy, List.filter_append, List.map_append, storedBy, storedBy]

lemma storedBy_cons_of_held {c : Column} {sheet : Sheet} {r : Nat} (h : c.isHeld sheet r = true)
    (columns : List Column) :
    storedBy (c :: columns) sheet r = (c.key, c.stored sheet r) :: storedBy columns sheet r := by
  rw [storedBy, List.filter_cons, if_pos h, List.map_cons, storedBy]

lemma storedBy_cons_of_not_held {c : Column} {sheet : Sheet} {r : Nat}
    (h : c.isHeld sheet r = false) (columns : List Column) :
    storedBy (c :: columns) sheet r = storedBy columns sheet r := by
  rw [storedBy, List.filter_cons, h, if_neg Bool.false_ne_true, storedBy]

end Column

/-- The record of a row holds the ID and what its columns store, and every cell that is not left out
has passed its check. -/
theorem readCells_eq_ok {sheet : Sheet} {resolver : Resolver} {r : Nat} {id : String}
    {columns : List Column} {cells out : Pairs Json}
    (h : readCells sheet resolver r id columns cells = .ok out) :
    out = cells.putAll (Column.storedBy columns sheet r) ∧
      ∀ c ∈ columns, c.isHeld sheet r = true →
        checkCell resolver id c.name c.type c.kind c.isArray (sheet.cell r c.index) =
          .ok (splitCell (sheet.cell r c.index)) := by
  induction columns generalizing cells with
  | nil =>
    cases h
    exact ⟨rfl, by simp⟩
  | cons c columns ih =>
    rw [readCells] at h
    split at h
    · rename_i hc
      have hheld : c.isHeld sheet r = false := by simp [Column.isHeld, hc]
      obtain ⟨hout, hall⟩ := ih h
      refine ⟨?_, fun d hd hheld' => ?_⟩
      · rw [hout, Column.storedBy_cons_of_not_held hheld]
      · rcases List.mem_cons.1 hd with rfl | hd
        · rw [hheld] at hheld'
          cases hheld'
        · exact hall d hd hheld'
    · rename_i hc
      have hheld : c.isHeld sheet r = true := by simp [Column.isHeld, hc]
      cases hv : checkCell resolver id c.name c.type c.kind c.isArray (sheet.cell r c.index) with
      | error fault =>
        rw [hv] at h
        cases h
      | ok values =>
        rw [hv] at h
        have hvalues := (checkCell_eq_ok hv).2.1
        obtain ⟨hout, hall⟩ := ih h
        refine ⟨?_, fun d hd hheld' => ?_⟩
        · rw [hout, Column.storedBy_cons_of_held hheld, Column.stored, ← hvalues]
          rfl
        · rcases List.mem_cons.1 hd with rfl | hd
          · rw [hv, hvalues]
          · exact hall d hd hheld'

/-! ## Rows -/

/-- The data rows among rows: those up to the first with an empty ID whose ID is not left out. -/
def dataRowsAt (sheet : Sheet) (rows : List Nat) : List Nat :=
  (rows.takeWhile fun r => decide (sheet.cell r 0 ≠ "")).filter
    fun r => !isExcluded (sheet.cell r 0)

/-- The data rows of a sheet from a row on. -/
def dataRowsFrom (sheet : Sheet) (start : Nat) : List Nat :=
  dataRowsAt sheet (List.range' start (sheet.rowCount - start))

/-- The data rows of a sheet from a row on that is counted in both directions. -/
def dataRowsFromAny (sheet : Sheet) : Int → List Nat
  | .ofNat start => dataRowsFrom sheet start
  | .negSucc _ => []

/-- A row is that of a data row: it has its ID, and its cells are read from there. -/
structure Row.IsOf (sheet : Sheet) (columns : List Column) (resolver : Resolver) (r : Nat)
    (row : Row) : Prop where
  id : row.id = sheet.cell r 0
  cells : readCells sheet resolver r (sheet.cell r 0) columns [(idName, .text (sheet.cell r 0))] =
    .ok row.cells

/-- The rows are those of the data rows, in order, and no ID comes twice. -/
theorem readRowsAt_eq_ok {sheet : Sheet} {columns : List Column} {resolver : Resolver}
    {indices : List Nat} {seen : List String} {rows : List Row}
    (h : readRowsAt sheet columns resolver indices seen = .ok rows) :
    List.Forall₂ (Row.IsOf sheet columns resolver) (dataRowsAt sheet indices) rows ∧
      (rows.map Row.id).Nodup ∧ ∀ row ∈ rows, row.id ∉ seen := by
  induction indices generalizing seen rows with
  | nil =>
    cases h
    exact ⟨.nil, by simp, by simp⟩
  | cons r indices ih =>
    rw [readRowsAt] at h
    split at h
    · rename_i hr
      cases h
      refine ⟨?_, by simp, by simp⟩
      rw [dataRowsAt, List.takeWhile_cons_of_neg (by simp [hr])]
      exact .nil
    rename_i hr
    split at h
    · rename_i he
      have hskip : dataRowsAt sheet (r :: indices) = dataRowsAt sheet indices := by
        rw [dataRowsAt, List.takeWhile_cons_of_pos (by simp [hr]),
          List.filter_cons_of_neg (by simp [he]), dataRowsAt]
      rw [hskip]
      exact ih h
    rename_i he
    split at h
    · cases h
    rename_i hs
    have htake : dataRowsAt sheet (r :: indices) = r :: dataRowsAt sheet indices := by
      rw [dataRowsAt, List.takeWhile_cons_of_pos (by simp [hr]),
        List.filter_cons_of_pos (by simp [he]), dataRowsAt]
    cases hc : readCells sheet resolver r (sheet.cell r 0) columns
        [(idName, .text (sheet.cell r 0))] with
    | error fault =>
      rw [hc] at h
      cases h
    | ok cells =>
      cases hm : readRowsAt sheet columns resolver indices (sheet.cell r 0 :: seen) with
      | error fault =>
        rw [hc] at h
        simp only [bind, Except.bind, hm] at h
        cases h
      | ok more =>
        rw [hc] at h
        simp only [bind, Except.bind, hm] at h
        cases h
        obtain ⟨hall, hn, hseen⟩ := ih hm
        rw [htake]
        refine ⟨.cons ⟨rfl, hc⟩ hall, ?_, ?_⟩
        · rw [List.map_cons, List.nodup_cons]
          refine ⟨fun hid => ?_, hn⟩
          obtain ⟨row, hrow, hrid⟩ := List.mem_map.1 hid
          exact hseen row hrow (by simp [hrid])
        · intro row hrow
          rcases List.mem_cons.1 hrow with rfl | hrow
          · simpa using hs
          · exact fun hid => hseen row hrow (List.mem_cons_of_mem _ hid)

theorem readRowsFrom_eq_ok {sheet : Sheet} {columns : List Column} {resolver : Resolver}
    {start : Nat} {rows : List Row} (h : readRowsFrom sheet columns resolver start = .ok rows) :
    List.Forall₂ (Row.IsOf sheet columns resolver) (dataRowsFrom sheet start) rows ∧
      (rows.map Row.id).Nodup :=
  ⟨(readRowsAt_eq_ok h).1, (readRowsAt_eq_ok h).2.1⟩

lemma exists_isOf_of_mem {sheet : Sheet} {columns : List Column} {resolver : Resolver}
    {indices : List Nat} {rows : List Row}
    (h : List.Forall₂ (Row.IsOf sheet columns resolver) indices rows) {row : Row}
    (hrow : row ∈ rows) : ∃ r, row.IsOf sheet columns resolver r := by
  obtain ⟨r, -, hof⟩ := exists_mem_of_forall₂ h hrow
  exact ⟨r, hof⟩

lemma readRowsFromAny_eq_ok {sheet : Sheet} {columns : List Column} {resolver : Resolver}
    {start : Int} {rows : List Row} (h : readRowsFromAny sheet columns resolver start = .ok rows) :
    List.Forall₂ (Row.IsOf sheet columns resolver) (dataRowsFromAny sheet start) rows ∧
      (rows.map Row.id).Nodup := by
  cases start with
  | ofNat start => exact readRowsFrom_eq_ok h
  | negSucc start =>
    cases h
    exact ⟨.nil, List.nodup_nil⟩

/-! ## Cells that are read back -/

lemma Row.IsOf.get? {sheet : Sheet} {columns : List Column} {resolver : Resolver} {r : Nat}
    {row : Row} (h : row.IsOf sheet columns resolver r) (key : String) :
    Pairs.get? row.cells key = (Pairs.get? (Column.storedBy columns sheet r).reverse key).or
      (if key = idName then some (.text row.id) else none) := by
  rw [(readCells_eq_ok h.cells).1, Pairs.get?_putAll, h.id, Pairs.get?_cons, Pairs.get?_nil]
  simp only [eq_comm]

lemma mem_storedBy {columns : List Column} {sheet : Sheet} {r : Nat} {key : String} {v : Json}
    (h : (key, v) ∈ Column.storedBy columns sheet r) :
    ∃ c ∈ columns, c.isHeld sheet r = true ∧ c.key = key ∧ c.stored sheet r = v := by
  obtain ⟨c, hc, he⟩ := List.mem_map.1 h
  obtain ⟨hmem, hheld⟩ := List.mem_filter.1 hc
  cases he
  exact ⟨c, hmem, hheld, rfl, rfl⟩

/-- The ID is read back, since no key is that of the ID. -/
lemma Row.IsOf.get?_idName {sheet : Sheet} {columns : List Column} {resolver : Resolver} {r : Nat}
    {row : Row} (h : row.IsOf sheet columns resolver r) (hid : idName ∉ columns.map Column.key) :
    Pairs.get? row.cells idName = some (.text row.id) := by
  have hnone : Pairs.get? (Column.storedBy columns sheet r).reverse idName = none := by
    rw [Pairs.get?_eq_none_iff]
    intro hm
    obtain ⟨⟨k, v⟩, hp, rfl⟩ := List.mem_map.1 hm
    obtain ⟨c, hc, -, hk, -⟩ := mem_storedBy (List.mem_reverse.1 hp)
    exact hid (List.mem_map.2 ⟨c, hc, hk⟩)
  rw [h.get?, hnone, if_pos rfl, Option.none_or]

/-- With distinct keys a row holds what its columns store of it, and nothing of the other cells. -/
lemma Row.IsOf.get?_key {sheet : Sheet} {columns : List Column} {resolver : Resolver} {r : Nat}
    {row : Row} (h : row.IsOf sheet columns resolver r) (hid : idName ∉ columns.map Column.key)
    (hkeys : (columns.map Column.key).Nodup) {c : Column} (hc : c ∈ columns) :
    Pairs.get? row.cells c.key =
      if c.isHeld sheet r = true then some (c.stored sheet r) else none := by
  have hne : c.key ≠ idName := fun hk => hid (hk ▸ List.mem_map_of_mem hc)
  have hnodup : (Pairs.names (Column.storedBy columns sheet r).reverse).Nodup := by
    have hsub : (Pairs.names (Column.storedBy columns sheet r)).Sublist
        (columns.map Column.key) := by
      rw [Pairs.names, Column.storedBy, List.map_map]
      exact List.filter_sublist.map _
    rw [Pairs.names, List.map_reverse, List.nodup_reverse]
    exact hkeys.sublist hsub
  rw [h.get?, if_neg hne, Option.or_none]
  split
  · rename_i hheld
    refine Pairs.get?_of_mem hnodup (List.mem_reverse.2 ?_)
    exact List.mem_map.2 ⟨c, List.mem_filter.2 ⟨hc, hheld⟩, rfl⟩
  · rename_i hheld
    rw [Pairs.get?_eq_none_iff]
    intro hm
    obtain ⟨⟨k, v⟩, hp, hk⟩ := List.mem_map.1 hm
    obtain ⟨d, hd, hdheld, hdk, -⟩ := mem_storedBy (List.mem_reverse.1 hp)
    obtain rfl := List.inj_on_of_nodup_map hkeys hd hc (hdk.trans hk)
    exact hheld hdheld

/-- Whether no column behind a column stores something else under its key. -/
def Column.IsLast (c : Column) (columns : List Column) (sheet : Sheet) (r : Nat) : Prop :=
  ∀ d ∈ columns, d.isHeld sheet r = true → c.index < d.index → c.Meet d ∨ d.Meet c →
    d.stored sheet r = c.stored sheet r

/-- What stands behind a column among columns from left to right stands further to the right. -/
lemma Column.index_lt_iff {front back : List Column} {c d : Column}
    (h : ((front ++ c :: back).map Column.index).Pairwise (· < ·)) (hd : d ∈ front ++ c :: back) :
    c.index < d.index ↔ d ∈ back := by
  rw [List.map_append, List.map_cons, List.pairwise_append, List.pairwise_cons] at h
  obtain ⟨-, ⟨hright, -⟩, hleft⟩ := h
  refine ⟨fun hlt => ?_, fun hb => hright _ (List.mem_map_of_mem hb)⟩
  rw [List.mem_append, List.mem_cons] at hd
  rcases hd with hd | rfl | hd
  · have := hleft _ (List.mem_map_of_mem hd) c.index (by simp)
    omega
  · omega
  · exact hd

/-- The columns that meet a column have one name. -/
lemma Column.name_eq_of_meet {c d e : Column} (hd : d.Meet c ∨ c.Meet d)
    (he : e.Meet c ∨ c.Meet e) : e.name = d.name := by
  rcases hd with hd | hd <;> rcases he with he | he
  · -- both are references behind the mark that the name of the column begins with
    have hmarked := he.2.2.symm.trans hd.2.2
    simpa [← String.toList_inj] using hmarked
  · have hplain := hd.2.1
    rw [he.1] at hplain
    cases hplain
  · have hplain := he.2.1
    rw [hd.1] at hplain
    cases hplain
  · rw [hd.2.2, he.2.2]

/-- A cell is read back exactly if no column behind its own stores something else under its key. -/
theorem read_back_iff {sheet : Sheet} {columns : List Column} {resolver : Resolver} {r : Nat}
    {row : Row} (h : row.IsOf sheet columns resolver r)
    (hnames : (columns.map Column.name).Nodup)
    (hindices : (columns.map Column.index).Pairwise (· < ·)) {c : Column} (hc : c ∈ columns)
    (hheld : c.isHeld sheet r = true) :
    Pairs.get? row.cells c.key = some (c.stored sheet r) ↔ c.IsLast columns sheet r := by
  obtain ⟨front, back, rfl⟩ := List.append_of_mem hc
  have hsplit : Column.storedBy (front ++ c :: back) sheet r =
      Column.storedBy front sheet r ++
        (c.key, c.stored sheet r) :: Column.storedBy back sheet r := by
    rw [Column.storedBy_append, Column.storedBy_cons_of_held hheld]
  have hget : Pairs.get? row.cells c.key =
      (Pairs.get? (Column.storedBy back sheet r).reverse c.key).or (some (c.stored sheet r)) := by
    rw [h.get?, hsplit, List.reverse_append, List.reverse_cons, List.append_assoc,
      Pairs.get?_append, List.singleton_append, Pairs.get?_cons, if_pos rfl, Option.or_assoc]
    rfl
  have hback {d : Column} (hd : d ∈ front ++ c :: back) := Column.index_lt_iff hindices hd
  have hinj := List.inj_on_of_nodup_map hnames
  rw [hget]
  cases hb : Pairs.get? (Column.storedBy back sheet r).reverse c.key with
  | none =>
    -- nothing behind is stored under the key, so nothing behind meets the column
    refine ⟨fun _ d hd hdheld hlt hmeet => ?_, fun _ => rfl⟩
    rw [Pairs.get?_eq_none_iff] at hb
    refine absurd (List.mem_map.2 ⟨(d.key, d.stored sheet r), ?_, ?_⟩) hb
    · rw [List.mem_reverse]
      exact List.mem_map.2 ⟨d, List.mem_filter.2 ⟨(hback hd).1 hlt, hdheld⟩, rfl⟩
    · exact Column.key_eq_key_iff.2 (.inr hmeet.symm)
  | some v =>
    -- what counts is stored by some column behind, which meets the column
    obtain ⟨d, hd, hdheld, hkey, rfl⟩ := mem_storedBy (List.mem_reverse.1 (Pairs.mem_of_get? hb))
    have hmem : d ∈ front ++ c :: back := by simp [hd]
    have hlt := (hback hmem).2 hd
    have hne {e : Column} (he : e ∈ front ++ c :: back) (hlt : c.index < e.index) :
        e.name ≠ c.name := fun hn => by
      rw [hinj he hc hn] at hlt
      omega
    have hmeet : d.Meet c ∨ c.Meet d := by
      rcases Column.key_eq_key_iff.1 hkey with hn | hm
      · exact absurd hn.1 (hne hmem hlt)
      · exact hm
    rw [Option.some_or, Option.some_inj]
    constructor
    · intro hv e he heheld helt hemeet
      have hsame : e.name = d.name := Column.name_eq_of_meet hmeet hemeet.symm
      rw [hinj he hmem hsame, hv]
    · intro hall
      exact hall d hmem hdheld hlt hmeet.symm

/-- Accepted columns leave the key of the ID alone. Their keys are distinct unless two of them meet,
and what a row holds of a cell is what its column stores of it, unless a column behind it that it
meets stores something else. -/
theorem readColumns_keys {sheet : Sheet} {resolver : Resolver} {columns : List Column}
    (h : readColumns sheet resolver = .ok columns) :
    idName ∉ columns.map Column.key ∧
      ((columns.map Column.key).Nodup ↔ ∀ a ∈ columns, ∀ b ∈ columns, ¬ a.Meet b) ∧
      ∀ (other : Resolver) (start : Int) (rows : List Row),
        readRowsFromAny sheet columns other start = .ok rows →
          List.Forall₂
            (fun r row => row.id = sheet.cell r 0 ∧
              Pairs.get? row.cells idName = some (.text row.id) ∧
              ∀ c ∈ columns, c.isHeld sheet r = true →
                ∃ values,
                  checkCell other row.id c.name c.type c.kind c.isArray (sheet.cell r c.index) =
                    .ok values ∧
                  (Pairs.get? row.cells c.key =
                      some (storedCell c (sheet.cell r c.index) values) ↔
                    c.IsLast columns sheet r))
            (dataRowsFromAny sheet start) rows := by
  obtain ⟨-, hnames, hindices⟩ := isRead_of_readColumns h
  have hid := idName_not_mem_keys h
  refine ⟨hid, nodup_keys_iff hnames, fun other start rows hrows => ?_⟩
  have hsorted : (columns.map Column.index).Pairwise (· < ·) :=
    List.Pairwise.sublist hindices List.pairwise_lt_range'
  refine (readRowsFromAny_eq_ok hrows).1.imp fun r row hrow => ?_
  refine ⟨hrow.id, hrow.get?_idName hid, fun c hc hheld => ?_⟩
  have hcheck := (readCells_eq_ok hrow.cells).2 c hc hheld
  exact ⟨splitCell (sheet.cell r c.index), hrow.id ▸ hcheck,
    read_back_iff hrow hnames hsorted hc hheld⟩

/-- The resolver of a project without files for a table that refers to itself. -/
def Resolver.ofSelf (table : String) : Resolver := ⟨fun type => type = "Tb" ++ table, fun _ => none⟩

/-- A table whose rows refer to one another. -/
def itemSheet : Sheet :=
  ⟨[["ID", "Next", "Parts"], ["string", "TbItem", "int[]"], ["1", "2", "7\n8"], ["2", "1", "#"]]⟩

lemma itemSheet_columns :
    readColumns itemSheet (.ofSelf "Item") =
      .ok [⟨1, "Next", "TbItem", false⟩, ⟨2, "Parts", "int", true⟩] := rfl

lemma itemSheet_rows :
    readRowsFromAny itemSheet [⟨1, "Next", "TbItem", false⟩, ⟨2, "Parts", "int", true⟩]
        (.ofSelf "Item") 2 =
      .ok [⟨"1", [("ID", .text "1"), ("_idNext", .text "2"), ("Parts", Json.ofTexts ["7", "8"])]⟩,
        ⟨"2", [("ID", .text "2"), ("_idNext", .text "1")]⟩] := rfl

/-- No two columns of this table meet, and its rows are the data rows. -/
theorem itemSheet_keys :
    (["_idNext", "Parts"] : List String).Nodup ∧ idName ∉ ["_idNext", "Parts"] ∧
      List.Forall₂ (fun r id => itemSheet.cell r 0 = id) [2, 3] ["1", "2"] := by
  have h := readColumns_keys itemSheet_columns
  refine ⟨h.2.1.2 ?_, h.1, ?_⟩
  · simp only [Column.Meet]
    decide
  · have hrows := h.2.2 _ _ _ itemSheet_rows
    exact List.forall₂_map_right_iff.2 (hrows.imp fun r row hrow => hrow.1.symm)

/-- The same table with a column that has the name of the reference behind its mark. -/
def meetingSheet : Sheet :=
  ⟨[["ID", "_idNext", "Next"], ["string", "string", "TbItem"], ["1", "x", "1"]]⟩

/-- Two columns meet, and the cell of the first one is lost. -/
theorem meetingSheet_cells :
    ∃ columns rows, readColumns meetingSheet (.ofSelf "Item") = .ok columns ∧
      readRows meetingSheet columns (.ofSelf "Item") = .ok rows ∧
      columns.map Column.key = ["_idNext", "_idNext"] ∧
      rows.map Row.cells = [[(idName, .text "1"), ("_idNext", .text "1")]] :=
  ⟨[⟨1, "_idNext", "string", false⟩, ⟨2, "Next", "TbItem", false⟩], _, rfl, rfl, rfl, rfl⟩

end SheetCompiler
