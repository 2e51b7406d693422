import SheetCompiler.Proofs.Schema.Accepted
import SheetCompiler.Proofs.Table.Faults

/-!
# Which data rows are accepted

The grammar of the data rows of a Convert table (`dataRowsFromAny`). IDs are distinct, and each cell
that is not left out keeps `cellRules`: it is not empty, it has one line unless its column is an
array, and every line of it is one that the type of the column allows. Rows come before those below
them, and within a row the ID comes first and then the cells in the order of the columns.

Main statement: `readRows_accepts`.
-/

namespace SheetCompiler

open SheetCompiler.Text
open Rule (AllHold FirstBroken)

/-! ## Cells -/

/-- A text is cut into more than one piece where the separator stands in it. -/
lemma one_lt_length_splitOn_iff {sep : Char} {cs : List Char} :
    1 < (splitOn sep cs).length ↔ sep ∈ cs := by
  constructor
  · intro hlength
    by_contra hnot
    rw [splitOn_of_not_mem hnot] at hlength
    simp at hlength
  · intro hmem
    obtain ⟨front, back, rfl, hfront⟩ := List.eq_append_cons_of_mem hmem
    rw [splitOn_append_cons hfront, List.length_cons]
    have := List.length_pos_of_ne_nil (splitOn_ne_nil sep back)
    omega

lemma splitCell_ne_nil (text : String) : splitCell text ≠ [] := by
  rw [splitCell, pieces, ne_eq, List.map_eq_nil_iff]
  exact splitOn_ne_nil '\n' _

/-- The shape of a cell is checked before its lines. -/
lemma obeys_shape {row column cell : String} {isArray : Bool} {lines : Except Fault (List String)}
    {rules : List Rule} (h : Obeys lines rules (splitCell cell)) :
    Obeys
      (if cell = "" then .error (.row (.emptyCell column row))
        else if !isArray && decide (1 < (splitCell cell).length) then
          .error (.row (.unexpectedArray column row))
        else lines)
      (⟨cell ≠ "", .row (.emptyCell column row)⟩ ::
        ⟨isArray = true ∨ '\n' ∉ cell.toList, .row (.unexpectedArray column row)⟩ :: rules)
      (splitCell cell) := by
  refine .check (by rw [ne_eq, not_not]) (.check ?_ h)
  rw [Bool.and_eq_true, Bool.not_eq_true', decide_eq_true_eq, splitCell, pieces, List.length_map,
    one_lt_length_splitOn_iff, not_or, not_not, Bool.not_eq_true]

/-- The lines of a cell of a primitive type are checked for their values. Where no integer has too
many digits, checking them does not fail. -/
lemma obeys_areValid {p : Primitive} {texts : List String} {fault : Fault}
    (hdigits : p.isIntegral = true → ∀ text ∈ texts, Primitive.isOverlong text = false) :
    Obeys
      (match p.areValid texts with
        | .ok true => .ok texts
        | .ok false => .error fault
        | .error fault => .error (.numeral fault))
      [⟨∀ text ∈ texts, p.isValid text = .ok true, fault⟩] texts := by
  cases hvalid : p.areValid texts with
  | error fault =>
    obtain ⟨front, text, back, hsplit, -, htext⟩ := Primitive.areValid_eq_error_iff.1 hvalid
    obtain ⟨hintegral, hlong, -⟩ := Primitive.isValid_eq_error_iff.1 htext
    have hshort := hdigits hintegral text (by simp [hsplit])
    rw [hlong] at hshort
    cases hshort
  | ok valid =>
    cases valid with
    | true => exact .kept (Primitive.areValid_eq_true hvalid)
    | false =>
      refine .broken fun hall => ?_
      rw [Primitive.areValid_of_forall hall] at hvalid
      cases hvalid

namespace Column

variable {sheet : Sheet} {resolver : Resolver} {r : Nat} {c : Column}

/-- Whether a text may stand in a line of a cell: a value of a primitive type, or a member of an
enumeration. Other types are not looked at. -/
def Allows (c : Column) (resolver : Resolver) (text : String) : Prop :=
  match c.kind with
  | .primitive => ∃ p, Primitive.ofName? c.type = some p ∧ p.isValid text = .ok true
  | .enumeration => ∃ members, resolver.members? c.type = some members ∧ text ∈ members
  | _ => True

/-- No line of a cell that is to hold integers has too many digits. -/
def KeepsDigitLimit (c : Column) (sheet : Sheet) (r : Nat) : Prop :=
  ∀ p, Primitive.ofName? c.type = some p → p.isIntegral = true →
    ∀ text ∈ splitCell (sheet.cell r c.index), Primitive.isOverlong text = false

lemma keepsDigitLimit_of_not_holdsOverlong (h : ∀ digits, ¬ sheet.HoldsOverlong digits) :
    c.KeepsDigitLimit sheet r := by
  intro p _ _ text htext
  rw [← Bool.not_eq_true]
  exact fun hlong => h _ ⟨r, c.index, text, htext, hlong, rfl⟩

/-- What a cell that is not left out is checked for. -/
def cellRules (sheet : Sheet) (resolver : Resolver) (r : Nat) (c : Column) : List Rule :=
  let id := sheet.cell r 0
  let cell := sheet.cell r c.index
  [⟨cell ≠ "", .row (.emptyCell c.name id)⟩,
    ⟨c.isArray = true ∨ '\n' ∉ cell.toList, .row (.unexpectedArray c.name id)⟩,
    ⟨∀ text ∈ splitCell cell, c.Allows resolver text, .row (.mismatch c.name id)⟩]

lemma obeys_checkCell (hdigits : c.KeepsDigitLimit sheet r) :
    Obeys (checkCell resolver (sheet.cell r 0) c.name c.type c.kind c.isArray
        (sheet.cell r c.index))
      (cellRules sheet resolver r c) (splitCell (sheet.cell r c.index)) := by
  unfold checkCell
  refine obeys_shape ?_
  unfold Allows
  cases hkind : c.kind with
  | primitive =>
    obtain ⟨p, hp⟩ := Option.isSome_iff_exists.1 (TypeToken.isPrimitive_of_classify hkind)
    simp only [hp, Option.some.injEq, exists_eq_left']
    exact obeys_areValid (hdigits p hp)
  | enumeration =>
    cases hmembers : resolver.members? c.type with
    | none =>
      refine .broken fun hall => ?_
      obtain ⟨text, htext⟩ := List.exists_mem_of_ne_nil _ (splitCell_ne_nil _)
      simpa using hall text htext
    | some members =>
      simp only [Option.some.injEq, exists_eq_left']
      split
      · rename_i hall
        exact .kept (by simpa using hall)
      · rename_i hnot
        exact .broken (by simpa using hnot)
  | _ => exact .kept fun _ _ => trivial

end Column

/-! ## Rows -/

variable {sheet : Sheet} {resolver : Resolver} {r : Nat} {columns : List Column}

lemma obeys_readCells {cells : Pairs Json}
    (hdigits : ∀ c ∈ columns, c.isHeld sheet r = true → c.KeepsDigitLimit sheet r) :
    Obeys (readCells sheet resolver r (sheet.cell r 0) columns cells)
      ((columns.filter fun c => c.isHeld sheet r).flatMap (Column.cellRules sheet resolver r))
      (cells.putAll (Column.storedBy columns sheet r)) := by
  induction columns generalizing cells with
  | nil => exact .pure cells
  | cons c columns ih =>
    rw [List.forall_mem_cons] at hdigits
    rw [readCells]
    cases hex : isExcluded (sheet.cell r c.index) with
    | true =>
      have hheld : c.isHeld sheet r = false := by rw [Column.isHeld, hex]; rfl
      rw [if_pos rfl, Column.storedBy_cons_of_not_held hheld,
        List.filter_cons_of_neg (by simp [hheld])]
      exact ih hdigits.2
    | false =>
      have hheld : c.isHeld sheet r = true := by rw [Column.isHeld, hex]; rfl
      rw [if_neg Bool.false_ne_true, Column.storedBy_cons_of_held hheld,
        List.filter_cons_of_pos (by simp [hheld])]
      exact (Column.obeys_checkCell (hdigits.1 hheld)).bind (ih hdigits.2)

/-- What the cells of a data row are checked for, behind its ID. -/
def rowRules (sheet : Sheet) (columns : List Column) (resolver : Resolver) (start : Int) (r : Nat) :
    List Rule :=
  ⟨IsNew (fun r => sheet.cell r 0) [] (dataRowsFromAny sheet start) r,
      .row (.duplicateId (sheet.cell r 0))⟩ ::
    (columns.filter fun c => c.isHeld sheet r).flatMap (Column.cellRules sheet resolver r)

/-- The row of a data row: the ID, and behind it what the columns store. -/
def rowAt (columns : List Column) (sheet : Sheet) (r : Nat) : Row :=
  ⟨sheet.cell r 0, (idName, .text (sheet.cell r 0)) :: Column.storedBy columns sheet r⟩

/-- Rows are read one after the other. -/
lemma readRowsAt_eq_readEach {rows : List Nat} {seen : List String} :
    readRowsAt sheet columns resolver rows seen =
      readEach (fun r => sheet.cell r 0) (fun seen r =>
        if seen.contains (sheet.cell r 0) then .error (.row (.duplicateId (sheet.cell r 0)))
        else do
          let cells ← readCells sheet resolver r (sheet.cell r 0) columns
            [(idName, .text (sheet.cell r 0))]
          return ⟨sheet.cell r 0, cells⟩) rows seen := by
  induction rows generalizing seen with
  | nil => rfl
  | cons r rows ih =>
    rw [readRowsAt, readEach]
    split
    · rfl
    split
    · exact ih
    split
    · rfl
    cases readCells sheet resolver r (sheet.cell r 0) columns [(idName, .text (sheet.cell r 0))] with
    | error fault => rfl
    | ok cells =>
      dsimp only [bind, Except.bind]
      rw [ih]
      rfl

/-- With keys that are distinct and not that of the ID, a record holds the ID and behind it what the
columns store. -/
lemma putAll_storedBy (hid : idName ∉ columns.map Column.key)
    (hkeys : (columns.map Column.key).Nodup) :
    Pairs.putAll [(idName, .text (sheet.cell r 0))] (Column.storedBy columns sheet r) =
      (idName, .text (sheet.cell r 0)) :: Column.storedBy columns sheet r := by
  have hnames : (Pairs.names (Column.storedBy columns sheet r)).Sublist
      (columns.map Column.key) := by
    rw [Pairs.names, Column.storedBy, List.map_map]
    exact List.filter_sublist.map _
  refine Pairs.putAll_of_nodup ?_
  rw [List.singleton_append, Pairs.names, List.map_cons, List.nodup_cons]
  exact ⟨fun hmem => hid (hnames.mem hmem), hkeys.sublist hnames⟩

/-- The data rows read under accepted columns with distinct keys, whose integers keep the limit of
digits, are accepted exactly if all their rules are kept, and then each gives its row. Otherwise the
first broken rule is reported. -/
theorem readRows_accepts {header : Sheet} {known : Resolver}
    (hcolumns : readColumns header known = .ok columns) (hkeys : (columns.map Column.key).Nodup)
    (sheet : Sheet) (resolver : Resolver) (start : Int)
    (hdigits : ∀ r ∈ dataRowsFromAny sheet start, ∀ c ∈ columns, c.isHeld sheet r = true →
      c.KeepsDigitLimit sheet r) :
    (∀ rows, readRowsFromAny sheet columns resolver start = .ok rows ↔
        AllHold ((dataRowsFromAny sheet start).flatMap
            (rowRules sheet columns resolver start)) ∧
          rows = (dataRowsFromAny sheet start).map (rowAt columns sheet)) ∧
      ∀ fault, readRowsFromAny sheet columns resolver start = .error fault ↔
        FirstBroken ((dataRowsFromAny sheet start).flatMap
          (rowRules sheet columns resolver start)) fault := by
  have hobeys : Obeys (readRowsFromAny sheet columns resolver start)
      ((dataRowsFromAny sheet start).flatMap (rowRules sheet columns resolver start))
      ((dataRowsFromAny sheet start).map (rowAt columns sheet)) := by
    cases start with
    | negSucc start => exact .pure []
    | ofNat start =>
      rw [readRowsFromAny, readRowsFrom, readRowsAt_eq_readEach]
      refine obeys_readEach (fun isNew r =>
        ⟨isNew, .row (.duplicateId (sheet.cell r 0))⟩ ::
          (columns.filter fun c => c.isHeld sheet r).flatMap
            (Column.cellRules sheet resolver r)) List.pairwise_lt_range' fun seen r hr => ?_
      refine .check (by simp) ?_
      rw [rowAt, ← putAll_storedBy (idName_not_mem_keys hcolumns) hkeys]
      exact (obeys_readCells (hdigits r hr)).map (Row.mk (sheet.cell r 0))
  exact ⟨fun _ => hobeys.eq_ok_iff, fun _ => hobeys.eq_error_iff⟩

/-- The table of items with a row that is left out, and then one of two broken cells. -/
def brokenSheet : Sheet :=
  ⟨[["ID", "Next", "Parts"], ["string", "TbItem", "int[]"], ["1", "2", "7\n8"], ["#1"],
    ["2", "1\n1", "x"], ["", "?", "?"]]⟩

/-- The rows of one table keep all rules. In the other one the left of two broken cells counts. -/
theorem brokenSheet_accepts :
    AllHold ((dataRowsFromAny itemSheet 2).flatMap (rowRules itemSheet
        [⟨1, "Next", "TbItem", false⟩, ⟨2, "Parts", "int", true⟩] (.ofSelf "Item") 2)) ∧
      FirstBroken ((dataRowsFromAny brokenSheet 2).flatMap (rowRules brokenSheet
        [⟨1, "Next", "TbItem", false⟩, ⟨2, "Parts", "int", true⟩] (.ofSelf "Item") 2))
        (.row (.unexpectedArray "Next" "2")) := by
  have hkeys : ([⟨1, "Next", "TbItem", false⟩, ⟨2, "Parts", "int", true⟩].map Column.key).Nodup := by
    decide
  have haccepted := readRows_accepts itemSheet_columns hkeys itemSheet (.ofSelf "Item") 2
    fun r _ c _ _ => Column.keepsDigitLimit_of_not_holdsOverlong
      (Sheet.not_holdsOverlong (by decide))
  have hbroken := readRows_accepts itemSheet_columns hkeys brokenSheet (.ofSelf "Item") 2
    fun r _ c _ _ => Column.keepsDigitLimit_of_not_holdsOverlong
      (Sheet.not_holdsOverlong (by decide))
  exact ⟨((haccepted.1 _).1 itemSheet_rows).1, (hbroken.2 _).1 rfl⟩

end SheetCompiler
