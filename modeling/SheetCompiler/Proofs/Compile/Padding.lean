import SheetCompiler.Compile.Output
import SheetCompiler.Proofs.Table.AcceptedEnums
import SheetCompiler.Proofs.Table.AcceptedVariables
import Mathlib.Data.List.DropRight

/-!
# Padding

Every reader of sheets has bounds of its own, by the width of a row, by the count of rows or by a
fixed set of columns, and stops at blank labels besides. Cells outside the grid are blank, so what
stops a reader are the blank labels alone, and only the texts of the cells count (`SameCells`): not
the widths of the rows, and not blank cells or blank rows at the end. Workbooks are freed of the
latter before they are read, which therefore does not count either.

Main statement: `compileFile_of_sameCells`.
-/

namespace SheetCompiler

open SheetCompiler.Text SheetCompiler.Stateful

namespace Sheet

/-- Two sheets have the same cells, up to blank ones at the ends of rows and blank rows at the end
of the sheet. -/
def SameCells (s t : Sheet) : Prop := ∀ r c, s.cell r c = t.cell r c

/-- The sheet of the cells of a worksheet with all their rows. -/
def untrimmed (cells : List (List CellValue)) : Sheet :=
  ⟨cells.map fun row => row.map CellValue.toText⟩

variable {s t : Sheet}

/-! ## Blank rows at the end -/

lemma cell_eq_of_rows {rows : List (List String)} {row : List String} {r : Nat}
    (h : rows[r]? = some row) (c : Nat) : (Sheet.mk rows).cell r c = row[c]?.getD "" := by
  rw [cell, Sheet.row, h, Option.getD_some]

/-- A row is blank exactly if all its cells are. -/
lemma isBlankRow_iff {row : List String} :
    isBlankRow row = true ↔ ∀ c : Nat, row[c]?.getD "" = "" := by
  rw [isBlankRow, List.all_eq_true]
  constructor
  · intro hall c
    cases hc : row[c]? with
    | none => rfl
    | some text => simpa using hall text (List.mem_of_getElem? hc)
  · intro hall text htext
    obtain ⟨c, hc⟩ := List.getElem?_of_mem htext
    have hblank := hall c
    rw [hc, Option.getD_some] at hblank
    simpa using hblank

/-- Trimming leaves every cell as it is. -/
lemma sameCells_trimRows (rows : List (List String)) :
    (Sheet.mk (trimRows rows)).SameCells ⟨rows⟩ := by
  intro r c
  have hsplit : trimRows rows ++ rows.rtakeWhile isBlankRow = rows :=
    List.rdropWhile_append_rtakeWhile
  rcases Nat.lt_or_ge r (trimRows rows).length with hlt | hge
  · have hrow : rows[r]? = (trimRows rows)[r]? := by
      rw [← hsplit, List.getElem?_append_left hlt, hsplit]
    rw [cell, cell, Sheet.row, Sheet.row, hrow]
  · have hend : (Sheet.mk (trimRows rows)).cell r c = "" := cell_of_rowCount_le hge c
    rw [hend]
    cases hrow : rows[r]? with
    | none => rw [cell_of_rowCount_le (List.getElem?_eq_none_iff.1 hrow)]
    | some row =>
      -- what is trimmed away is blank
      rw [cell_eq_of_rows hrow]
      rw [← hsplit, List.getElem?_append_right hge] at hrow
      exact (isBlankRow_iff.1 (List.mem_rtakeWhile_imp (List.mem_of_getElem? hrow)) c).symm

/-- The rows of a trimmed sheet are those up to the last with a text in it. -/
lemma lt_rowCount_trimRows_iff (rows : List (List String)) (r : Nat) :
    r < (trimRows rows).length ↔ ∃ below, r ≤ below ∧ ∃ c, (Sheet.mk rows).cell below c ≠ "" := by
  constructor
  · intro hlt
    have hne : trimRows rows ≠ [] := List.ne_nil_of_length_pos (Nat.zero_lt_of_lt hlt)
    have hlast : ¬ isBlankRow ((trimRows rows).getLast hne) = true :=
      List.rdropWhile_last_not isBlankRow rows hne
    rw [isBlankRow_iff, not_forall] at hlast
    obtain ⟨c, hc⟩ := hlast
    have hrow : (trimRows rows)[(trimRows rows).length - 1]? = some ((trimRows rows).getLast hne) :=
      by rw [List.getLast_eq_getElem, List.getElem?_eq_getElem]
    refine ⟨(trimRows rows).length - 1, by omega, c, ?_⟩
    rw [← sameCells_trimRows, cell_eq_of_rows hrow]
    exact hc
  · rintro ⟨below, hle, c, hc⟩
    by_contra hge
    rw [← sameCells_trimRows] at hc
    exact hc (cell_of_rowCount_le (Nat.le_trans (Nat.le_of_not_lt hge) hle) c)

end Sheet

/-! ## Readers of sheets -/

/-- Rows are read alike if their labels are the same and blank behind either sheet. -/
lemma readEach_rows_congr {α : Type} {s t : Sheet} {label label' : Nat → String}
    {read read' : List String → Nat → Except Fault α} (hlabel : label = label')
    (hread : read = read') (hs : ∀ r, s.rowCount ≤ r → label r = "")
    (ht : ∀ r, t.rowCount ≤ r → label' r = "") (start : Nat) (seen : List String) :
    readEach label read (List.range' start (s.rowCount - start)) seen =
      readEach label' read' (List.range' start (t.rowCount - start)) seen := by
  subst hlabel hread
  exact readEach_range'_congr (fun r hr => ht r (by omega)) (fun r hr => hs r (by omega))

/-- Header cells behind the end are not visited. -/
lemma scanCells_upToBlank {α : Type} {s : Sheet} {row : Nat}
    {visit : Nat → String → Except Fault α} {indices : List Nat} {seen : List String} :
    scanCells s row visit (upToBlank (s.nameAt row) indices) seen =
      scanCells s row visit indices seen := by
  induction indices generalizing seen with
  | nil => rfl
  | cons i indices ih =>
    by_cases hblank : s.nameAt row i = ""
    · rw [upToBlank, List.takeWhile_cons_of_neg (by simpa using hblank), scanCells, scanCells,
        ← Sheet.nameAt, hblank]
      rfl
    · rw [upToBlank, List.takeWhile_cons_of_pos (by simpa using hblank), ← upToBlank, scanCells,
        scanCells, ih]
      simp only [ih]

section

variable {s t : Sheet} (h : s.SameCells t)
include h

lemma nameAt_of_sameCells (row i : Nat) : s.nameAt row i = t.nameAt row i :=
  congrArg normalize (h row i)

lemma scanCells_of_sameCells {α : Type} {row : Nat} {visit : Nat → String → Except Fault α}
    {indices : List Nat} {seen : List String} :
    scanCells s row visit indices seen = scanCells t row visit indices seen := by
  induction indices generalizing seen with
  | nil => rfl
  | cons i indices ih => simp only [scanCells, h row i, ih]

lemma scanHeader_of_sameCells {α : Type} (row start : Nat) (seen : List String)
    (visit : Nat → String → Except Fault α) :
    scanHeader s row start seen visit = scanHeader t row start seen visit := by
  have hnames : s.nameAt row = t.nameAt row := funext (nameAt_of_sameCells h row)
  have hplaces : upToBlank (t.nameAt row) (List.range' start (s.rowWidth row - start)) =
      upToBlank (t.nameAt row) (List.range' start (t.rowWidth row - start)) :=
    upToBlank_range'_congr (fun i hi => Sheet.nameAt_of_rowWidth_le (by omega))
      (fun i hi => by rw [← hnames, Sheet.nameAt_of_rowWidth_le (by omega)]) fun _ _ _ => rfl
  rw [scanHeader, scanHeader, scanCells_of_sameCells h, ← scanCells_upToBlank, hplaces,
    scanCells_upToBlank]

/-! ### Convert tables -/

lemma scanColumns_of_sameCells (resolver : Resolver) :
    scanColumns s resolver = scanColumns t resolver := by
  have hvisit : visitColumn s resolver = visitColumn t resolver := by
    funext i name
    rw [visitColumn, visitColumn, h 0 i, h 1 i]
  rw [scanColumns, scanColumns, hasIdColumn, hasIdColumn, h 0 0, h 1 0, hvisit,
    scanHeader_of_sameCells h]

lemma readCells_of_sameCells {resolver : Resolver} {r : Nat} {id : String} {columns : List Column}
    {cells : Pairs Json} :
    readCells s resolver r id columns cells = readCells t resolver r id columns cells := by
  induction columns generalizing cells with
  | nil => rfl
  | cons c columns ih => simp only [readCells, h r c.index, ih]

lemma readRowsFromAny_of_sameCells (columns : List Column) (resolver : Resolver) (start : Int) :
    readRowsFromAny s columns resolver start = readRowsFromAny t columns resolver start := by
  cases start with
  | negSucc start => rfl
  | ofNat start =>
    rw [readRowsFromAny, readRowsFromAny, readRowsFrom, readRowsFrom, readRowsAt_eq_readEach,
      readRowsAt_eq_readEach]
    refine readEach_rows_congr (funext fun r => h r 0) ?_
      (fun r hr => Sheet.cell_of_rowCount_le hr 0) (fun r hr => Sheet.cell_of_rowCount_le hr 0) _ _
    funext seen r
    rw [h r 0, readCells_of_sameCells h]

/-! ### Enum and Variable tables -/

lemma readMembers_of_sameCells (column : Nat) (enumeration : String) :
    readMembers s column enumeration = readMembers t column enumeration := by
  have hrows : readMembersAt s column enumeration (List.range' 1 (s.rowCount - 1)) [] =
      readMembersAt t column enumeration (List.range' 1 (t.rowCount - 1)) [] := by
    rw [readMembersAt_eq_readEach, readMembersAt_eq_readEach]
    refine readEach_rows_congr (funext fun r => nameAt_of_sameCells h r column) ?_
      (fun r hr => Sheet.nameAt_of_rowCount_le hr) (fun r hr => Sheet.nameAt_of_rowCount_le hr) _ _
    funext seen r
    rw [nameAt_of_sameCells h r column]
  rw [readMembers, readMembers, hrows]

lemma readEnums_of_sameCells : readEnums s = readEnums t := by
  have hvisit : visitEnum s = visitEnum t := by
    funext i name
    rw [visitEnum, visitEnum, readMembers_of_sameCells h]
  rw [readEnums, readEnums, hvisit, scanHeader_of_sameCells h]

lemma readVariables_of_sameCells : readVariables s = readVariables t := by
  have hrows : readVariablesAt s (List.range' 1 (s.rowCount - 1)) [] =
      readVariablesAt t (List.range' 1 (t.rowCount - 1)) [] := by
    rw [readVariablesAt_eq_readEach, readVariablesAt_eq_readEach]
    refine readEach_rows_congr (funext fun r => nameAt_of_sameCells h r 0) ?_
      (fun r hr => Sheet.nameAt_of_rowCount_le hr) (fun r hr => Sheet.nameAt_of_rowCount_le hr) _ _
    funext seen r
    rw [nameAt_of_sameCells h r 0, readVariable, readVariable, h r 1, h r 2]
  rw [readVariables, readVariables, h 0 0, h 0 1, h 0 2, hrows]

/-! ## Tables -/

lemma compile_of_sameCells (kind : TableKind) (table : String) (resolver : Resolver)
    (templates : Except Failure (Pairs String)) :
    compile kind table s resolver templates = compile kind table t resolver templates := by
  cases kind with
  | convert =>
    rw [compile, compile, compileConvert, compileConvert, readColumns, readColumns,
      scanColumns_of_sameCells h]
    refine bind_congr fun columns => ?_
    have hrows : readRowsFrom s columns resolver firstDataRow =
        readRowsFrom t columns resolver firstDataRow :=
      readRowsFromAny_of_sameCells h columns resolver (.ofNat firstDataRow)
    rw [readRows, readRows, hrows]
  | enum => rw [compile, compile, compileEnum, compileEnum, readEnums_of_sameCells h]
  | «variable» =>
    rw [compile, compile, compileVariable, compileVariable, readVariables_of_sameCells h]

lemma scanOf_of_sameCells (st : Settings) (table : String) :
    Action.scanOf st table s = Action.scanOf st table t := by
  rw [Action.scanOf, Action.scanOf]
  refine bind_congr fun resolver => ?_
  rw [scanColumns_of_sameCells h]

lemma compileSheet_of_sameCells (st : Settings) (kind : TableKind) (table source : String) :
    Action.compileSheet st kind table source s = Action.compileSheet st kind table source t := by
  rw [Action.compileSheet, Action.compileSheet, scanOf_of_sameCells h]
  simp only [compile_of_sameCells h]

end

/-- Reading a workbook gives the sheet without the blank rows at its end, and reports how many rows
are left. -/
lemma apply_readSheet {p : Project} {path : String} {cells : List (List CellValue)}
    (hformat : workbookFormats.contains (lower (Path.splitExtension (Path.base path)).2) = true)
    (hread : p.files.read path = .ok (.workbook cells)) :
    (Action.readSheet path).apply p =
      (.ok (Sheet.ofCells cells),
        { p with events := p.events ++ [.sheetRead (Sheet.ofCells cells).rowCount path] }) := by
  rw [Action.readSheet, hformat, Bool.not_true, if_neg Bool.false_ne_true]
  simp only [apply_bind, apply_get, apply_pure, hread, Action.report, apply_modify]

/-- Sheets with the same cells are read alike, and in every world they are compiled alike: to the
same outcome or failure, and to the same files. Of a workbook, too, only the texts of its cells
count: it is compiled as any sheet with these texts, and the rows that are said to have been read
are those up to the last text. -/
theorem compileFile_of_sameCells {s t : Sheet} (h : s.SameCells t) :
    (∀ resolver, readColumns s resolver = readColumns t resolver) ∧
      (∀ columns resolver start, readRowsFromAny s columns resolver start =
        readRowsFromAny t columns resolver start) ∧
      readEnums s = readEnums t ∧
      readVariables s = readVariables t ∧
      (∀ (p : Project) (st : Settings) (table : String),
        (Action.columnsOf st table s).apply p = (Action.columnsOf st table t).apply p ∧
          ∀ kind source, (Action.compileSheet st kind table source s).apply p =
            (Action.compileSheet st kind table source t).apply p) ∧
      ∀ (p : Project) (st : Settings) (label : String) (kind : TableKind) (path : String)
        (cells : List (List CellValue)), TableKind.ofLabel? label = some kind →
        workbookFormats.contains (lower (Path.splitExtension (Path.base path)).2) = true →
        p.files.read path = .ok (.workbook cells) → t.SameCells (.untrimmed cells) →
        ∃ n, (∀ r, r < n ↔ ∃ below, r ≤ below ∧ ∃ c, s.cell below c ≠ "") ∧
          (Action.compileFile st label path).apply p =
            (do
              Action.report (.sheetRead n path)
              Action.compileSheet st kind (tableNameOf path) path s : Action Compilation).apply p := by
  refine ⟨fun resolver => ?_, readRowsFromAny_of_sameCells h, readEnums_of_sameCells h,
    readVariables_of_sameCells h, fun p st table => ⟨?_, fun kind source => ?_⟩, ?_⟩
  · rw [readColumns, readColumns, scanColumns_of_sameCells h]
  · rw [Action.columnsOf, Action.columnsOf, scanOf_of_sameCells h]
  · rw [compileSheet_of_sameCells h]
  · intro p st label kind path cells hkind hformat hread hcells
    have hcell : ∀ r c, (Sheet.untrimmed cells).cell r c = s.cell r c := fun r c =>
      (hcells r c).symm.trans (h r c).symm
    have htrimmed : (Sheet.ofCells cells).SameCells s := fun r c =>
      (Sheet.sameCells_trimRows _ r c).trans (hcell r c)
    refine ⟨(Sheet.ofCells cells).rowCount, fun r => ?_, ?_⟩
    · have hcount := Sheet.lt_rowCount_trimRows_iff (Sheet.untrimmed cells).rows r
      simp only [hcell] at hcount
      exact hcount
    · rw [Action.compileFile, hkind]
      simp only [apply_bind, apply_readSheet hformat hread, Action.report, apply_modify,
        compileSheet_of_sameCells htrimmed]

/-- A worksheet with rows of different widths, and blank rows at its end. -/
def looseCells : List (List CellValue) :=
  [[.text "ID", .text "Count"], [.text "string", .text "int", .empty], [.integer 1, .text "2"],
    [.empty, .text ""], []]

/-- A project with this worksheet alone. -/
def looseProject : Project :=
  .ofFiles (.ofDirectories "Dist" "Resources")
    ⟨[(["Item.xlsx"], .file (.workbook looseCells))]⟩ "Resources"

/-- The workbook is compiled as a sheet without the padding. -/
theorem looseProject_compiles :
    ∃ n, (Action.compileFile looseProject.loaded "Convert" "Item.xlsx").apply looseProject =
      (do
        Action.report (.sheetRead n "Item.xlsx")
        Action.compileSheet looseProject.loaded .convert (tableNameOf "Item.xlsx") "Item.xlsx"
          ⟨[["ID", "Count"], ["string", "int"], ["1", "2"]]⟩ : Action Compilation).apply
        looseProject := by
  have hcells : (Sheet.mk [["ID", "Count"], ["string", "int"], ["1", "2"]]).SameCells
      (.untrimmed looseCells) := by
    intro r c
    match r, c with
    | 0, 0 | 0, 1 | 0, c + 2 => rfl
    | 1, 0 | 1, 1 | 1, 2 | 1, c + 3 => rfl
    | 2, 0 | 2, 1 | 2, c + 2 => rfl
    | 3, 0 | 3, 1 | 3, c + 2 => rfl
    | 4, c => rfl
    | r + 5, c => rfl
  obtain ⟨-, -, -, -, -, hfile⟩ := compileFile_of_sameCells hcells
  obtain ⟨n, -, hcompile⟩ := hfile looseProject looseProject.loaded "Convert" .convert "Item.xlsx"
    looseCells rfl (by decide) rfl fun _ _ => rfl
  exact ⟨n, hcompile⟩

end SheetCompiler
