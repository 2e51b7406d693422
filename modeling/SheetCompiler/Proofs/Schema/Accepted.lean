import SheetCompiler.Proofs.Schema.Columns
import SheetCompiler.Proofs.Schema.Places

/-!
# Which headers are accepted

The grammar of headers. A header is a row of names up to the first blank one, and its named cells
are those whose names are not left out (`Sheet.named`). The header of a Convert table names the ID
column and its type, and every named cell behind it keeps `columnRules`. What is reported is the
first broken rule of the leftmost cell that breaks one.

Main statements:

* `obeys_scanHeader`: the rules of a header row, whatever is made of its cells;
* `readColumns_accepts`: which headers of Convert tables are accepted, with which columns, and
  that nothing to the right of the header counts.
-/

namespace SheetCompiler

open SheetCompiler.Text
open Rule (AllHold FirstBroken)

/-! ## Header rows -/

namespace Sheet

/-- The name in a header cell. -/
def nameAt (sheet : Sheet) (row i : Nat) : String := normalize (sheet.cell row i)

/-- The named cells of a header row from a column on: those up to the first blank name whose names
are not left out. -/
def named (sheet : Sheet) (row start : Nat) : List Nat :=
  labelled (sheet.nameAt row) (List.range' start (sheet.rowWidth row - start))

/-- The column where a header ends: that of the first blank name, or behind the row. -/
def headerEnd (sheet : Sheet) (row start : Nat) : Nat :=
  start + (upToBlank (sheet.nameAt row)
    (List.range' start (sheet.rowWidth row - start))).length

variable {sheet other : Sheet} {row start : Nat}

lemma nameAt_of_rowWidth_le {i : Nat} (h : sheet.rowWidth row ≤ i) : sheet.nameAt row i = "" := by
  rw [nameAt, cell_of_rowWidth_le h]
  rfl

lemma nameAt_congr {i : Nat} (h : other.cell row i = sheet.cell row i) :
    other.nameAt row i = sheet.nameAt row i := congrArg normalize h

lemma lt_headerEnd_of_mem_named {i : Nat} (h : i ∈ sheet.named row start) :
    start ≤ i ∧ i < sheet.headerEnd row start :=
  lt_of_mem_labelled_range' h

/-- Cells behind the end of a header do not count. -/
lemma named_congr
    (h : ∀ i, start ≤ i → i ≤ sheet.headerEnd row start → other.cell row i = sheet.cell row i) :
    other.named row start = sheet.named row start :=
  labelled_range'_congr (fun i hi => nameAt_of_rowWidth_le (by omega))
    (fun i hi => nameAt_of_rowWidth_le (by omega)) fun i hi hle => nameAt_congr (h i hi hle)

end Sheet

/-! ## Names -/

/-- What a name is checked for: it begins with no digit and has not been given before. -/
def nameRules (what : String) (isNew : Prop) (name : String) : List Rule :=
  [⟨∀ c ∈ name.toList.head?, isDigit c = false, .schema (.leadingDigit what name)⟩,
    ⟨isNew, .schema (.duplicateName what name)⟩]

lemma obeys_checkName {what : String} {seen : List String} {name : String} (h : name ≠ "") :
    Obeys (checkName what seen name) (nameRules what (name ∉ seen) name) () := by
  unfold checkName
  cases hname : name.toList with
  | nil => exact absurd (String.toList_inj.1 hname) h
  | cons c cs =>
    refine .check ?_ (.check ?_ (.pure ()))
    · simp [hname]
    · simp

variable {α : Type} {sheet : Sheet} {row : Nat}

lemma Scan.result_cons (scan : Scan α) (a : α) :
    (scan.cons a).result = do return a :: (← scan.result) := by
  obtain ⟨found, fault⟩ := scan
  cases fault <;> rfl

/-- Header cells are read one after the other. -/
lemma result_scanCells {visit : Nat → String → Except Fault α} {indices : List Nat}
    {seen : List String} :
    (scanCells sheet row visit indices seen).result =
      readEach (sheet.nameAt row) (fun seen i => do
        checkName columnName seen (sheet.nameAt row i)
        visit i (sheet.nameAt row i)) indices seen := by
  induction indices generalizing seen with
  | nil => rfl
  | cons i indices ih =>
    rw [scanCells, readEach, ← Sheet.nameAt]
    by_cases hblank : sheet.nameAt row i = ""
    · rw [if_pos hblank, if_pos hblank, hblank]
      rfl
    rw [if_neg hblank, if_neg hblank]
    split
    · exact ih
    · cases checkName columnName seen (sheet.nameAt row i) with
      | error fault => rfl
      | ok _ =>
        dsimp only
        cases visit i (sheet.nameAt row i) with
        | error fault => rfl
        | ok a =>
          dsimp only
          rw [Scan.result_cons, ih]
          rfl

/-- A header row is checked cell by cell: the name comes first, and then what is made of it. -/
theorem obeys_scanHeader {start : Nat} {reserved : List String}
    {visit : Nat → String → Except Fault α} {rules : Nat → List Rule} {value : Nat → α}
    (hvisit : ∀ i ∈ sheet.named row start,
      Obeys (visit i (sheet.nameAt row i)) (rules i) (value i)) :
    Obeys (scanHeader sheet row start reserved visit).result
      ((sheet.named row start).flatMap fun i =>
        nameRules columnName
            (IsNew (sheet.nameAt row) reserved (sheet.named row start) i) (sheet.nameAt row i) ++
          rules i)
      ((sheet.named row start).map value) := by
  rw [scanHeader, result_scanCells]
  refine obeys_readEach (fun isNew i =>
    nameRules columnName isNew (sheet.nameAt row i) ++ rules i) List.pairwise_lt_range'
    fun seen i hi => ?_
  exact (obeys_checkName (mem_labelled hi).2.1).bind (hvisit i hi)

/-! ## Headers of Convert tables -/

/-- Whether the type of a token exists: it is primitive or opaque, or a reference to a table that
there is, or an enumeration whose members are known. -/
def Resolver.HasType (resolver : Resolver) (type : String) : Prop :=
  TypeToken.classify type = .primitive ∨ TypeToken.classify type = .variable ∨
    (TypeToken.classify type = .tableReference ∧ resolver.tableExists type = true) ∨
    (TypeToken.classify type = .enumeration ∧ resolver.members? type ≠ none)

lemma Column.typeExists_iff {c : Column} {resolver : Resolver} :
    c.typeExists resolver = true ↔ resolver.HasType c.type := by
  unfold Column.typeExists Column.kind Resolver.HasType
  cases TypeToken.classify c.type <;> simp [Option.isSome_iff_ne_none]

namespace Sheet

/-- The column that a named header cell describes. -/
def columnAt (sheet : Sheet) (i : Nat) : Column :=
  .ofHeader i (sheet.cell 0 i) (sheet.cell 1 i)

/-- What a named cell of the header is checked for. No column may be called like the one of the
IDs. -/
def columnRules (sheet : Sheet) (resolver : Resolver) (i : Nat) : List Rule :=
  let name := sheet.nameAt 0 i
  let type := normalize (sheet.cell 1 i)
  nameRules columnName (IsNew (sheet.nameAt 0) [idName] (sheet.named 0 1) i) name ++
    [⟨isIdentifier name = true, .schema (.notIdentifier columnName name)⟩,
      ⟨resolver.HasType type, .schema (.columnType type name)⟩]

/-- What the header of a Convert table is checked for. -/
def headerRules (sheet : Sheet) (resolver : Resolver) : List Rule :=
  ⟨sheet.cell 0 0 = idName ∧ sheet.cell 1 0 = idType, .schema .idColumn⟩ ::
    (sheet.named 0 1).flatMap (sheet.columnRules resolver)

variable {sheet other : Sheet}

section

variable (hnames : ∀ i ≤ sheet.headerEnd 0 1, other.cell 0 i = sheet.cell 0 i)
  (htypes : ∀ i < sheet.headerEnd 0 1, other.cell 1 i = sheet.cell 1 i)
include hnames

lemma nameAt_named_congr {i : Nat} (h : i ∈ sheet.named 0 1) :
    other.nameAt 0 i = sheet.nameAt 0 i :=
  nameAt_congr (hnames i (Nat.le_of_lt (lt_headerEnd_of_mem_named h).2))

include htypes

lemma map_columnAt_congr :
    (other.named 0 1).map other.columnAt = (sheet.named 0 1).map sheet.columnAt := by
  rw [named_congr fun i _ hi => hnames i hi]
  refine List.map_congr_left fun i hi => ?_
  have hlt := (lt_headerEnd_of_mem_named hi).2
  rw [columnAt, hnames i (Nat.le_of_lt hlt), htypes i hlt, ← columnAt]

lemma headerRules_congr (resolver : Resolver) :
    other.headerRules resolver = sheet.headerRules resolver := by
  have hcolumns : ∀ i ∈ sheet.named 0 1,
      other.columnRules resolver i = sheet.columnRules resolver i := by
    intro i hi
    have hname {j : Nat} := nameAt_named_congr (i := j) hnames
    rw [columnRules, columnRules, named_congr fun i _ hi => hnames i hi, hname hi,
      isNew_congr (fun j hj => hname hj) hi, htypes i (lt_headerEnd_of_mem_named hi).2]
  have hstart : 0 < sheet.headerEnd 0 1 := Nat.lt_of_lt_of_le Nat.one_pos (Nat.le_add_right _ _)
  rw [headerRules, headerRules, named_congr fun i _ hi => hnames i hi,
    hnames 0 (Nat.zero_le _), htypes 0 hstart, List.flatMap_congr hcolumns]

end

end Sheet

variable {resolver : Resolver}

lemma obeys_visitColumn (i : Nat) (name : String) :
    Obeys (visitColumn sheet resolver i name)
      [⟨isIdentifier (sheet.nameAt 0 i) = true,
          .schema (.notIdentifier columnName (sheet.nameAt 0 i))⟩,
        ⟨resolver.HasType (normalize (sheet.cell 1 i)),
          .schema (.columnType (normalize (sheet.cell 1 i)) (sheet.nameAt 0 i))⟩]
      (sheet.columnAt i) := by
  unfold visitColumn
  dsimp only
  refine .check ?_ (.check ?_ (.pure _))
  · rw [Bool.not_eq_true', Bool.not_eq_true]
    rfl
  · rw [Bool.not_eq_true', ← Bool.not_eq_true, Column.typeExists_iff]
    rfl

lemma obeys_readColumns (sheet : Sheet) (resolver : Resolver) :
    Obeys (readColumns sheet resolver) (sheet.headerRules resolver)
      ((sheet.named 0 1).map sheet.columnAt) := by
  have hscan : Obeys (scanHeader sheet 0 1 [idName] (visitColumn sheet resolver)).result _ _ :=
    obeys_scanHeader fun i _ => obeys_visitColumn i (sheet.nameAt 0 i)
  have hread : readColumns sheet resolver =
      if !hasIdColumn sheet then .error (.schema .idColumn)
      else (scanHeader sheet 0 1 [idName] (visitColumn sheet resolver)).result := by
    rw [readColumns, scanColumns]
    cases hasIdColumn sheet <;> rfl
  rw [hread]
  refine .check ?_ hscan
  rw [Bool.not_eq_true', ← Bool.not_eq_true, hasIdColumn, Bool.and_eq_true, decide_eq_true_eq,
    decide_eq_true_eq]

/-- A header is accepted exactly if all its rules are kept, and its columns are those of the named
cells, from left to right. Otherwise the first broken rule is reported. Of the sheet only the first
two rows count, up to where the header ends. -/
theorem readColumns_accepts (sheet : Sheet) (resolver : Resolver) :
    (∀ columns, readColumns sheet resolver = .ok columns ↔
        AllHold (sheet.headerRules resolver) ∧
          columns = (sheet.named 0 1).map sheet.columnAt) ∧
      (∀ fault, readColumns sheet resolver = .error fault ↔
        FirstBroken (sheet.headerRules resolver) fault) ∧
      ∀ other : Sheet, (∀ i ≤ sheet.headerEnd 0 1, other.cell 0 i = sheet.cell 0 i) →
        (∀ i < sheet.headerEnd 0 1, other.cell 1 i = sheet.cell 1 i) →
        readColumns other resolver = readColumns sheet resolver := by
  have hobeys := obeys_readColumns sheet resolver
  refine ⟨fun _ => hobeys.eq_ok_iff, fun _ => hobeys.eq_error_iff, fun other hnames htypes => ?_⟩
  refine hobeys.unique ?_
  rw [← Sheet.headerRules_congr hnames htypes, ← Sheet.map_columnAt_congr hnames htypes]
  exact obeys_readColumns other resolver

/-- A header with a name that is left out. -/
def notedSheet : Sheet :=
  ⟨[["ID", "Parts", "#7", "Next"], ["string", "int []", "", "TbItem"]]⟩

/-- The same header with a blank name behind it, and with cells behind that one. -/
def spacedSheet : Sheet :=
  ⟨[["ID", "Parts", "#7", "Next", "", "7", "Next"], ["string", "int []", "", "TbItem", "?"]]⟩

/-- The cells behind the end would break rules. -/
theorem spacedSheet_accepts :
    readColumns spacedSheet ⟨fun _ => true, fun _ => none⟩ =
        .ok [⟨1, "Parts", "int", true⟩, ⟨3, "Next", "TbItem", false⟩] ∧
      ¬ FirstBroken (notedSheet.headerRules ⟨fun _ => true, fun _ => none⟩)
        (.schema (.leadingDigit columnName "7")) := by
  obtain ⟨-, herror, hbehind⟩ := readColumns_accepts notedSheet ⟨fun _ => true, fun _ => none⟩
  have hread : readColumns notedSheet ⟨fun _ => true, fun _ => none⟩ =
      .ok [⟨1, "Parts", "int", true⟩, ⟨3, "Next", "TbItem", false⟩] := by rfl
  refine ⟨(hbehind spacedSheet (by decide) (by decide)).trans hread, fun hbroken => ?_⟩
  have hfault := (herror _).2 hbroken
  rw [hread] at hfault
  cases hfault

end SheetCompiler
