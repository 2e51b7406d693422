import SheetCompiler.Proofs.Schema.Marks
import SheetCompiler.Proofs.Table.Variable

/-!
# What type cells say

A type cell holds a type token, and an array mark behind the token says that values are lists. The
token is what is left without the marks, wherever these stand, and only the end of the cell is
looked at for the shape. So a mark in front of something says nothing and is passed over, and what
is read of such a cell is not what its text says.

Main statement: `typeCell_written_iff`, for the columns of Convert tables and the constants of
Variable tables alike.
-/

namespace SheetCompiler

open SheetCompiler.Text

/-- A type cell without its blanks is a type, with one array mark behind it if values are lists. -/
def WritesType (cell type : String) (isArray : Bool) : Prop :=
  dropBlanks cell.toList = type.toList ++ if isArray then arrayMark.toList else []

/-- Nothing stands behind an array mark of a type cell. -/
def MarksEnd (cell : String) : Prop :=
  ∀ front back, dropBlanks cell.toList = front ++ arrayMark.toList ++ back → back = []

/-- What is read of a type cell: a type token without marks, whose pieces stand in the cell with
marks between them, and the shape that the end of the cell tells. -/
structure IsTypeOf (cell type : String) (isArray : Bool) : Prop where
  token : TypeToken.classify type ≠ .invalid
  unmarked : ∀ front back, type.toList ≠ front ++ arrayMark.toList ++ back
  pieces : ∃ pieces, dropBlanks cell.toList = joinWith arrayMark.toList pieces ∧
    type.toList = pieces.flatten
  shape : isArray = true ↔ arrayMark.toList <:+ dropBlanks cell.toList

/-! ## What is read of a cell -/

variable {cell type : String} {isArray : Bool}

lemma notMem_bracket_of_classify (h : TypeToken.classify type ≠ .invalid) : '[' ∉ type.toList := by
  intro hmem
  have hchar := (TypeToken.chars_of_classify h).2 _ hmem
  exact absurd hchar (by decide)

lemma isTypeOf_normalize (h : TypeToken.classify (normalize cell) ≠ .invalid) :
    IsTypeOf cell (normalize cell) (endsInMark cell) where
  token := h
  unmarked front back heq := by
    refine notMem_bracket_of_classify h ?_
    rw [heq, List.append_assoc]
    exact List.mem_append_right _ List.mem_cons_self
  pieces := by
    obtain ⟨first, rest, hcell, hdrop⟩ := exists_pieces (dropBlanks cell.toList)
    exact ⟨first :: rest, hcell, by rw [normalize, String.toList_ofList, hdrop]⟩
  shape := by rw [endsInMark, List.isSuffixOf_iff_suffix]

/-- A cell that is written for what is read of it has no mark but the one at its end. -/
lemma WritesType.marksEnd (htoken : TypeToken.classify type ≠ .invalid)
    (h : WritesType cell type isArray) : MarksEnd cell := by
  have hbracket := notMem_bracket_of_classify htoken
  intro front back hmark
  rw [WritesType, hmark, List.append_assoc] at h
  -- the mark cannot begin within the token, which has no bracket
  rcases List.append_eq_append_iff.1 h with ⟨more, htype, hbehind⟩ | ⟨more, hfront, hbehind⟩
  · cases more with
    | nil =>
      cases isArray with
      | true => exact List.append_cancel_left hbehind
      | false => cases hbehind
    | cons c more =>
      obtain ⟨rfl, -⟩ := List.cons.inj hbehind
      exact absurd (htype ▸ List.mem_append_right _ List.mem_cons_self) hbracket
  · have hlength := congrArg List.length hbehind
    have hmarked : (if isArray then arrayMark.toList else []).length ≤ arrayMark.toList.length := by
      cases isArray with
      | true => exact Nat.le_refl _
      | false => exact Nat.zero_le _
    rw [List.length_append, List.length_append] at hlength
    exact List.eq_nil_of_length_eq_zero (by omega)

/-- Without a mark in front of something, what is read of a cell is what is written in it. -/
lemma MarksEnd.writesType (h : MarksEnd cell) : WritesType cell (normalize cell) (endsInMark cell) := by
  rw [WritesType, normalize, String.toList_ofList]
  cases hends : endsInMark cell with
  | true =>
    rw [endsInMark, List.isSuffixOf_iff_suffix] at hends
    obtain ⟨token, htoken⟩ := hends
    have hunmarked : ∀ front back, token ≠ front ++ arrayMark.toList ++ back := by
      rintro front back rfl
      have hback := h front (back ++ arrayMark.toList) (by rw [← htoken, List.append_assoc])
      exact absurd (List.append_eq_nil_iff.1 hback).2 (by decide)
    rw [← htoken, dropMarks_append_mark, dropMarks_eq_self hunmarked, if_pos rfl]
  | false =>
    have hunmarked : ∀ front back, dropBlanks cell.toList ≠ front ++ arrayMark.toList ++ back := by
      intro front back hmark
      obtain rfl := h front back hmark
      rw [List.append_nil] at hmark
      rw [endsInMark, hmark, ← Bool.not_eq_true, List.isSuffixOf_iff_suffix] at hends
      exact hends (List.suffix_append _ _)
    rw [dropMarks_eq_self hunmarked, if_neg Bool.false_ne_true, List.append_nil]

lemma writesType_iff (h : TypeToken.classify (normalize cell) ≠ .invalid) :
    WritesType cell (normalize cell) (endsInMark cell) ↔ MarksEnd cell :=
  ⟨WritesType.marksEnd h, MarksEnd.writesType⟩

/-! ## Accepted tables -/

/-- The type of an accepted column or constant is the token that its type cell holds between array
marks, and its values are lists exactly if the cell ends in a mark. So the cell says what is read
of it exactly if nothing stands behind a mark. -/
theorem typeCell_written_iff (sheet : Sheet) (resolver : Resolver) :
    (∀ columns, readColumns sheet resolver = .ok columns →
      ∀ c ∈ columns, IsTypeOf (sheet.cell 1 c.index) c.type c.isArray ∧
        (WritesType (sheet.cell 1 c.index) c.type c.isArray ↔ MarksEnd (sheet.cell 1 c.index))) ∧
      ∀ declarations, readVariables sheet = .ok declarations →
        ∃ constants : List Constant, declarations = constants.map Constant.declaration ∧
          List.Forall₂ (fun r c =>
            IsTypeOf (sheet.cell r 1) c.type.name c.literal.isList ∧
              (WritesType (sheet.cell r 1) c.type.name c.literal.isList ↔
                MarksEnd (sheet.cell r 1))) (constantRows sheet) constants := by
  refine ⟨fun columns hread c hc => ?_, fun declarations hread => ?_⟩
  · have hc := ((isRead_of_readColumns hread).1 c hc).1
    have htoken := hc.classify_ne_invalid
    have htype : c.type = normalize (sheet.cell 1 c.index) := congrArg Column.type hc.header
    have hshape : c.isArray = endsInMark (sheet.cell 1 c.index) :=
      congrArg Column.isArray hc.header
    rw [htype] at htoken ⊢
    rw [hshape]
    exact ⟨isTypeOf_normalize htoken, writesType_iff htoken⟩
  · obtain ⟨constants, hconstants, hrows, -⟩ := isOf_of_readVariables hread
    refine ⟨constants, hconstants, hrows.imp fun r c hc => ?_⟩
    have htype : c.type.name = normalize (sheet.cell r 1) := Primitive.name_of_ofName? hc.type
    have htoken : TypeToken.classify (normalize (sheet.cell r 1)) ≠ .invalid := by
      rw [TypeToken.classify, TypeToken.isPrimitive, hc.type]
      intro hinvalid
      cases hinvalid
    rw [htype, hc.isList]
    exact ⟨isTypeOf_normalize htoken, writesType_iff htoken⟩

/-- A header whose type cells have marks at the start, in the middle, twice and at the end. -/
def strewnSheet : Sheet :=
  ⟨[["ID", "Front", "Middle", "Twice", "End"], ["string", "[]int", "in[]t", "int[][]", "int []"]]⟩

/-- All of the columns are read as ones of integers, and only the last one says so. -/
theorem strewnSheet_written :
    ¬ WritesType "[]int" "int" false ∧ ¬ WritesType "in[]t" "int" false ∧
      ¬ WritesType "int[][]" "int" true ∧ MarksEnd "int []" := by
  have hread : readColumns strewnSheet ⟨fun _ => true, fun _ => none⟩ =
      .ok [⟨1, "Front", "int", false⟩, ⟨2, "Middle", "int", false⟩, ⟨3, "Twice", "int", true⟩,
        ⟨4, "End", "int", true⟩] := rfl
  have hcolumns := (typeCell_written_iff strewnSheet ⟨fun _ => true, fun _ => none⟩).1 _ hread
  simp only [List.forall_mem_cons] at hcolumns
  obtain ⟨⟨-, hfront⟩, ⟨-, hmiddle⟩, ⟨-, htwice⟩, ⟨-, hend⟩, -⟩ := hcolumns
  refine ⟨fun h => ?_, fun h => ?_, fun h => ?_, hend.1 rfl⟩
  · exact absurd (hfront.1 h [] ['i', 'n', 't'] rfl) (by decide)
  · exact absurd (hmiddle.1 h ['i', 'n'] ['t'] rfl) (by decide)
  · exact absurd (htwice.1 h ['i', 'n', 't'] ['[', ']'] rfl) (by decide)

/-- A header with a mark in front of the type. -/
def markedSheet : Sheet := ⟨[["ID", "A"], ["string", "[]int"]]⟩

/-- The column of such a cell is accepted, and as one whose values are no lists. -/
theorem markedSheet_columns :
    readColumns markedSheet ⟨fun _ => false, fun _ => none⟩ = .ok [⟨1, "A", "int", false⟩] ∧
      ¬ WritesType (markedSheet.cell 1 1) "int" false := by
  refine ⟨rfl, fun h => ?_⟩
  have hlength := congrArg List.length h
  exact absurd hlength (by decide)

end SheetCompiler
