import SheetCompiler.Proofs.Table.AcceptedRows
import SheetCompiler.Proofs.Table.Variable

/-!
# Which Variable tables are accepted

The grammar of Variable tables. Under the header stands one constant a row, up to the first blank
name, and each keeps `constantRules`: those of its name come before those of its type, and these
before those of its value. A value is checked whatever it begins with. A row that keeps its rules
has one constant only.

Main statement: `readVariables_accepts`.
-/

namespace SheetCompiler

open SheetCompiler.Text
open Rule (AllHold FirstBroken)

/-! ## Rules -/

/-- What the value of a constant is called in messages. -/
def valueName : String := "Value"

namespace Sheet

/-- What the type and the value of a constant are checked for. -/
def valueRules (sheet : Sheet) (r : Nat) : List Rule :=
  let name := sheet.nameAt r 0
  let type := normalize (sheet.cell r 1)
  let cell := sheet.cell r 2
  [⟨∃ p, Primitive.ofName? type = some p, .schema (.variableType type name)⟩,
    ⟨cell ≠ "", .row (.emptyCell valueName name)⟩,
    ⟨endsInMark (sheet.cell r 1) = true ∨ '\n' ∉ cell.toList,
      .row (.unexpectedArray valueName name)⟩,
    ⟨∀ text ∈ splitCell cell, ∃ p, Primitive.ofName? type = some p ∧ p.isValid text = .ok true,
      .row (.mismatch valueName name)⟩]

/-- What the row of a constant is checked for. -/
def constantRules (sheet : Sheet) (r : Nat) : List Rule :=
  let name := sheet.nameAt r 0
  nameRules variableName (IsNew (fun r => sheet.nameAt r 0) [] (constantRows sheet) r) name ++
    ⟨isIdentifier name = true, .schema (.notIdentifier variableName name)⟩ :: sheet.valueRules r

/-- What a Variable table is checked for. -/
def variableRules (sheet : Sheet) : List Rule :=
  ⟨sheet.cell 0 0 = "ID" ∧ sheet.cell 0 1 = "Type" ∧ sheet.cell 0 2 = "Value",
      .schema .variableHeader⟩ ::
    (constantRows sheet).flatMap sheet.constantRules

end Sheet

/-! ## Rows -/

variable {sheet : Sheet} {r : Nat}

/-- A row has at most one constant. -/
lemma Constant.IsOf.unique {c c' : Constant} (h : c.IsOf sheet r) (h' : c'.IsOf sheet r) :
    c = c' := by
  obtain ⟨name, type, literal⟩ := c
  obtain ⟨name', type', literal'⟩ := c'
  have hname : name = name' := h.name.trans h'.name.symm
  have htype : type = type' := Option.some.inj (h.type.symm.trans h'.type)
  subst hname htype
  have hvalues : literal.values = literal'.values := by
    refine List.right_unique_forall₂' ?_ h.values h'.values
    intro text v v' hv hv'
    exact Except.ok.inj (hv.symm.trans hv')
  have hshape : literal.isList = literal'.isList := h.isList.trans h'.isList.symm
  cases literal <;> cases literal' <;> cases hshape <;> cases hvalues <;> rfl

/-- No line of a value that is to hold integers has too many digits. -/
def Sheet.KeepsDigitLimit (sheet : Sheet) (r : Nat) : Prop :=
  ∀ p, Primitive.ofName? (normalize (sheet.cell r 1)) = some p → p.isIntegral = true →
    ∀ text ∈ splitCell (sheet.cell r 2), Primitive.isOverlong text = false

lemma Sheet.keepsDigitLimit_of_not_holdsOverlong (h : ∀ digits, ¬ sheet.HoldsOverlong digits) :
    sheet.KeepsDigitLimit r := by
  intro p _ _ text htext
  rw [← Bool.not_eq_true]
  exact fun hlong => h _ ⟨r, 2, text, htext, hlong, rfl⟩

/-- What is checked first of a value is its shape, and then each of its lines. -/
lemma obeys_checkValue (hdigits : sheet.KeepsDigitLimit r) (name : String) {p : Primitive}
    (hp : Primitive.ofName? (normalize (sheet.cell r 1)) = some p) :
    Obeys
      (checkCell .none name valueName (normalize (sheet.cell r 1)) .primitive
        (endsInMark (sheet.cell r 1)) (sheet.cell r 2))
      [⟨sheet.cell r 2 ≠ "", .row (.emptyCell valueName name)⟩,
        ⟨endsInMark (sheet.cell r 1) = true ∨ '\n' ∉ (sheet.cell r 2).toList,
          .row (.unexpectedArray valueName name)⟩,
        ⟨∀ text ∈ splitCell (sheet.cell r 2), p.isValid text = .ok true,
          .row (.mismatch valueName name)⟩]
      (splitCell (sheet.cell r 2)) := by
  unfold checkCell
  rw [hp]
  exact obeys_shape (obeys_areValid (hdigits p hp))

/-- A row is checked for its type and its value, and what is declared then cannot fail. -/
lemma exists_obeys_readVariable (hdigits : sheet.KeepsDigitLimit r) :
    ∃ declaration, Obeys (readVariable sheet r (sheet.nameAt r 0)) (sheet.valueRules r)
      declaration := by
  have htype : (Column.ofHeader 0 (sheet.nameAt r 0) (sheet.cell r 1)).type =
      normalize (sheet.cell r 1) := rfl
  unfold readVariable Sheet.valueRules
  dsimp only
  rw [htype]
  cases hp : Primitive.ofName? (normalize (sheet.cell r 1)) with
  | none => exact ⟨⟨"", "", ""⟩, .broken (by simp)⟩
  | some p =>
    simp only [Option.some.injEq, exists_eq_left']
    have hvalue := obeys_checkValue hdigits (sheet.nameAt r 0) hp
    by_cases hvalid : ∀ text ∈ splitCell (sheet.cell r 2), p.isValid text = .ok true
    · obtain ⟨declaration, hdeclared⟩ := declareVariable_eq_ok
        (Column.ofHeader 0 (sheet.nameAt r 0) (sheet.cell r 1)).name
        (endsInMark (sheet.cell r 1)) (Primitive.areValid_of_forall hvalid)
      refine ⟨declaration, .cons_of_holds ⟨p, rfl⟩ (hvalue.bind ?_)⟩
      have hdone : Obeys (.ok declaration) [] declaration := .pure declaration
      rwa [← hdeclared] at hdone
    · -- what would be declared does not matter where the values are not valid
      refine ⟨⟨"", "", ""⟩, .cons_of_holds ⟨p, rfl⟩ (hvalue.bind_of_kept fun hkept => ?_)⟩
      rw [Rule.allHold_cons, Rule.allHold_cons, Rule.allHold_cons] at hkept
      exact absurd hkept.2.2.1 hvalid

/-- The rows of constants are read one after the other. -/
lemma readVariablesAt_eq_readEach {rows : List Nat} {seen : List String} :
    readVariablesAt sheet rows seen =
      readEach (fun r => sheet.nameAt r 0) (fun seen r => do
        checkName variableName seen (sheet.nameAt r 0)
        if !isIdentifier (sheet.nameAt r 0) then
          .error (.schema (.notIdentifier variableName (sheet.nameAt r 0)))
        else readVariable sheet r (sheet.nameAt r 0)) rows seen := by
  induction rows generalizing seen with
  | nil => rfl
  | cons r rows ih =>
    rw [readVariablesAt, readEach, ← Sheet.nameAt]
    by_cases hblank : sheet.nameAt r 0 = ""
    · rw [if_pos hblank, if_pos hblank, hblank]
      rfl
    rw [if_neg hblank, if_neg hblank, bind_assoc]
    refine ite_congr rfl (fun _ => ih) fun _ => bind_congr fun _ => ?_
    split
    · rfl
    · rw [ih]

/-! ## Tables -/

lemma exists_obeys_readVariables
    (hdigits : ∀ r ∈ constantRows sheet, sheet.KeepsDigitLimit r) :
    ∃ declarations, Obeys (readVariables sheet) sheet.variableRules declarations := by
  have hrows : ∀ r ∈ constantRows sheet, ∃ declaration,
      Obeys (readVariable sheet r (sheet.nameAt r 0)) (sheet.valueRules r) declaration :=
    fun r hr => exists_obeys_readVariable (hdigits r hr)
  have hsome : Nonempty VariableDeclaration := ⟨⟨"", "", ""⟩⟩
  choose! value hvalue using hrows
  refine ⟨(constantRows sheet).map value, ?_⟩
  have hread : readVariables sheet =
      if ¬ [sheet.cell 0 0, sheet.cell 0 1, sheet.cell 0 2] = variableHeader then
        .error (.schema .variableHeader)
      else readVariablesAt sheet (List.range' 1 (sheet.rowCount - 1)) [] := by
    rw [readVariables, ite_not]
  rw [hread, readVariablesAt_eq_readEach]
  refine .check (by simp [variableHeader]) ?_
  refine obeys_readEach (fun isNew r =>
    nameRules variableName isNew (sheet.nameAt r 0) ++
      ⟨isIdentifier (sheet.nameAt r 0) = true,
        .schema (.notIdentifier variableName (sheet.nameAt r 0))⟩ :: sheet.valueRules r)
    List.pairwise_lt_range' fun seen r hr => ?_
  refine (obeys_checkName (mem_labelled hr).2.1).bind (.check ?_ (hvalue r hr))
  rw [Bool.not_eq_true', Bool.not_eq_true]

/-- A Variable table whose integers keep the limit of digits is accepted exactly if all its rules
are kept, and its constants are those of its rows, from top to bottom. Otherwise the first broken
rule is reported. -/
theorem readVariables_accepts (sheet : Sheet)
    (hdigits : ∀ r ∈ constantRows sheet, sheet.KeepsDigitLimit r) :
    (∀ declarations, readVariables sheet = .ok declarations ↔
        AllHold sheet.variableRules ∧
          ∃ constants : List Constant, declarations = constants.map Constant.declaration ∧
            List.Forall₂ (fun r c => c.IsOf sheet r) (constantRows sheet) constants) ∧
      ∀ fault, readVariables sheet = .error fault ↔ FirstBroken sheet.variableRules fault := by
  obtain ⟨found, hobeys⟩ := exists_obeys_readVariables hdigits
  refine ⟨fun declarations => ⟨fun hread => ?_, ?_⟩, fun _ => hobeys.eq_error_iff⟩
  · obtain ⟨constants, hconstants, hrows, -⟩ := isOf_of_readVariables hread
    exact ⟨(hobeys.eq_ok_iff.1 hread).1, constants, hconstants, hrows⟩
  · rintro ⟨hkept, constants, rfl, hrows⟩
    have hread := hobeys.ok hkept
    obtain ⟨constants', rfl, hrows', -⟩ := isOf_of_readVariables hread
    have hsame : constants = constants' :=
      List.right_unique_forall₂' (fun _ _ _ h h' => h.unique h') hrows hrows'
    rw [hread, hsame]

/-- Constants with a value that begins like a name that is left out, and a row behind the end. -/
def remarkSheet : Sheet :=
  ⟨[["ID", "Type", "Value"], ["Motto", "string", "#one"], ["#Old", "?"],
    ["Si zes", "int []", "+1\n02"], [" "], ["7", "?"]]⟩

/-- Constants of which two are broken, and the first one in its value. -/
def repeatedSheet : Sheet :=
  ⟨[["ID", "Type", "Value"], ["Size", "int", "1\n2"], ["Size", "?", ""]]⟩

/-- Such a value is a value, and what is behind the end is not read. Of two broken rows the first
one counts. -/
theorem remarkSheet_accepts :
    readVariables remarkSheet =
        .ok [⟨"Motto", "str", "'#one'"⟩, ⟨"Sizes", "list[int]", "[1, 2]"⟩] ∧
      AllHold remarkSheet.variableRules ∧
      FirstBroken repeatedSheet.variableRules (.row (.unexpectedArray "Value" "Size")) := by
  have hdigits : ∀ r ∈ constantRows remarkSheet, remarkSheet.KeepsDigitLimit r := fun r _ =>
    Sheet.keepsDigitLimit_of_not_holdsOverlong (Sheet.not_holdsOverlong (by decide))
  have hdigits' : ∀ r ∈ constantRows repeatedSheet, repeatedSheet.KeepsDigitLimit r := fun r _ =>
    Sheet.keepsDigitLimit_of_not_holdsOverlong (Sheet.not_holdsOverlong (by decide))
  have hread : readVariables remarkSheet =
      .ok [⟨"Motto", "str", "'#one'"⟩, ⟨"Sizes", "list[int]", "[1, 2]"⟩] :=
    eq_ok_of_toOption (by decide +kernel)
  have hfault : readVariables repeatedSheet = .error (.row (.unexpectedArray "Value" "Size")) := by
    decide +kernel
  exact ⟨hread, (((readVariables_accepts remarkSheet hdigits).1 _).1 hread).1,
    ((readVariables_accepts repeatedSheet hdigits').2 _).1 hfault⟩

end SheetCompiler
