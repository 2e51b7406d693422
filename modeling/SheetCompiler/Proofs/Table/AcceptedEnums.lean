import SheetCompiler.Proofs.Schema.Accepted
import SheetCompiler.Table.Enum

/-!
# Which Enum tables are accepted

The grammar of Enum tables. Every named cell of the header names an enumeration, and the cells below
it are its members, up to the first blank one (`Sheet.memberRows`). Each named cell keeps
`enumRules`: those of its name come before those of its members, and those of a member before those
of the members below it. That there is a member comes last.

Main statement: `readEnums_accepts`.
-/

namespace SheetCompiler

open SheetCompiler.Text
open Rule (AllHold FirstBroken)

namespace Sheet

/-- The rows of the members of a column: those below the header up to the first blank cell whose
cells are not left out. -/
def memberRows (sheet : Sheet) (column : Nat) : List Nat :=
  labelled (fun r => sheet.nameAt r column) (List.range' 1 (sheet.rowCount - 1))

/-- The row where the members of a column end: that of the first blank cell, or behind the sheet. -/
def membersEnd (sheet : Sheet) (column : Nat) : Nat :=
  1 + (upToBlank (fun r => sheet.nameAt r column)
    (List.range' 1 (sheet.rowCount - 1))).length

/-- The members of a column, from top to bottom. -/
def membersOf (sheet : Sheet) (column : Nat) : List String :=
  (sheet.memberRows column).map fun r => sheet.nameAt r column

/-- What a member is checked for. -/
def memberRules (sheet : Sheet) (column : Nat) (enumeration : String) (r : Nat) : List Rule :=
  let member := sheet.nameAt r column
  nameRules memberName
      (IsNew (fun r => sheet.nameAt r column) [] (sheet.memberRows column) r) member ++
    [⟨isIdentifier member = true ∧ startsWith "_" member = false,
      .row (.memberName member enumeration)⟩]

/-- What the members of an enumeration are checked for. -/
def membersRules (sheet : Sheet) (column : Nat) (enumeration : String) : List Rule :=
  (sheet.memberRows column).flatMap (sheet.memberRules column enumeration) ++
    [⟨sheet.memberRows column ≠ [], .row (.noMembers enumeration)⟩]

/-- What a named header cell is checked for, with the cells below it. -/
def enumRules (sheet : Sheet) (i : Nat) : List Rule :=
  let name := sheet.nameAt 0 i
  nameRules columnName (IsNew (sheet.nameAt 0) [] (sheet.named 0 0) i) name ++
    ⟨isIdentifier name = true, .schema (.notIdentifier "Enum name" name)⟩ ::
      sheet.membersRules i name

/-- The enumeration of a named header cell. -/
def enumAt (sheet : Sheet) (i : Nat) : EnumDeclaration := ⟨sheet.nameAt 0 i, sheet.membersOf i⟩

variable {sheet other : Sheet} {column : Nat}

lemma nameAt_of_rowCount_le {r : Nat} (h : sheet.rowCount ≤ r) : sheet.nameAt r column = "" := by
  rw [nameAt, cell_of_rowCount_le h]
  rfl

section

variable (hcells : ∀ r, 1 ≤ r → r ≤ sheet.membersEnd column →
  other.cell r column = sheet.cell r column)
include hcells

lemma nameAt_memberRows_congr {r : Nat} (h : r ∈ sheet.memberRows column) :
    other.nameAt r column = sheet.nameAt r column := by
  have hlt := lt_of_mem_labelled_range' h
  exact nameAt_congr (hcells r hlt.1 (Nat.le_of_lt hlt.2))

/-- Only the cells of the column count, up to its first blank one. -/
lemma memberRows_congr : other.memberRows column = sheet.memberRows column :=
  labelled_range'_congr (fun r hr => nameAt_of_rowCount_le (by omega))
    (fun r hr => nameAt_of_rowCount_le (by omega)) fun r hr hle => nameAt_congr (hcells r hr hle)

lemma membersOf_congr : other.membersOf column = sheet.membersOf column := by
  rw [membersOf, memberRows_congr hcells]
  exact List.map_congr_left fun r hr => nameAt_memberRows_congr hcells hr

lemma membersRules_congr (enumeration : String) :
    other.membersRules column enumeration = sheet.membersRules column enumeration := by
  have hmembers : ∀ r ∈ sheet.memberRows column,
      other.memberRules column enumeration r = sheet.memberRules column enumeration r := by
    intro r hr
    rw [memberRules, memberRules, memberRows_congr hcells,
      isNew_congr (fun j hj => nameAt_memberRows_congr hcells hj) hr,
      nameAt_memberRows_congr hcells hr]
  rw [membersRules, membersRules, memberRows_congr hcells, List.flatMap_congr hmembers]

end

end Sheet

/-! ## Members -/

variable {sheet : Sheet} {column : Nat} {enumeration : String}

/-- The cells below a header cell are read one after the other. -/
lemma readMembersAt_eq_readEach {rows : List Nat} {seen : List String} :
    readMembersAt sheet column enumeration rows seen =
      readEach (fun r => sheet.nameAt r column) (fun seen r => do
        checkName memberName seen (sheet.nameAt r column)
        if !isIdentifier (sheet.nameAt r column) || startsWith "_" (sheet.nameAt r column) then
          .error (.row (.memberName (sheet.nameAt r column) enumeration))
        else .ok (sheet.nameAt r column)) rows seen := by
  induction rows generalizing seen with
  | nil => rfl
  | cons r rows ih =>
    rw [readMembersAt, readEach, ← Sheet.nameAt]
    by_cases hblank : sheet.nameAt r column = ""
    · rw [if_pos hblank, if_pos hblank, hblank]
      rfl
    rw [if_neg hblank, if_neg hblank, bind_assoc]
    refine ite_congr rfl (fun _ => ih) fun _ => bind_congr fun _ => ?_
    split
    · rfl
    · rw [ih]
      rfl

lemma obeys_readMembers (sheet : Sheet) (column : Nat) (enumeration : String) :
    Obeys (readMembers sheet column enumeration) (sheet.membersRules column enumeration)
      (sheet.membersOf column) := by
  have hmembers : Obeys
      (readMembersAt sheet column enumeration (List.range' 1 (sheet.rowCount - 1)) [])
      ((sheet.memberRows column).flatMap (sheet.memberRules column enumeration))
      (sheet.membersOf column) := by
    rw [readMembersAt_eq_readEach]
    refine obeys_readEach (fun isNew r =>
      nameRules memberName isNew (sheet.nameAt r column) ++
        [⟨isIdentifier (sheet.nameAt r column) = true ∧
          startsWith "_" (sheet.nameAt r column) = false,
          .row (.memberName (sheet.nameAt r column) enumeration)⟩]) List.pairwise_lt_range'
      fun seen r hr => ?_
    refine (obeys_checkName (mem_labelled hr).2.1).bind (.check ?_ (.pure _))
    rw [Bool.or_eq_true, Bool.not_eq_true', not_and_or, Bool.not_eq_true, Bool.not_eq_false]
  refine hmembers.bind (.check ?_ (.pure _))
  rw [List.isEmpty_iff, Sheet.membersOf, List.map_eq_nil_iff, not_not]

/-! ## Enumerations -/

lemma obeys_visitEnum (sheet : Sheet) (i : Nat) (name : String) :
    Obeys (visitEnum sheet i name)
      (⟨isIdentifier name = true, .schema (.notIdentifier "Enum name" name)⟩ ::
        sheet.membersRules i name) ⟨name, sheet.membersOf i⟩ := by
  refine .check ?_ ((obeys_readMembers sheet i name).map (EnumDeclaration.mk name))
  rw [Bool.not_eq_true', Bool.not_eq_true]

/-- An Enum table is accepted exactly if all its rules are kept, and its enumerations are those of
the named header cells, from left to right. Otherwise the first broken rule is reported. What is
read of a column, and what is wrong with it, depends on its own cells alone. -/
theorem readEnums_accepts (sheet : Sheet) :
    (∀ enums, readEnums sheet = .ok enums ↔
        AllHold ((sheet.named 0 0).flatMap sheet.enumRules) ∧
          enums = (sheet.named 0 0).map sheet.enumAt) ∧
      (∀ fault, readEnums sheet = .error fault ↔
        FirstBroken ((sheet.named 0 0).flatMap sheet.enumRules) fault) ∧
      ∀ (other : Sheet) (column : Nat),
        (∀ r, 1 ≤ r → r ≤ sheet.membersEnd column →
          other.cell r column = sheet.cell r column) →
        other.membersOf column = sheet.membersOf column ∧
          ∀ enumeration, readMembers other column enumeration =
            readMembers sheet column enumeration := by
  have hobeys : Obeys (readEnums sheet) ((sheet.named 0 0).flatMap sheet.enumRules)
      ((sheet.named 0 0).map sheet.enumAt) :=
    obeys_scanHeader fun i _ => obeys_visitEnum sheet i (sheet.nameAt 0 i)
  refine ⟨fun _ => hobeys.eq_ok_iff, fun _ => hobeys.eq_error_iff, fun other column hcells =>
    ⟨Sheet.membersOf_congr hcells, fun enumeration => ?_⟩⟩
  refine (obeys_readMembers sheet column enumeration).unique ?_
  rw [← Sheet.membersRules_congr hcells, ← Sheet.membersOf_congr hcells]
  exact obeys_readMembers other column enumeration

/-- Two enumerations of different lengths, of which the first one is left out in part. -/
def raggedSheet : Sheet :=
  ⟨[["Grade", "#old", "Color"], ["Low", "1", "Red"], ["#Mid", "", ""], ["High", "?", "Low"]]⟩

/-- The members of the first column are those of any sheet with the same column, whatever stands
beside it. -/
theorem raggedSheet_accepts :
    readEnums raggedSheet = .ok [⟨"Grade", ["Low", "High"]⟩, ⟨"Color", ["Red"]⟩] ∧
      readMembers ⟨[["Grade"], ["Low"], ["#Mid"], ["High"]]⟩ 0 "Grade" = .ok ["Low", "High"] := by
  obtain ⟨-, -, hbeside⟩ := readEnums_accepts raggedSheet
  have hgrades : readMembers raggedSheet 0 "Grade" = .ok ["Low", "High"] :=
    eq_ok_of_toOption (by decide +kernel)
  refine ⟨eq_ok_of_toOption (by decide +kernel),
    ((hbeside _ 0 fun r hr hle => ?_).2 "Grade").trans hgrades⟩
  have hend : raggedSheet.membersEnd 0 = 4 := by decide +kernel
  rw [hend] at hle
  obtain rfl | rfl | rfl | rfl : r = 1 ∨ r = 2 ∨ r = 3 ∨ r = 4 := by omega
  all_goals decide +kernel

end SheetCompiler
