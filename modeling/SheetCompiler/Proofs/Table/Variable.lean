import SheetCompiler.Proofs.Schema.Columns
import SheetCompiler.Proofs.Schema.Marks
import SheetCompiler.Proofs.Script.Literal
import SheetCompiler.Proofs.Table.Rows

/-!
# Constants of Variable tables

The constants of an accepted Variable table are those of its rows with a name, up to the first blank
one: the texts of a cell are valid ones of its type, and the constant stands for their values, in a
list if its type is that of arrays.

Main statement: `isOf_of_readVariables`.
-/

namespace SheetCompiler

open SheetCompiler.Text SheetCompiler.Number SheetCompiler.Script

/-! ## Constants -/

/-- Whether a literal is a list. -/
def Literal.isList : Literal → Bool
  | .scalar _ => false
  | .list _ => true

/-- A constant: its name, its type, and what it stands for. -/
structure Constant where
  name : String
  type : Primitive
  literal : Literal

namespace Constant

/-- The name of the type of a constant in a script. -/
def typeName (c : Constant) : String :=
  if c.literal.isList then "list[" ++ c.type.typeName ++ "]" else c.type.typeName

/-- A constant as it stands in a script. -/
def declaration (c : Constant) : VariableDeclaration := ⟨c.name, c.typeName, c.literal.text⟩

/-- A constant is that of a row: the row names it and its type, and it stands for the values of the
texts in the row's last cell, which are valid. -/
structure IsOf (sheet : Sheet) (r : Nat) (c : Constant) : Prop where
  name : c.name = normalize (sheet.cell r 0)
  identifier : isIdentifier c.name = true
  type : Primitive.ofName? (normalize (sheet.cell r 1)) = some c.type
  isList : c.literal.isList = endsInMark (sheet.cell r 1)
  valid : ∀ text ∈ splitCell (sheet.cell r 2), c.type.isValid text = .ok true
  values : List.Forall₂ (fun text v => c.type.convert text = .ok v) (splitCell (sheet.cell r 2))
    c.literal.values

end Constant

/-! ## Values of valid texts -/

/-- The literals of valid texts can be read: the integers among them have few digits. -/
lemma Primitive.isLegible_of_isValid {p : Primitive} {text : String} {v : Scalar}
    (h : p.isValid text = .ok true) (hv : p.convert text = .ok v) : v.IsLegible := by
  have hinteger {bits : Nat} (hbits : bits ≤ 64) (hvalid : isValidInteger bits text = .ok true)
      (hread : (readInteger text).map Scalar.integer = .ok v) : v.IsLegible := by
    unfold isValidInteger at hvalid
    split at hvalid
    · cases hr : readInteger text with
      | error fault => rw [hr] at hread; cases hread
      | ok i =>
        rw [hr] at hvalid hread
        cases hread
        have hfits : fits bits i = true := Except.ok.inj hvalid
        rw [fits, Bool.and_eq_true, decide_eq_true_eq, decide_eq_true_eq] at hfits
        have hpow : (Nat.pow 2 (bits - 1) : Int) ≤ Nat.pow 2 63 :=
          Int.ofNat_le.2 (Nat.pow_le_pow_right (by decide) (by omega))
        have hbound : (Nat.pow 2 63 : Int) = 9223372036854775808 := by decide
        have hlength : (Nat.toDigits 10 i.natAbs).length ≤ 20 := by
          rw [Nat.length_toDigits_le_iff (by decide) (by decide)]
          omega
        exact hlength.trans (by decide)
    · cases hvalid
  have hreal (hread : (readReal text).map Scalar.real = .ok v) : v.IsLegible := by
    cases hr : readReal text with
    | error fault => rw [hr] at hread; cases hread
    | ok x =>
      rw [hr] at hread
      cases hread
      trivial
  cases p with
  | int => exact hinteger (by decide) h hv
  | long => exact hinteger (by decide) h hv
  | float => exact hreal hv
  | double => exact hreal hv
  | bool => cases hv; trivial
  | string => cases hv; trivial

/-- A value is one that texts of a type can have. -/
def Scalar.IsOfType (p : Primitive) : Scalar → Prop
  | .integer _ => p = .int ∨ p = .long
  | .real x => (p = .float ∨ p = .double) ∧ x ≠ .nan
  | .truth _ => p = .bool
  | .text _ => p = .string

lemma Primitive.isOfType_of_isValid {p : Primitive} {text : String} {v : Scalar}
    (h : p.isValid text = .ok true) (hv : p.convert text = .ok v) : v.IsOfType p := by
  have hinteger (hp : p = .int ∨ p = .long)
      (hread : (readInteger text).map Scalar.integer = .ok v) : v.IsOfType p := by
    cases hr : readInteger text with
    | error fault => rw [hr] at hread; cases hread
    | ok i =>
      rw [hr] at hread
      cases hread
      exact hp
  have hreal (hp : p = .float ∨ p = .double) (hmatch : matchesReal text.toList = true)
      (hread : (readReal text).map Scalar.real = .ok v) : v.IsOfType p := by
    obtain ⟨x, hx, hne⟩ := readReal_of_matches hmatch
    rw [hx] at hread
    cases hread
    exact ⟨hp, hne⟩
  cases p with
  | int => exact hinteger (.inl rfl) hv
  | long => exact hinteger (.inr rfl) hv
  | float => exact hreal (.inl rfl) (Except.ok.inj h) hv
  | double => exact hreal (.inr rfl) (Except.ok.inj h) hv
  | bool => cases hv; rfl
  | string => cases hv; rfl

/-- The values of an accepted constant are of its type. -/
lemma Constant.IsOf.isOfType {sheet : Sheet} {r : Nat} {c : Constant} (h : c.IsOf sheet r) :
    ∀ v ∈ c.literal.values, v.IsOfType c.type := by
  intro v hv
  obtain ⟨text, ht, hconvert⟩ := exists_mem_of_forall₂ h.values hv
  exact Primitive.isOfType_of_isValid (h.valid text ht) hconvert

/-- The literal of an accepted constant can be read. -/
lemma Constant.IsOf.isLegible {sheet : Sheet} {r : Nat} {c : Constant} (h : c.IsOf sheet r) :
    c.literal.IsLegible := by
  intro v hv
  obtain ⟨text, ht, hconvert⟩ := exists_mem_of_forall₂ h.values hv
  exact Primitive.isLegible_of_isValid (h.valid text ht) hconvert

/-! ## Rows -/

/-- The rows of constants among rows: those up to the first with a blank name whose name is not left
out. -/
def constantRowsAt (sheet : Sheet) (rows : List Nat) : List Nat :=
  (rows.takeWhile fun r => decide (normalize (sheet.cell r 0) ≠ "")).filter
    fun r => !isExcluded (normalize (sheet.cell r 0))

/-- The rows of the constants of a Variable table. -/
def constantRows (sheet : Sheet) : List Nat :=
  constantRowsAt sheet (List.range' 1 (sheet.rowCount - 1))

variable {sheet : Sheet} {r : Nat} {name : String} {declaration : VariableDeclaration}

lemma isOf_of_declareVariable {p : Primitive} {isArray : Bool} {texts : List String}
    (h : declareVariable name p isArray texts = .ok declaration)
    (hone : isArray = false → texts.length ≤ 1) (hne : texts ≠ []) :
    ∃ c : Constant, declaration = c.declaration ∧ c.name = name ∧ c.type = p ∧
      c.literal.isList = isArray ∧
      List.Forall₂ (fun text v => p.convert text = .ok v) texts c.literal.values := by
  unfold declareVariable at h
  split at h
  · cases h
  · rename_i values hvalues
    have hconverted := mapM_eq_ok_iff.1 hvalues
    cases isArray with
    | true =>
      rw [if_pos rfl] at h
      cases h
      exact ⟨⟨name, p, .list values⟩, rfl, rfl, rfl, rfl, hconverted⟩
    | false =>
      rw [if_neg Bool.false_ne_true] at h
      cases h
      obtain ⟨text, rfl⟩ : ∃ text, texts = [text] := by
        obtain ⟨text, rest, rfl⟩ := List.exists_cons_of_ne_nil hne
        have hlength := hone rfl
        rw [List.length_cons] at hlength
        exact ⟨text, by rw [List.eq_nil_of_length_eq_zero (by omega : rest.length = 0)]⟩
      obtain ⟨v, rest, hv, hrest, rfl⟩ := List.forall₂_cons_left_iff.1 hconverted
      rw [List.forall₂_nil_left_iff.1 hrest]
      refine ⟨⟨name, p, .scalar v⟩, ?_, rfl, rfl, rfl, .cons hv .nil⟩
      simp [Constant.declaration, Constant.typeName, Literal.isList, Literal.text, String.join_cons]

/-- The name of an accepted constant is normalized already. -/
lemma normalize_name (hname : name = normalize (sheet.cell r 0))
    (hident : isIdentifier name = true) : normalize name = name := by
  have hbracket : '[' ∉ name.toList :=
    notMem_of_isIdentifierChars (isIdentifierChars_of_isIdentifier hident) (by decide)
  rw [hname] at hbracket ⊢
  refine normalize_normalize fun front back hmark => hbracket ?_
  rw [hmark, List.append_assoc]
  exact List.mem_append_right _ List.mem_cons_self

lemma isOf_of_readVariable (hname : name = normalize (sheet.cell r 0))
    (hident : isIdentifier name = true) (h : readVariable sheet r name = .ok declaration) :
    ∃ c : Constant, declaration = c.declaration ∧ c.IsOf sheet r := by
  unfold readVariable at h
  dsimp only at h
  split at h
  · cases h
  · rename_i p hp
    obtain ⟨texts, hcheck, hdeclare⟩ := except_bind_eq_ok.1 h
    obtain ⟨-, hsplit, hone, hprimitive⟩ := checkCell_eq_ok hcheck
    obtain ⟨p', hp', hvalid⟩ := hprimitive rfl
    rw [hp, Option.some.injEq] at hp'
    subst hp'
    have hne : texts ≠ [] := by
      rw [hsplit, splitCell, pieces, Ne, List.map_eq_nil_iff]
      exact splitOn_ne_nil _ _
    obtain ⟨c, hc, hcname, hctype, hclist, hvalues⟩ := isOf_of_declareVariable hdeclare hone hne
    subst hsplit
    have hcname : c.name = name := hcname.trans (normalize_name hname hident)
    refine ⟨c, hc, hcname.trans hname, hcname ▸ hident, ?_, hclist, ?_, ?_⟩
    · rw [hctype]
      exact hp
    · rw [hctype]
      exact Primitive.areValid_eq_true hvalid
    · rw [hctype]
      exact hvalues

lemma isOf_of_readVariablesAt {rows : List Nat} {seen : List String}
    {declarations : List VariableDeclaration}
    (h : readVariablesAt sheet rows seen = .ok declarations) :
    ∃ constants : List Constant, declarations = constants.map Constant.declaration ∧
      List.Forall₂ (fun r c => c.IsOf sheet r) (constantRowsAt sheet rows) constants ∧
      (constants.map Constant.name).Nodup ∧ ∀ c ∈ constants, c.name ∉ seen := by
  induction rows generalizing seen declarations with
  | nil =>
    cases h
    exact ⟨[], rfl, .nil, by simp, by simp⟩
  | cons r rows ih =>
    rw [readVariablesAt] at h
    split at h
    · rename_i hexcluded
      obtain ⟨constants, hd, hall, hnodup, hseen⟩ := ih h
      -- a name that is left out is not blank
      have hblank : normalize (sheet.cell r 0) ≠ "" := by
        intro hblank
        rw [hblank] at hexcluded
        exact absurd hexcluded (by decide)
      have hskip : constantRowsAt sheet (r :: rows) = constantRowsAt sheet rows := by
        rw [constantRowsAt, List.takeWhile_cons_of_pos (by simp [hblank]),
          List.filter_cons_of_neg (by simp [hexcluded]), constantRowsAt]
      rw [hskip]
      exact ⟨constants, hd, hall, hnodup, hseen⟩
    rename_i hexcluded
    split at h
    · rename_i hblank
      cases h
      refine ⟨[], rfl, ?_, by simp, by simp⟩
      rw [constantRowsAt, List.takeWhile_cons_of_neg (by simp [hblank])]
      exact .nil
    rename_i hblank
    have htake : constantRowsAt sheet (r :: rows) = r :: constantRowsAt sheet rows := by
      rw [constantRowsAt, List.takeWhile_cons_of_pos (by simp [hblank]),
        List.filter_cons_of_pos (by simp [hexcluded]), constantRowsAt]
    obtain ⟨_, hcheck, hnext⟩ := except_bind_eq_ok.1 h
    split at hnext
    · cases hnext
    rename_i hident
    obtain ⟨declaration, hread, hmore⟩ := except_bind_eq_ok.1 hnext
    obtain ⟨more, hrest, hdone⟩ := except_bind_eq_ok.1 hmore
    cases hdone
    have hident' : isIdentifier (normalize (sheet.cell r 0)) = true := by
      simpa using hident
    obtain ⟨c, hc, hisOf⟩ := isOf_of_readVariable rfl hident' hread
    obtain ⟨constants, hd, hall, hnodup, hseen⟩ := ih hrest
    have hnew : c.name ∉ constants.map Constant.name := by
      intro hmem
      obtain ⟨other, hother, hname⟩ := List.mem_map.1 hmem
      exact hseen other hother (by rw [hname, hisOf.name]; exact List.mem_cons_self)
    refine ⟨c :: constants, by rw [hc, hd]; rfl, ?_, List.nodup_cons.2 ⟨hnew, hnodup⟩, ?_⟩
    · rw [htake]
      exact .cons hisOf hall
    · intro other hother
      rcases List.mem_cons.1 hother with rfl | hother
      · rw [hisOf.name]
        exact (checkName_eq_ok hcheck).1
      · exact fun hmem => hseen other hother (List.mem_cons_of_mem _ hmem)

/-- The constants of an accepted Variable table are those of its rows, in order and under distinct
names. -/
theorem isOf_of_readVariables {declarations : List VariableDeclaration}
    (h : readVariables sheet = .ok declarations) :
    ∃ constants : List Constant, declarations = constants.map Constant.declaration ∧
      List.Forall₂ (fun r c => c.IsOf sheet r) (constantRows sheet) constants ∧
      (constants.map Constant.name).Nodup := by
  unfold readVariables at h
  split at h
  · obtain ⟨constants, hd, hall, hnodup, -⟩ := isOf_of_readVariablesAt h
    exact ⟨constants, hd, hall, hnodup⟩
  · cases h

end SheetCompiler
