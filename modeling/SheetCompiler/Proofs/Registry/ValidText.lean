import SheetCompiler.Proofs.Number.Rounding
import SheetCompiler.Proofs.Registry.Reload
import SheetCompiler.Proofs.Script.Numeral
import SheetCompiler.Proofs.Text.LowerCase
import SheetCompiler.Workbook.Cell

/-!
# Values of valid texts

A text is checked by one grammar when a table is compiled and converted by another one, which allows
more, when its records are read. What the first one allows the second one reads, for what it says:
an integer numeral for the integer, a truth value for the truth value (`IsNumeral`, `lower`). Numbers
and truth values of a workbook are written so that they are read back.

Main statement: `isValid_converts`.
-/

namespace SheetCompiler

open SheetCompiler.Text SheetCompiler.Number SheetCompiler.Script

/-! ## Integer numerals -/

/-- Decimal digits of any script, at least one. -/
def AreDecimals (ds : List Char) : Prop := ds ≠ [] ∧ ∀ d ∈ ds, isDecimal d = true

/-- A text is an integer numeral, with or without a sign, and the integer that it denotes. -/
inductive IsNumeral : List Char → Int → Prop
  | unsigned {ds : List Char} (h : AreDecimals ds) : IsNumeral ds (valueOfDigits ds)
  | plus {ds : List Char} (h : AreDecimals ds) : IsNumeral ('+' :: ds) (valueOfDigits ds)
  | minus {ds : List Char} (h : AreDecimals ds) : IsNumeral ('-' :: ds) (-valueOfDigits ds)

/-- Whether an integer fits into a count of bits with a sign. -/
def IsWithin (bits : Nat) (i : Int) : Prop := -2 ^ (bits - 1) ≤ i ∧ i < 2 ^ (bits - 1)

/-- Digits have no sign. -/
lemma splitSign_of_decimals {ds : List Char} (h : AreDecimals ds) : splitSign ds = (false, ds) := by
  obtain ⟨d, ds, rfl⟩ := List.exists_cons_of_ne_nil h.1
  have hd := h.2 d List.mem_cons_self
  unfold splitSign
  split
  · rename_i heq
    obtain ⟨rfl, -⟩ := List.cons.inj heq
    exact absurd hd (by decide)
  · rename_i heq
    obtain ⟨rfl, -⟩ := List.cons.inj heq
    exact absurd hd (by decide)
  · rfl

lemma isNumeral_iff {cs : List Char} {i : Int} :
    IsNumeral cs i ↔ matchesInteger cs = true ∧
      i = signed (splitSign cs).1 (valueOfDigits (splitSign cs).2) := by
  rw [matchesInteger_iff]
  constructor
  · intro h
    cases h with
    | unsigned h =>
      rw [splitSign_of_decimals h]
      exact ⟨h, rfl⟩
    | plus h => exact ⟨h, rfl⟩
    | minus h => exact ⟨h, rfl⟩
  · rintro ⟨h, rfl⟩
    rcases splitSign_cases cs with ⟨heq, hpositive⟩ | heq | heq
    · rw [hpositive]
      rw [← heq] at h ⊢
      exact .unsigned h
    · rw [heq] at h ⊢
      exact .plus h
    · rw [heq] at h ⊢
      exact .minus h

lemma IsNumeral.unique {cs : List Char} {i j : Int} (h : IsNumeral cs i) (h' : IsNumeral cs j) :
    i = j :=
  (isNumeral_iff.1 h).2.trans (isNumeral_iff.1 h').2.symm

lemma areDecimals_toDigits (n : Nat) : AreDecimals (Nat.toDigits 10 n) :=
  ⟨Nat.toDigits_ne_nil, fun d hd => isDecimal_of_isDigit ((areDigits_toDigits n).2 d hd)⟩

lemma splitSign_toString (i : Int) :
    splitSign (toString i).toList = (decide (i < 0), Nat.toDigits 10 i.natAbs) := by
  rw [toList_toString_int]
  cases decide (i < 0) with
  | true => rfl
  | false => exact splitSign_of_decimals (areDecimals_toDigits _)

/-- What is written for an integer is a numeral of it. -/
lemma isNumeral_toString (i : Int) : IsNumeral (toString i).toList i := by
  rw [isNumeral_iff, matchesInteger_iff, splitSign_toString, valueOfDigits_toDigits, signed_natAbs]
  exact ⟨areDecimals_toDigits _, rfl⟩

/-! ## Integers of texts -/

variable {text : String} {i : Int} {bits : Nat}

lemma readInteger_of_isNumeral (h : IsNumeral text.toList i)
    (hshort : Primitive.isOverlong text = false) : readInteger text = .ok i := by
  obtain ⟨hmatch, rfl⟩ := isNumeral_iff.1 h
  have hlength : ¬ digitLimit < (splitSign text.toList).2.length := by
    rw [Primitive.isOverlong, hmatch, Bool.true_and, decide_eq_false_iff_not] at hshort
    exact hshort
  rw [readInteger_of_matches hmatch]
  dsimp only
  rw [if_neg hlength]

lemma fits_iff : Primitive.fits bits i = true ↔ IsWithin bits i := by
  have hpow : ((Nat.pow 2 (bits - 1) : Nat) : Int) = 2 ^ (bits - 1) := by
    rw [Nat.pow_eq, Nat.cast_pow, Nat.cast_ofNat]
  unfold Primitive.fits IsWithin
  dsimp only
  rw [hpow, Bool.and_eq_true, decide_eq_true_iff, decide_eq_true_iff]

/-- A text is valid as an integer of a width exactly if it is a numeral of one. -/
lemma isValidInteger_iff (hshort : Primitive.isOverlong text = false) :
    (∃ valid, Primitive.isValidInteger bits text = .ok valid) ∧
      (Primitive.isValidInteger bits text = .ok true ↔
        ∃ i, IsNumeral text.toList i ∧ IsWithin bits i) := by
  unfold Primitive.isValidInteger
  cases hmatch : matchesInteger text.toList with
  | false =>
    rw [if_neg Bool.false_ne_true]
    refine ⟨⟨false, rfl⟩, ⟨nofun, ?_⟩⟩
    rintro ⟨i, hi, -⟩
    rw [(isNumeral_iff.1 hi).1] at hmatch
    cases hmatch
  | true =>
    have hnumeral := isNumeral_iff.2 ⟨hmatch, rfl⟩
    rw [if_pos rfl, readInteger_of_isNumeral hnumeral hshort]
    refine ⟨⟨_, rfl⟩, ⟨fun hvalid => ?_, ?_⟩⟩
    · exact ⟨_, hnumeral, fits_iff.1 (Except.ok.inj hvalid)⟩
    · rintro ⟨i, hi, hwithin⟩
      rw [hi.unique hnumeral] at hwithin
      exact congrArg Except.ok (fits_iff.2 hwithin)

/-! ## Cells of workbooks -/

/-- The width of the integers of a type. -/
def Primitive.width? : Primitive → Option Nat
  | .int => some 32
  | .long => some 64
  | _ => none

/-- A cell of a workbook holds an integer, as such or as a real number without a fraction. An
integer has no more digits than a numeral may have. -/
def CellValue.HoldsInteger (v : CellValue) (i : Int) : Prop :=
  match v with
  | .integer j => j = i ∧ (Nat.toDigits 10 i.natAbs).length ≤ digitLimit
  | .real x => x.IsRepresentable ∧ x.toInt? = some i
  | _ => False

/-- A mantissa and an exponent bound the digits in front of the point. -/
lemma length_magnitude_le {m a b : Nat} {e : Int} (hm : m < 2 ^ a) (he : e ≤ b)
    (hab : a + b ≤ digitLimit) :
    (Nat.toDigits 10 ((Binary64.magnitude m e).1 / (Binary64.magnitude m e).2)).length ≤
      digitLimit := by
  have hten (n : Nat) : 2 ^ n ≤ 10 ^ n := Nat.pow_le_pow_left (by decide) n
  have hexponent : e.toNat ≤ b := by omega
  have hless : (Binary64.magnitude m e).1 / (Binary64.magnitude m e).2 < 10 ^ a * 10 ^ b := by
    unfold Binary64.magnitude scaleRatio
    split
    · calc m / (1 * Nat.pow 2 (-e).toNat) ≤ m := Nat.div_le_self _ _
        _ < 10 ^ a := hm.trans_le (hten a)
        _ ≤ 10 ^ a * 10 ^ b := Nat.le_mul_of_pos_right _ (by positivity)
    · rw [Nat.div_one, neg_neg]
      have hpow : Nat.pow 2 e.toNat ≤ 10 ^ b :=
        (Nat.pow_le_pow_right (by decide) hexponent).trans (hten b)
      exact Nat.mul_lt_mul_of_lt_of_le (hm.trans_le (hten a)) hpow (by positivity)
  rw [← pow_add] at hless
  rw [Nat.length_toDigits_le_iff (by decide) (by decide)]
  exact hless.trans_le (Nat.pow_le_pow_right (by decide) hab)

/-- A real number of 64 bits without a fraction does not have too many digits. -/
lemma length_le_of_toInt? {x : Binary64} (hx : x.IsRepresentable) (h : x.toInt? = some i) :
    (Nat.toDigits 10 i.natAbs).length ≤ digitLimit := by
  cases x with
  | infinite negative => cases h
  | nan => cases h
  | finite negative m e =>
    have hpair : Binary64.IsPair m e := hx
    have hbits : 2 * Binary64.leastNormal = 2 ^ 53 := by decide
    have hmantissa : m < 2 ^ 53 := hbits ▸ hpair.mantissa
    have hgreatest : e ≤ (971 : Nat) := hpair.greatest
    have hmagnitude : i.natAbs = (Binary64.magnitude m e).1 / (Binary64.magnitude m e).2 := by
      unfold Binary64.toInt? at h
      dsimp only at h
      split at h
      · have hi : signed negative
            ((Binary64.magnitude m e).1 / (Binary64.magnitude m e).2) = i := Option.some.inj h
        rw [← hi, natAbs_signed]
      · cases h
    rw [hmagnitude]
    exact length_magnitude_le hmantissa hgreatest (by decide)

/-- A cell that holds an integer reads as it, and not with too many digits. -/
lemma toText_of_holdsInteger {v : CellValue} (h : v.HoldsInteger i) :
    v.toText = toString i ∧ Primitive.isOverlong (toString i) = false := by
  have hshort (hlength : (Nat.toDigits 10 i.natAbs).length ≤ digitLimit) :
      Primitive.isOverlong (toString i) = false := by
    rw [Primitive.isOverlong, splitSign_toString, decide_eq_false (not_lt.2 hlength),
      Bool.and_false]
  cases v with
  | integer j =>
    obtain ⟨rfl, hlength⟩ := h
    exact ⟨rfl, hshort hlength⟩
  | real x =>
    obtain ⟨hx, hinteger⟩ := h
    exact ⟨by rw [CellValue.toText, hinteger], hshort (length_le_of_toInt? hx hinteger)⟩
  | _ => exact h.elim

/-! ## Conversion -/

/-- The values of a primitive type are converted as their texts are read. -/
lemma convertText_name (r : Registry) (p : Primitive) (text : String) :
    r.convertText p.name text =
      ((p.convert text).mapError Failure.numeral).map Registry.ofScalar := by
  rw [Registry.convertText, Primitive.ofName?_name]

/-- A text that is valid for its type is converted, and for what it says: an integer is valid if it
is an integer numeral within the width of its type, whatever the script of its digits, and a truth
value in letters of any case. The integers and truth values that workbooks hold read as texts which
are valid if they are within the width, and which are converted back. -/
theorem isValid_converts (r : Registry) :
    (∀ (p : Primitive) (text : String), p.isValid text = .ok true →
        ∃ v, r.convertText p.name text = .ok v) ∧
      (∀ (p : Primitive) (bits : Nat) (text : String), p.width? = some bits →
        Primitive.isOverlong text = false →
        (∃ valid, p.isValid text = .ok valid) ∧
          (p.isValid text = .ok true ↔ ∃ i, IsNumeral text.toList i ∧ IsWithin bits i) ∧
          ∀ i, IsNumeral text.toList i →
            r.convertText p.name text = .ok (.stored (.integer i))) ∧
      (∀ text : String, (∃ valid, Primitive.bool.isValid text = .ok valid) ∧
          (Primitive.bool.isValid text = .ok true ↔ lower text = "true" ∨ lower text = "false") ∧
          r.convertText Primitive.bool.name text =
            .ok (.stored (.truth (decide (lower text = "true"))))) ∧
      (∀ (v : CellValue) (i : Int), v.HoldsInteger i →
        (Primitive.long.isValid v.toText = .ok true ↔ IsWithin 64 i) ∧
          r.convertText Primitive.long.name v.toText = .ok (.stored (.integer i))) ∧
      ∀ b : Bool, Primitive.bool.isValid (CellValue.truth b).toText = .ok true ∧
        r.convertText Primitive.bool.name (CellValue.truth b).toText =
          .ok (.stored (.truth b)) := by
  have hconvert {p : Primitive} {text : String} {v : Scalar} (h : p.convert text = .ok v) :
      r.convertText p.name text = .ok (Registry.ofScalar v) := by
    rw [convertText_name, h]
    rfl
  have hinteger {p : Primitive} {bits : Nat} {text : String} {i : Int}
      (hp : p.width? = some bits) (hshort : Primitive.isOverlong text = false)
      (hi : IsNumeral text.toList i) :
      r.convertText p.name text = .ok (.stored (.integer i)) := by
    have hread : p.convert text = .ok (.integer i) := by
      cases p <;> cases hp <;>
        rw [Primitive.convert, readInteger_of_isNumeral hi hshort] <;> rfl
    exact hconvert hread
  have htruth (text : String) : r.convertText Primitive.bool.name text =
      .ok (.stored (.truth (isCaselessly "true" text))) := by
    rw [convertText_name]
    rfl
  have htrue (text : String) : isCaselessly "true" text = decide (lower text = "true") :=
    Bool.eq_iff_iff.2 ((lower_eq_iff (by decide)).symm.trans decide_eq_true_iff.symm)
  have hfalse (text : String) : isCaselessly "false" text = decide (lower text = "false") :=
    Bool.eq_iff_iff.2 ((lower_eq_iff (by decide)).symm.trans decide_eq_true_iff.symm)
  refine ⟨fun p text hvalid => ?_, fun p bits text hp hshort => ?_, fun text => ?_,
    fun v i hv => ?_, fun b => ?_⟩
  · obtain ⟨v, hv⟩ := Primitive.convert_of_isValid hvalid
    exact ⟨_, hconvert hv⟩
  · have hwidth : p.isValid text = Primitive.isValidInteger bits text := by
      cases p <;> cases hp <;> rfl
    obtain ⟨htotal, hiff⟩ := isValidInteger_iff hshort
    rw [hwidth]
    exact ⟨htotal, hiff, fun i hi => hinteger hp hshort hi⟩
  · rw [Primitive.isValid, Primitive.isTruth, htrue, hfalse]
    refine ⟨⟨_, rfl⟩, ?_, ?_⟩
    · rw [Except.ok.injEq, Bool.or_eq_true, decide_eq_true_iff, decide_eq_true_iff]
    · rw [← htrue]
      exact htruth text
  · obtain ⟨htext, hshort⟩ := toText_of_holdsInteger hv
    have hnumeral := isNumeral_toString i
    rw [htext]
    refine ⟨(isValidInteger_iff hshort).2.trans ⟨?_, fun hwithin => ⟨i, hnumeral, hwithin⟩⟩,
      hinteger rfl hshort hnumeral⟩
    rintro ⟨j, hj, hwithin⟩
    rwa [← hj.unique hnumeral]
  · cases b with
    | true => exact ⟨rfl, htruth "true"⟩
    | false => exact ⟨rfl, htruth "false"⟩

/-- The least integer of 32 bits, with a digit of another script, is valid. The least real number
that has no integer of 64 bits is not. -/
theorem bounds_convert :
    Primitive.int.isValid "-\u06f2147483648" = .ok true ∧
      (Registry.empty "Resources").convertText "int" "-\u06f2147483648" =
        .ok (.stored (.integer (-2147483648))) ∧
      Primitive.long.isValid (CellValue.real (.finite false Binary64.leastNormal 11)).toText ≠
        .ok true := by
  obtain ⟨-, hwidths, -, hcells, -⟩ := isValid_converts (.empty "Resources")
  have hshort : Primitive.isOverlong "-\u06f2147483648" = false := by decide +kernel
  have hnumeral : IsNumeral "-\u06f2147483648".toList (-2147483648) :=
    isNumeral_iff.2 ⟨by decide +kernel, by decide +kernel⟩
  obtain ⟨-, hvalid, hconverted⟩ := hwidths .int 32 _ rfl hshort
  have hpair : Binary64.IsPair Binary64.leastNormal 11 :=
    ⟨by decide, by decide, by decide, .inl (Nat.le_refl _)⟩
  have hcell := hcells (.real (.finite false Binary64.leastNormal 11)) 9223372036854775808
    ⟨hpair, by decide +kernel⟩
  refine ⟨hvalid.2 ⟨_, hnumeral, by norm_num, by norm_num⟩, hconverted _ hnumeral, fun hlong => ?_⟩
  have hwithin := (hcell.1.1 hlong).2
  norm_num at hwithin

end SheetCompiler
