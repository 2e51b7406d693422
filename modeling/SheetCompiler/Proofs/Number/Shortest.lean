import Mathlib.Data.Nat.Cast.Order.Field
import SheetCompiler.Proofs.Number.Rounding

/-!
# The shortest decimal of a binary number

The decimal that a binary number is written as lies in its rounding interval: seventeen digits are
enough for a grid that is finer than the interval. So the decimal reads back as the number.

Main statements:

* `holds_shortest`: the shortest decimal lies in the rounding interval;
* `ofDecimal_of_holds`: a decimal in the rounding interval of a number is read as this number.
-/

namespace SheetCompiler.Number

variable {num den m : Nat} {e : Int}

/-! ## Digits -/

lemma length_toString (n : Nat) : (toString n).length = (Nat.toDigits 10 n).length := by
  rw [Nat.toString_eq_ofList_toDigits, String.length_ofList]

lemma length_toString_pos (n : Nat) : 0 < (toString n).length := by
  rw [length_toString]
  exact Nat.length_toDigits_pos

lemma lt_pow_length (n : Nat) : n < 10 ^ (toString n).length := by
  have h := Nat.length_toDigits_le_iff (b := 10) (n := n) (by decide) (length_toString_pos n)
  rw [← length_toString] at h
  exact h.1 le_rfl

lemma pow_length_le {n : Nat} (hn : 0 < n) : 10 ^ ((toString n).length - 1) ≤ n := by
  by_contra hlt
  rw [not_le] at hlt
  have hpos := length_toString_pos n
  rcases Nat.eq_zero_or_pos ((toString n).length - 1) with hzero | hlong
  · rw [hzero] at hlt
    omega
  · have h := Nat.length_toDigits_le_iff (b := 10) (n := n) (by decide) hlong
    rw [← length_toString] at h
    have := h.2 hlt
    omega

/-- A positive ratio is not below the power of ten that its digits begin with. -/
lemma pow_decimalExponent_le (hnum : 0 < num) (hden : 0 < den) :
    (10 : ℚ) ^ (decimalExponent num den - 1) ≤ num / den := by
  have hpos : (0 : ℚ) < den := by exact_mod_cast hden
  unfold decimalExponent
  split_ifs with hle
  · have hq : 0 < num / den := Nat.div_pos hle hden
    have hlength := length_toString_pos (num / den)
    have hexponent : (digitCount (num / den) : Int) - 1 =
        (((toString (num / den)).length - 1 : Nat) : Int) := by
      rw [digitCount, if_neg hq.ne']
      omega
    have hpow : ((10 ^ ((toString (num / den)).length - 1) : Nat) : ℚ) ≤ (num / den : Nat) := by
      exact_mod_cast pow_length_le hq
    rw [hexponent, zpow_natCast]
    rw [Nat.cast_pow, Nat.cast_ofNat] at hpow
    exact hpow.trans Nat.cast_div_le
  · have hcount : (den - 1) / num < 10 ^ digitCount ((den - 1) / num) := by
      unfold digitCount
      split_ifs with hzero
      · rw [hzero]
        decide
      · exact lt_pow_length _
    generalize digitCount ((den - 1) / num) = count at hcount ⊢
    have hnat : den ≤ 10 ^ count * num := by
      rw [Nat.div_lt_iff_lt_mul hnum] at hcount
      omega
    have hrat : (den : ℚ) ≤ 10 ^ count * num := by exact_mod_cast hnat
    have hexponent : (1 : Int) - count - 1 = -count := by omega
    rw [hexponent, zpow_neg, zpow_natCast, le_div_iff₀ hpos, inv_mul_le_iff₀ (by positivity)]
    exact hrat

/-! ## Grids -/

/-- The number that a decimal stands for. -/
def Decimal.value (d : Decimal) : ℚ := d.digits * 10 ^ d.exponent

lemma Decimal.value_trim (d : Decimal) (fuel : Nat) : (d.trim fuel).value = d.value := by
  induction fuel generalizing d with
  | zero => rfl
  | succ fuel ih =>
    rw [Decimal.trim]
    split_ifs with h
    · have hdigits : d.digits = d.digits / 10 * 10 := by omega
      rw [ih, Decimal.value, Decimal.value]
      conv_rhs => rw [hdigits]
      rw [zpow_add₀ (by norm_num), zpow_one, Nat.cast_mul, Nat.cast_ofNat]
      ring
    · rfl

lemma Decimal.value_normal (d : Decimal) : d.normal.value = d.value := d.value_trim _

namespace RoundingInterval

variable {i : RoundingInterval} {k : Int} {d : Decimal}

/-- Multiples of the unit and points of the grid are compared as natural numbers, which are the
same multiple of them. -/
lemma exists_scale (hunit : 0 < i.unit.2) (k : Int) :
    ∃ c : ℚ, 0 < c ∧
      (∀ a : Nat, ((a * (i.unit.1 * (scaleRatio 10 1 1 (-k)).2) : Nat) : ℚ) =
        a * ((i.unit.1 : ℚ) / i.unit.2) * c) ∧
      ∀ n : Nat, ((n * (i.unit.2 * (scaleRatio 10 1 1 (-k)).1) : Nat) : ℚ) =
        n * 10 ^ k * c := by
  have hten : 0 < 10 := by decide
  have hgrid := value_scaleRatio hten 1 1 (-k)
  rw [Nat.cast_one, div_one, Nat.cast_ofNat, zpow_neg, one_div, inv_inv] at hgrid
  have hpos : (0 : ℚ) < i.unit.2 := by exact_mod_cast hunit
  have hpos' : (0 : ℚ) < (scaleRatio 10 1 1 (-k)).2 := by
    exact_mod_cast scaleRatio_pos (by decide) one_pos 1 (-k)
  refine ⟨i.unit.2 * (scaleRatio 10 1 1 (-k)).2, by positivity, fun a => ?_, fun n => ?_⟩
  · push_cast
    field_simp
  · rw [← hgrid]
    push_cast
    field_simp

/-- What is checked of a point of the grid is that it lies in the interval. -/
lemma check_iff_holds (hunit : 0 < i.unit.2) (k : Int) (n : Nat) :
    (if i.closed then
        decide (i.low * (i.unit.1 * (scaleRatio 10 1 1 (-k)).2) ≤
            n * (i.unit.2 * (scaleRatio 10 1 1 (-k)).1)) &&
          decide (n * (i.unit.2 * (scaleRatio 10 1 1 (-k)).1) ≤
            i.high * (i.unit.1 * (scaleRatio 10 1 1 (-k)).2))
      else
        decide (i.low * (i.unit.1 * (scaleRatio 10 1 1 (-k)).2) <
            n * (i.unit.2 * (scaleRatio 10 1 1 (-k)).1)) &&
          decide (n * (i.unit.2 * (scaleRatio 10 1 1 (-k)).1) <
            i.high * (i.unit.1 * (scaleRatio 10 1 1 (-k)).2))) = true ↔
      i.Holds (n * 10 ^ k) := by
  obtain ⟨c, hc, hunits, hpoints⟩ := exists_scale hunit k
  have hle (a b : Nat) : a ≤ b ↔ (a : ℚ) ≤ b := Nat.cast_le.symm
  have hlt (a b : Nat) : a < b ↔ (a : ℚ) < b := Nat.cast_lt.symm
  unfold Holds
  dsimp only
  split_ifs
  · rw [Bool.and_eq_true, decide_eq_true_iff, decide_eq_true_iff, hle, hle, hunits,
      hpoints, hunits, mul_le_mul_iff_left₀ hc, mul_le_mul_iff_left₀ hc]
  · rw [Bool.and_eq_true, decide_eq_true_iff, decide_eq_true_iff, hlt, hlt, hunits,
      hpoints, hunits, mul_lt_mul_iff_left₀ hc, mul_lt_mul_iff_left₀ hc]

/-- What is picked lies in the interval. -/
lemma holds_of_pick? (hunit : 0 < i.unit.2) (h : i.pick? k = some d) : i.Holds d.value := by
  have hcheck := check_iff_holds hunit k
  unfold pick? at h
  dsimp only at h
  split at h
  · rename_i hbelow habove
    split_ifs at h
    · cases h
      exact (hcheck _).1 hbelow
    · cases h
      exact (hcheck _).1 habove
  · rename_i hbelow _
    cases h
    exact (hcheck _).1 hbelow
  · rename_i _ habove
    cases h
    exact (hcheck _).1 habove
  · cases h

/-- On a grid that is finer than the interval a point is picked. -/
lemma isSome_pick? (hunit : 0 < i.unit.2) (hlow : i.low < i.value) (hhigh : i.value < i.high)
    (hfine : (10 : ℚ) ^ k < (i.high - i.low) * ((i.unit.1 : ℚ) / i.unit.2))
    (hpos : 0 < i.unit.1) : (i.pick? k).isSome = true := by
  have hcheck := check_iff_holds hunit k
  obtain ⟨c, hc, hunits, hpoints⟩ := exists_scale hunit k
  have hu : (0 : ℚ) < (i.unit.1 : ℚ) / i.unit.2 :=
    div_pos (by exact_mod_cast hpos) (by exact_mod_cast hunit)
  have hright : 0 < i.unit.2 * (scaleRatio 10 1 1 (-k)).1 := by
    have h := hpoints 1
    rw [one_mul, Nat.cast_one, one_mul] at h
    have h' : (0 : ℚ) < ((i.unit.2 * (scaleRatio 10 1 1 (-k)).1 : Nat) : ℚ) := by
      rw [h]
      positivity
    exact_mod_cast h'
  unfold pick?
  dsimp only
  -- the value lies between the two points
  have hdiv := Nat.div_add_mod (i.value * (i.unit.1 * (scaleRatio 10 1 1 (-k)).2))
    (i.unit.2 * (scaleRatio 10 1 1 (-k)).1)
  have hmod := Nat.mod_lt (i.value * (i.unit.1 * (scaleRatio 10 1 1 (-k)).2)) hright
  rw [mul_comm] at hdiv
  generalize i.value * (i.unit.1 * (scaleRatio 10 1 1 (-k)).2) /
    (i.unit.2 * (scaleRatio 10 1 1 (-k)).1) = below at *
  have hbelow : below * (10 : ℚ) ^ k ≤ i.value * ((i.unit.1 : ℚ) / i.unit.2) := by
    rw [← mul_le_mul_iff_left₀ hc, ← hpoints, ← hunits, Nat.cast_le]
    omega
  have habove : i.value * ((i.unit.1 : ℚ) / i.unit.2) < (below + 1 : Nat) * (10 : ℚ) ^ k := by
    rw [← mul_lt_mul_iff_left₀ hc, ← hpoints, ← hunits, Nat.cast_lt, add_mul, one_mul]
    omega
  have hone : i.Holds (below * 10 ^ k) ∨ i.Holds ((below + 1 : Nat) * 10 ^ k) := by
    have hlow' : (i.low : ℚ) < i.value := by exact_mod_cast hlow
    have hhigh' : (i.value : ℚ) < i.high := by exact_mod_cast hhigh
    have hl := mul_lt_mul_of_pos_right hlow' hu
    have hh := mul_lt_mul_of_pos_right hhigh' hu
    rw [sub_mul] at hfine
    rw [Nat.cast_add, Nat.cast_one, add_mul, one_mul] at habove ⊢
    rcases lt_or_ge (i.low * ((i.unit.1 : ℚ) / i.unit.2)) (below * 10 ^ k) with hin | hout
    · refine .inl ?_
      unfold Holds
      dsimp only
      have hbefore : below * (10 : ℚ) ^ k < i.high * ((i.unit.1 : ℚ) / i.unit.2) :=
        hbelow.trans_lt hh
      split_ifs
      · exact ⟨hin.le, hbefore.le⟩
      · exact ⟨hin, hbefore⟩
    · refine .inr ?_
      unfold Holds
      dsimp only
      have hbehind := hl.trans habove
      have hbefore : below * (10 : ℚ) ^ k + 10 ^ k < i.high * ((i.unit.1 : ℚ) / i.unit.2) := by
        linarith only [hout, hfine]
      split_ifs
      · exact ⟨hbehind.le, hbefore.le⟩
      · exact ⟨hbehind, hbefore⟩
  rw [← hcheck, ← hcheck] at hone
  split
  · split_ifs <;> rfl
  · rfl
  · rfl
  · rename_i hnot hnot'
    rcases hone with h | h
    · rw [h] at hnot
      cases hnot
    · rw [h] at hnot'
      cases hnot'

lemma exists_pick?_of_search {fuel : Nat} (h : i.search k fuel = some d) :
    ∃ k', i.pick? k' = some d := by
  induction fuel generalizing k with
  | zero => cases h
  | succ fuel ih =>
    rw [search] at h
    split at h
    · rename_i hpick
      cases h
      exact ⟨k, hpick⟩
    · exact ih h

/-- A grid is found if there is one among those that are tried. -/
lemma isSome_search {fuel n : Nat} (hn : n < fuel) (h : (i.pick? (k - n)).isSome = true) :
    (i.search k fuel).isSome = true := by
  induction fuel generalizing k n with
  | zero => omega
  | succ fuel ih =>
    rw [search]
    split
    · rfl
    · rename_i hnone
      cases n with
      | zero =>
        rw [Nat.cast_zero, sub_zero, hnone] at h
        cases h
      | succ n =>
        refine ih (n := n) (by omega) ?_
        have hk : k - 1 - n = k - (n + 1 : Nat) := by omega
        rwa [hk]

end RoundingInterval

/-! ## Reading back -/

open Binary64

/-- Seventeen digits make a grid that is finer than the interval. -/
lemma pow_lt_width (hpair : IsPair m e) (hm : 0 < m) {top : Int}
    (htop : (10 : ℚ) ^ (top - 1) ≤ m * 2 ^ e) :
    (10 : ℚ) ^ (top - 1 - 16) < ((RoundingInterval.of m e).high - (RoundingInterval.of m e).low) *
      (((RoundingInterval.of m e).unit.1 : ℚ) / (RoundingInterval.of m e).unit.2) := by
  have htwo : (0 : ℚ) < 2 ^ e := by positivity
  have hunit : (2 : ℚ) ^ (e - 2) = 2 ^ e / 4 := by
    rw [zpow_sub₀ two_ne_zero]
    norm_num
  have hten : (10 : ℚ) ^ (top - 1 - 16) = 10 ^ (top - 1) / 10 ^ (16 : Int) := by
    rw [zpow_sub₀ (by norm_num)]
  have hless : (m : ℚ) < 2 * leastNormal := by exact_mod_cast hpair.mantissa
  rw [RoundingInterval.value_unit, RoundingInterval.low_of hm, RoundingInterval.high_of, hunit,
    hten, div_lt_iff₀ (by positivity)]
  refine htop.trans_lt ?_
  rw [leastNormal] at hless
  split_ifs with h
  · -- the numbers below the least mantissa lie twice as close
    rw [h.1, leastNormal]
    norm_num
    linarith
  · have hwidth : (4 * ((m : ℚ) + 1 / 2) - 4 * (m - 1 / 2)) * (2 ^ e / 4) = 2 ^ e := by ring
    have hproduct := mul_lt_mul_of_pos_right hless htwo
    rw [hwidth]
    norm_num at hproduct ⊢
    linarith

/-- The shortest decimal of a number lies in its rounding interval. -/
theorem holds_shortest (hpair : IsPair m e) (hm : 0 < m) :
    (RoundingInterval.of m e).Holds (shortest m e).value := by
  have hunit : 0 < (RoundingInterval.of m e).unit.2 := scaleRatio_pos two_pos one_pos 1 _
  have hunit' : 0 < (RoundingInterval.of m e).unit.1 := by
    have h := RoundingInterval.value_unit m e
    have hpow : (0 : ℚ) < 2 ^ (e - 2) := by positivity
    rw [← h] at hpow
    by_contra hzero
    rw [Nat.pos_iff_ne_zero, not_not] at hzero
    rw [hzero, Nat.cast_zero, zero_div] at hpow
    exact lt_irrefl _ hpow
  have hmagnitude := value_scaleRatio two_pos m 1 (-e)
  rw [Nat.cast_one, div_one, Nat.cast_ofNat, zpow_neg, div_inv_eq_mul] at hmagnitude
  have hden : 0 < (magnitude m e).2 := scaleRatio_pos two_pos one_pos m _
  have hnum : 0 < (magnitude m e).1 := by
    have hpos : (0 : ℚ) < m * 2 ^ e := mul_pos (by exact_mod_cast hm) (by positivity)
    rw [← hmagnitude] at hpos
    by_contra hzero
    rw [Nat.pos_iff_ne_zero, not_not] at hzero
    rw [magnitude] at hzero
    rw [hzero, Nat.cast_zero, zero_div] at hpos
    exact lt_irrefl _ hpos
  have htop := pow_decimalExponent_le hnum hden
  rw [magnitude] at htop
  rw [hmagnitude] at htop
  have hfound : ((RoundingInterval.of m e).search
      (decimalExponent (magnitude m e).1 (magnitude m e).2 - 1) 17).isSome = true := by
    refine RoundingInterval.isSome_search (n := 16) (by decide) ?_
    refine RoundingInterval.isSome_pick? hunit ?_ ?_ (pow_lt_width hpair hm htop) hunit'
    · unfold RoundingInterval.of
      dsimp only
      split_ifs <;> omega
    · unfold RoundingInterval.of
      dsimp only
      omega
  obtain ⟨d, hd⟩ := Option.isSome_iff_exists.1 hfound
  obtain ⟨k, hpick⟩ := RoundingInterval.exists_pick?_of_search hd
  have hshortest : shortest m e = d.normal := by
    rw [shortest, if_neg hm.ne']
    dsimp only
    rw [hd]
  rw [hshortest, Decimal.value_normal]
  exact RoundingInterval.holds_of_pick? hunit hpick

lemma shortest_zero (e : Int) : shortest 0 e = ⟨0, 0⟩ := if_pos rfl

lemma digits_shortest_pos (hpair : IsPair m e) (hm : 0 < m) : 0 < (shortest m e).digits := by
  have hlow := (roundsTo_of_holds hm (holds_shortest hpair hm)).low
  have hone : (1 : ℚ) ≤ m := by exact_mod_cast hm
  by_contra hzero
  rw [Nat.pos_iff_ne_zero, not_not] at hzero
  rw [Decimal.value, hzero, Nat.cast_zero, zero_mul, zero_div] at hlow
  linarith

/-- What a decimal is read as when neither its size nor its digits decide it. -/
lemma ofDecimal_eq_ofRatio (negative : Bool) {digits : Nat} {exponent : Int} (hdigits : 0 < digits)
    (hgreat : ((toString digits).length : Int) + exponent ≤ 310)
    (hleast : -330 ≤ ((toString digits).length : Int) + exponent) :
    ∃ num den : Nat, 0 < num ∧ 0 < den ∧ (num : ℚ) / den = digits * 10 ^ exponent ∧
      ofDecimal negative digits exponent = ofRatio negative num den := by
  have hpow (n : Nat) : ((Nat.pow 10 n : Nat) : ℚ) = 10 ^ (n : Int) := by
    rw [Nat.pow_eq, Nat.cast_pow, zpow_natCast, Nat.cast_ofNat]
  have hten (n : Nat) : 0 < Nat.pow 10 n := Nat.pow_pos (by decide)
  unfold ofDecimal
  dsimp only
  rw [if_neg hdigits.ne', if_neg (by omega), if_neg (by omega)]
  split_ifs with hexponent
  · refine ⟨_, 1, Nat.mul_pos hdigits (hten _), one_pos, ?_, rfl⟩
    rw [Nat.cast_mul, hpow, Int.toNat_of_nonneg hexponent, Nat.cast_one, div_one]
  · refine ⟨digits, _, hdigits, hten _, ?_, rfl⟩
    rw [hpow, Int.toNat_of_nonneg (by omega), zpow_neg, div_inv_eq_mul]

/-- A decimal in the rounding interval of a number is read as this number. -/
theorem ofDecimal_of_holds (negative : Bool) (hpair : IsPair m e) (hm : 0 < m) {digits : Nat}
    {exponent : Int} (h : (RoundingInterval.of m e).Holds (digits * 10 ^ exponent)) :
    ofDecimal negative digits exponent = .finite negative m e := by
  have hrounds := roundsTo_of_holds hm h
  have htwo : (0 : ℚ) < 2 ^ e := by positivity
  have hone : (1 : ℚ) ≤ m := by exact_mod_cast hm
  have hlow : (2 : ℚ) ^ (-1075 : Int) ≤ digits * 10 ^ exponent := by
    have hleast : (2 : ℚ) ^ (-1074 : Int) ≤ 2 ^ e := zpow_le_zpow_right₀ one_le_two hpair.least
    have hhalf : (2 : ℚ) ^ (-1074 : Int) = 2 * 2 ^ (-1075 : Int) := by
      rw [← zpow_one_add₀ two_ne_zero]
      norm_num
    have hbound := hrounds.low
    rw [le_div_iff₀ htwo] at hbound
    nlinarith
  have hhigh : (digits : ℚ) * 10 ^ exponent ≤ 2 ^ (1025 : Int) := by
    have hgreatest : (2 : ℚ) ^ e ≤ 2 ^ (971 : Int) :=
      zpow_le_zpow_right₀ one_le_two hpair.greatest
    have hhalf : (m : ℚ) + 1 / 2 ≤ 2 ^ (54 : Int) := by
      have hless : m < 9007199254740992 := hpair.mantissa
      have hless' : (m : ℚ) < 9007199254740992 := by exact_mod_cast hless
      norm_num
      linarith only [hless', hone]
    have hbound := hrounds.high
    rw [div_le_iff₀ htwo] at hbound
    have hsum : (1025 : Int) = 54 + 971 := by decide
    rw [hsum, zpow_add₀ two_ne_zero]
    calc (digits : ℚ) * 10 ^ exponent ≤ (m + 1 / 2) * 2 ^ e := hbound
      _ ≤ 2 ^ (54 : Int) * 2 ^ e := mul_le_mul_of_nonneg_right hhalf htwo.le
      _ ≤ 2 ^ (54 : Int) * 2 ^ (971 : Int) := mul_le_mul_of_nonneg_left hgreatest (by positivity)
  have hdigits : 0 < digits := by
    by_contra hzero
    rw [Nat.pos_iff_ne_zero, not_not] at hzero
    rw [hzero, Nat.cast_zero, zero_mul] at hlow
    have : (0 : ℚ) < 2 ^ (-1075 : Int) := by positivity
    linarith
  have hten : (0 : ℚ) < 10 ^ exponent := by positivity
  -- the length of the digits is within the bounds of what is rounded
  have hgreat : ((toString digits).length : Int) + exponent ≤ 310 := by
    have hlength : ((10 ^ ((toString digits).length - 1) : Nat) : ℚ) ≤ digits := by
      exact_mod_cast pow_length_le hdigits
    have hpow : (10 : ℚ) ^ (((toString digits).length : Int) - 1 + exponent) ≤
        digits * 10 ^ exponent := by
      have hcast : ((toString digits).length : Int) - 1 =
          (((toString digits).length - 1 : Nat) : Int) := by
        have := length_toString_pos digits
        omega
      rw [zpow_add₀ (by norm_num), hcast, zpow_natCast]
      rw [Nat.cast_pow, Nat.cast_ofNat] at hlength
      exact mul_le_mul_of_nonneg_right hlength hten.le
    have hbound : (2 : ℚ) ^ (1025 : Int) < 10 ^ (310 : Int) := by
      have hleft : (1025 : Int) = 205 * 5 := by decide
      have hright : (310 : Int) = 62 * 5 := by decide
      rw [hleft, hright, zpow_mul, zpow_mul]
      exact pow_lt_pow_left₀ (by norm_num) (by positivity) (by decide)
    have hless := (zpow_lt_zpow_iff_right₀ (by norm_num)).1 ((hpow.trans hhigh).trans_lt hbound)
    omega
  have hleast : -330 ≤ ((toString digits).length : Int) + exponent := by
    have hlength : (digits : ℚ) < ((10 ^ (toString digits).length : Nat) : ℚ) := by
      exact_mod_cast lt_pow_length digits
    have hpow : digits * (10 : ℚ) ^ exponent <
        10 ^ (((toString digits).length : Int) + exponent) := by
      rw [zpow_add₀ (by norm_num), zpow_natCast]
      rw [Nat.cast_pow, Nat.cast_ofNat] at hlength
      exact mul_lt_mul_of_pos_right hlength hten
    have hbound : (10 : ℚ) ^ (-330 : Int) < 2 ^ (-1075 : Int) := by
      have hleft : (-330 : Int) = -66 * 5 := by decide
      have hright : (-1075 : Int) = -215 * 5 := by decide
      rw [hleft, hright, zpow_mul, zpow_mul]
      exact pow_lt_pow_left₀ (by norm_num) (by positivity) (by decide)
    have hless := (zpow_lt_zpow_iff_right₀ (by norm_num)).1 (hbound.trans_le (hlow.trans hpow.le))
    omega
  obtain ⟨num, den, hnum, hden, hvalue, heq⟩ :=
    ofDecimal_eq_ofRatio negative hdigits hgreat hleast
  rw [heq]
  refine ofRatio_of_holds negative hpair hm hnum hden ?_
  rwa [hvalue]

end SheetCompiler.Number
