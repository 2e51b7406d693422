import Mathlib.Algebra.Order.Archimedean.Basic
import Mathlib.Algebra.Order.Field.Power
import Mathlib.Tactic.FieldSimp
import Mathlib.Tactic.Linarith
import Mathlib.Tactic.NormNum
import Mathlib.Tactic.Positivity
import Mathlib.Tactic.Ring
import SheetCompiler.Number.Decimal

/-!
# Rounding to binary numbers

A binary number is the rounded value of every ratio in its rounding interval. All that is said here
of ratios and powers is said of rational numbers.

Main statements:

* `ofRatio_of_holds`: a ratio in the rounding interval of a number rounds to this number;
* `isRepresentable_ofRatio`: what a ratio rounds to is representable.
-/

namespace SheetCompiler.Number

variable {base num den m : Nat} {e : Int}

/-! ## Ratios -/

lemma scaleRatio_pos (hbase : 0 < base) (hden : 0 < den) (num : Nat) (e : Int) :
    0 < (scaleRatio base num den e).2 := by
  unfold scaleRatio
  split_ifs
  · exact Nat.mul_pos hden (Nat.pow_pos hbase)
  · exact hden

/-- Scaling divides by the power. -/
lemma value_scaleRatio (hbase : 0 < base) (num den : Nat) (e : Int) :
    ((scaleRatio base num den e).1 : ℚ) / (scaleRatio base num den e).2 =
      num / den / (base : ℚ) ^ e := by
  have hpow (n : Nat) : ((Nat.pow base n : Nat) : ℚ) = (base : ℚ) ^ (n : Int) := by
    rw [Nat.pow_eq, Nat.cast_pow, zpow_natCast]
  unfold scaleRatio
  split_ifs with he
  · rw [Nat.cast_mul, hpow, Int.toNat_of_nonneg he, div_div]
  · have hneg : ((-e).toNat : Int) = -e := Int.toNat_of_nonneg (by omega)
    rw [Nat.cast_mul, hpow, hneg, zpow_neg]
    dsimp only
    field_simp

/-- A quotient is below a number if the ratio is. -/
lemma div_lt_iff_value (hden : 0 < den) {k : Nat} : num / den < k ↔ (num : ℚ) / den < k := by
  have hpos : (0 : ℚ) < den := by exact_mod_cast hden
  rw [Nat.div_lt_iff_lt_mul hden, div_lt_iff₀ hpos]
  exact_mod_cast Iff.rfl

lemma le_div_iff_value (hden : 0 < den) {k : Nat} : k ≤ num / den ↔ (k : ℚ) ≤ num / den := by
  rw [← not_lt, div_lt_iff_value hden, not_lt]

/-- The rounded quotient is next to the quotient. -/
lemma roundQuotient_bounds (num den : Nat) :
    num / den ≤ roundQuotient num den ∧ roundQuotient num den ≤ num / den + 1 := by
  unfold roundQuotient
  dsimp only
  split_ifs <;> omega

/-- The rounded quotient is the natural number within a half, and of two of them the even one. -/
lemma roundQuotient_eq (hden : 0 < den) (hlow : (m : ℚ) - 1 / 2 ≤ num / den)
    (hhigh : (num : ℚ) / den ≤ m + 1 / 2)
    (htie : m % 2 = 0 ∨ (m : ℚ) - 1 / 2 < num / den ∧ (num : ℚ) / den < m + 1 / 2) :
    roundQuotient num den = m := by
  have hpos : (0 : ℚ) < den := by exact_mod_cast hden
  -- the bounds as statements about natural numbers
  have hlow' : 2 * m * den ≤ 2 * num + den := by
    rw [le_div_iff₀ hpos] at hlow
    have h : (2 * m * den : ℚ) ≤ 2 * num + den := by linarith
    exact_mod_cast h
  have hhigh' : 2 * num ≤ (2 * m + 1) * den := by
    rw [div_le_iff₀ hpos] at hhigh
    have h : (2 * num : ℚ) ≤ (2 * m + 1) * den := by linarith
    exact_mod_cast h
  have htie' : m % 2 = 0 ∨ 2 * m * den < 2 * num + den ∧ 2 * num < (2 * m + 1) * den := by
    refine htie.imp id fun h => ?_
    rw [lt_div_iff₀ hpos, div_lt_iff₀ hpos] at h
    have hl : (2 * m * den : ℚ) < 2 * num + den := by linarith [h.1]
    have hh : (2 * num : ℚ) < (2 * m + 1) * den := by linarith [h.2]
    exact ⟨by exact_mod_cast hl, by exact_mod_cast hh⟩
  have hsplit : den * (num / den) + num % den = num := Nat.div_add_mod num den
  have hrest : num % den < den := Nat.mod_lt num hden
  have hm : m ≤ num / den + 1 := by
    have h : 2 * m * den < (2 * (num / den) + 3) * den := by
      rw [add_mul, mul_assoc 2 (num / den), mul_comm (num / den)]
      omega
    have := Nat.lt_of_mul_lt_mul_right h
    omega
  have hq : num / den ≤ m := by
    have h : 2 * (num / den) * den ≤ (2 * m + 1) * den := by
      rw [mul_assoc, mul_comm (num / den)]
      omega
    have := Nat.le_of_mul_le_mul_right h hden
    omega
  unfold roundQuotient
  dsimp only
  generalize num / den = q at *
  generalize num % den = r at *
  rcases Nat.lt_or_ge q m with hlt | hge
  · -- the number is the upper neighbour
    obtain rfl : m = q + 1 := by omega
    have hexpand : 2 * (q + 1) * den = 2 * (den * q) + 2 * den := by ring
    have hexpand' : (2 * (q + 1) + 1) * den = 2 * (den * q) + 3 * den := by ring
    rw [hexpand] at hlow' htie'
    rw [hexpand'] at htie'
    rw [if_pos]
    omega
  · obtain rfl : m = q := by omega
    have hexpand : 2 * m * den = 2 * (den * m) := by ring
    have hexpand' : (2 * m + 1) * den = 2 * (den * m) + den := by ring
    rw [hexpand'] at hhigh' htie'
    rw [hexpand] at htie'
    rw [if_neg]
    omega

/-! ## Exponents -/

namespace Binary64

lemma two_pow_52 : (2 : ℚ) ^ (52 : Int) = leastNormal := by
  rw [leastNormal]
  norm_num

/-- The exponent is that of the mantissa of 53 bits, unless this is less than the least one. -/
lemma exponentOf_eq (hnum : 0 < num) (hden : 0 < den) (hlow : (2 : ℚ) ^ (52 + e) ≤ num / den)
    (hhigh : (num : ℚ) / den < 2 ^ (53 + e)) : exponentOf num den = max e leastExponent := by
  have hpos : (0 : ℚ) < den := by exact_mod_cast hden
  -- the logarithms enclose the ratio
  have hn : (2 : ℚ) ^ (num.log2 : Int) ≤ num ∧ (num : ℚ) < 2 ^ (num.log2 + 1 : Int) := by
    have h := Nat.log2_self_le hnum.ne'
    have h' := Nat.lt_log2_self (n := num)
    exact ⟨by exact_mod_cast h, by exact_mod_cast h'⟩
  have hd : (2 : ℚ) ^ (den.log2 : Int) ≤ den ∧ (den : ℚ) < 2 ^ (den.log2 + 1 : Int) := by
    have h := Nat.log2_self_le hden.ne'
    have h' := Nat.lt_log2_self (n := den)
    exact ⟨by exact_mod_cast h, by exact_mod_cast h'⟩
  have hbelow : (2 : ℚ) ^ ((num.log2 : Int) - (den.log2 + 1)) < num / den := by
    rw [zpow_sub₀ two_ne_zero]
    exact div_lt_div₀' hn.1 hd.2 (by positivity) hpos
  have habove : (num : ℚ) / den < 2 ^ ((num.log2 + 1 : Int) - den.log2) := by
    rw [zpow_sub₀ two_ne_zero]
    exact div_lt_div₀ hn.2 hd.1 (by positivity) (by positivity)
  have hguess : e ≤ (num.log2 : Int) - den.log2 - 52 ∧
      (num.log2 : Int) - den.log2 - 52 ≤ e + 1 := by
    have h₁ := (zpow_lt_zpow_iff_right₀ (one_lt_two : (1 : ℚ) < 2)).1 (hlow.trans_lt habove)
    have h₂ := (zpow_lt_zpow_iff_right₀ (one_lt_two : (1 : ℚ) < 2)).1 (hbelow.trans hhigh)
    omega
  unfold exponentOf
  dsimp only
  generalize (num.log2 : Int) - den.log2 - 52 = guess at hguess ⊢
  have hscaled : (scaleRatio 2 num den guess).1 / (scaleRatio 2 num den guess).2 < leastNormal ↔
      guess ≠ e := by
    have htwo : (0 : ℚ) < 2 ^ guess := by positivity
    rw [div_lt_iff_value (scaleRatio_pos two_pos hden num guess),
      value_scaleRatio two_pos num den guess, Nat.cast_ofNat, div_lt_iff₀ htwo, ← two_pow_52,
      ← zpow_add₀ two_ne_zero]
    constructor
    · rintro h rfl
      exact absurd h hlow.not_gt
    · intro hne
      have hnext : 52 + guess = 53 + e := by omega
      rw [hnext]
      exact hhigh
  congr 1
  split_ifs with h
  · have := hscaled.1 h
    omega
  · exact not_not.1 fun hne => h (hscaled.2 hne)

/-- Every positive ratio has a mantissa of 53 bits at some exponent. -/
lemma exists_exponent (hnum : 0 < num) (hden : 0 < den) :
    ∃ e : Int, (2 : ℚ) ^ (52 + e) ≤ num / den ∧ (num : ℚ) / den < 2 ^ (53 + e) := by
  have hpos : (0 : ℚ) < num / den := div_pos (by exact_mod_cast hnum) (by exact_mod_cast hden)
  obtain ⟨n, hlow, hhigh⟩ := exists_mem_Ico_zpow hpos (one_lt_two : (1 : ℚ) < 2)
  refine ⟨n - 52, ?_, ?_⟩
  · rwa [add_sub_cancel]
  · have hn : 53 + (n - 52) = n + 1 := by omega
    rwa [hn]

/-! ## Representable numbers -/

/-- The mantissas and exponents of finite numbers. -/
structure IsPair (m : Nat) (e : Int) : Prop where
  mantissa : m < 2 * leastNormal
  least : leastExponent ≤ e
  greatest : e ≤ greatestExponent
  normal : leastNormal ≤ m ∨ e = leastExponent

/-- Whether a number is one that 64 bits can represent. -/
def IsRepresentable : Binary64 → Prop
  | .finite _ m e => IsPair m e
  | .infinite _ => True
  | .nan => True

lemma isRepresentable_zero (negative : Bool) : (zero negative).IsRepresentable :=
  ⟨by decide, by decide, by decide, .inr rfl⟩

/-- A positive ratio is rounded at its exponent, unless rounding carries. -/
lemma ofRatio_of_pos (negative : Bool) (hnum : 0 < num) :
    ofRatio negative num den =
      let scaled := scaleRatio 2 num den (exponentOf num den)
      let carried :=
        if roundQuotient scaled.1 scaled.2 = 2 * leastNormal then
          (leastNormal, exponentOf num den + 1)
        else (roundQuotient scaled.1 scaled.2, exponentOf num den)
      if carried.2 > greatestExponent then .infinite negative
      else .finite negative carried.1 carried.2 := by
  rw [ofRatio, if_neg hnum.ne']

/-- What a ratio rounds to is representable. -/
theorem isRepresentable_ofRatio (negative : Bool) (num : Nat) (hden : 0 < den) :
    (ofRatio negative num den).IsRepresentable := by
  rcases Nat.eq_zero_or_pos num with rfl | hnum
  · exact isRepresentable_zero negative
  obtain ⟨e, hlow, hhigh⟩ := exists_exponent hnum hden
  rw [ofRatio_of_pos negative hnum, exponentOf_eq hnum hden hlow hhigh]
  dsimp only
  have hscaled : 0 < (scaleRatio 2 num den (max e leastExponent)).2 :=
    scaleRatio_pos two_pos hden num _
  have hvalue := value_scaleRatio two_pos num den (max e leastExponent)
  rw [Nat.cast_ofNat] at hvalue
  generalize scaleRatio 2 num den (max e leastExponent) = scaled at *
  obtain ⟨hfloor, hceil⟩ := roundQuotient_bounds scaled.1 scaled.2
  have hbelow : scaled.1 / scaled.2 < 2 * leastNormal := by
    have htwo : (0 : ℚ) < 2 ^ max e leastExponent := by positivity
    rw [div_lt_iff_value hscaled, hvalue, div_lt_iff₀ htwo, Nat.cast_mul, ← two_pow_52,
      Nat.cast_ofNat, ← zpow_one_add₀ two_ne_zero, ← zpow_add₀ two_ne_zero]
    refine hhigh.trans_le (zpow_le_zpow_right₀ one_le_two ?_)
    omega
  have habove (h : leastExponent < e) : leastNormal ≤ scaled.1 / scaled.2 := by
    have hmax : max e leastExponent = e := max_eq_left h.le
    have htwo : (0 : ℚ) < 2 ^ e := by positivity
    rwa [le_div_iff_value hscaled, hvalue, hmax, le_div_iff₀ htwo, ← two_pow_52,
      ← zpow_add₀ two_ne_zero]
  have hleast : leastExponent ≤ max e leastExponent := le_max_right _ _
  split_ifs with hcarry hgreat hgreat
  · trivial
  · have hleast' : leastExponent ≤ max e leastExponent + 1 := by omega
    have hmantissa : leastNormal < 2 * leastNormal := by decide
    exact ⟨hmantissa, hleast', not_lt.1 hgreat, .inl le_rfl⟩
  · trivial
  · refine ⟨by dsimp only; omega, hleast, not_lt.1 hgreat, ?_⟩
    rcases lt_or_ge leastExponent e with hlt | hge
    · exact .inl ((habove hlt).trans hfloor)
    · exact .inr (max_eq_right hge)

/-- What a decimal is read as is representable. -/
theorem isRepresentable_ofDecimal (negative : Bool) (digits : Nat) (exponent : Int) :
    (ofDecimal negative digits exponent).IsRepresentable := by
  unfold ofDecimal
  dsimp only
  split_ifs
  · exact isRepresentable_zero negative
  · trivial
  · exact isRepresentable_zero negative
  · exact isRepresentable_ofRatio negative _ one_pos
  · exact isRepresentable_ofRatio negative _ (Nat.pow_pos (by decide))

end Binary64

/-! ## Rounding intervals -/

/-- Whether a rational number lies in an interval. -/
def RoundingInterval.Holds (i : RoundingInterval) (v : ℚ) : Prop :=
  let unit : ℚ := i.unit.1 / i.unit.2
  if i.closed then i.low * unit ≤ v ∧ v ≤ i.high * unit
  else i.low * unit < v ∧ v < i.high * unit

/-- Below a power of two the numbers lie twice as close. -/
lemma RoundingInterval.low_of (hm : 0 < m) : ((RoundingInterval.of m e).low : ℚ) = 4 * (m -
    if m = Binary64.leastNormal ∧ Binary64.leastExponent < e then 1 / 4 else 1 / 2) := by
  unfold RoundingInterval.of
  dsimp only
  split_ifs
  · rw [Nat.cast_sub (by omega), Nat.cast_mul]
    norm_num
    ring
  · rw [Nat.cast_sub (by omega), Nat.cast_mul]
    norm_num
    ring

lemma RoundingInterval.high_of (m : Nat) (e : Int) :
    ((RoundingInterval.of m e).high : ℚ) = 4 * (m + 1 / 2) := by
  unfold RoundingInterval.of
  push_cast
  ring

/-- The unit of an interval is a quarter of the distance to the next number. -/
lemma RoundingInterval.value_unit (m : Nat) (e : Int) :
    ((RoundingInterval.of m e).unit.1 : ℚ) / (RoundingInterval.of m e).unit.2 = 2 ^ (e - 2) := by
  have h := value_scaleRatio two_pos 1 1 (-(e - 2))
  rw [Nat.cast_one, div_one, Nat.cast_ofNat, zpow_neg, one_div, inv_inv] at h
  exact h

namespace Binary64

/-- Where a ratio may lie that rounds to a number, in multiples of the distance to the next number:
within a half of the mantissa, strictly if the mantissa is odd, and within a quarter where the
numbers below lie twice as close. -/
structure RoundsTo (m : Nat) (e : Int) (v : ℚ) : Prop where
  low : (m : ℚ) - 1 / 2 ≤ v / 2 ^ e
  high : v / 2 ^ e ≤ m + 1 / 2
  tie : m % 2 = 0 ∨ (m : ℚ) - 1 / 2 < v / 2 ^ e ∧ v / 2 ^ e < m + 1 / 2
  quarter : m = leastNormal → leastExponent < e → (m : ℚ) - 1 / 4 ≤ v / 2 ^ e

lemma roundsTo_of_holds {v : ℚ} (hm : 0 < m) (h : (RoundingInterval.of m e).Holds v) :
    RoundsTo m e v := by
  have htwo : (0 : ℚ) < 2 ^ e := by positivity
  have hunit : (2 : ℚ) ^ (e - 2) = 2 ^ e / 4 := by
    rw [zpow_sub₀ two_ne_zero]
    norm_num
  have hclosed : (RoundingInterval.of m e).closed = true ↔ m % 2 = 0 := decide_eq_true_iff
  have hscale (x : ℚ) : 4 * x * (2 ^ e / 4) = x * 2 ^ e := by ring
  unfold RoundingInterval.Holds at h
  dsimp only at h
  rw [RoundingInterval.value_unit, RoundingInterval.low_of hm, RoundingInterval.high_of, hunit,
    hscale, hscale, ← le_div_iff₀ htwo,
    ← div_le_iff₀ htwo, ← lt_div_iff₀ htwo, ← div_lt_iff₀ htwo] at h
  split_ifs at h with heven hleast hleast
  · rw [hclosed] at heven
    exact ⟨by linarith [h.1], h.2, .inl heven, fun _ _ => h.1⟩
  · rw [hclosed] at heven
    exact ⟨h.1, h.2, .inl heven, fun hm he => absurd ⟨hm, he⟩ hleast⟩
  · have hnear : (m : ℚ) - 1 / 2 < v / 2 ^ e := by linarith [h.1]
    exact ⟨hnear.le, h.2.le, .inr ⟨hnear, h.2⟩, fun _ _ => h.1.le⟩
  · exact ⟨h.1.le, h.2.le, .inr h, fun hm he => absurd ⟨hm, he⟩ hleast⟩

/-- Where the exponent of a ratio is that of the number, its mantissa is too. -/
lemma ofRatio_of_exponentOf (negative : Bool) (hpair : IsPair m e) (hnum : 0 < num)
    (hden : 0 < den) (h : RoundsTo m e (num / den)) (hexponent : exponentOf num den = e) :
    ofRatio negative num den = .finite negative m e := by
  have hvalue := value_scaleRatio two_pos num den e
  rw [Nat.cast_ofNat] at hvalue
  obtain ⟨hlow, hhigh, htie, -⟩ := h
  rw [← hvalue] at hlow hhigh htie
  have hround : roundQuotient (scaleRatio 2 num den e).1 (scaleRatio 2 num den e).2 = m :=
    roundQuotient_eq (scaleRatio_pos two_pos hden num e) hlow hhigh htie
  have hless : m ≠ 2 * leastNormal := hpair.mantissa.ne
  have hgreatest : ¬e > greatestExponent := not_lt.2 hpair.greatest
  rw [ofRatio_of_pos negative hnum, hexponent]
  dsimp only
  rw [hround, if_neg hless]
  dsimp only
  rw [if_neg hgreatest]

/-- A ratio just below the least number of an exponent is rounded up to it. -/
lemma ofRatio_of_carry (negative : Bool) (hleast : leastExponent < e)
    (hgreatest : e ≤ greatestExponent) (hnum : 0 < num) (hden : 0 < den)
    (hquarter : (leastNormal : ℚ) - 1 / 4 ≤ num / den / 2 ^ e)
    (hbelow : (num : ℚ) / den < leastNormal * 2 ^ e) :
    ofRatio negative num den = .finite negative leastNormal e := by
  have htwo : (0 : ℚ) < 2 ^ e := by positivity
  have htwo' : (0 : ℚ) < 2 ^ (e - 1) := by positivity
  have hhalf : (2 : ℚ) ^ e = 2 * 2 ^ (e - 1) := by
    rw [← zpow_one_add₀ two_ne_zero, add_sub_cancel]
  have hbig : (1 : ℚ) ≤ leastNormal := by
    rw [leastNormal]
    norm_num
  -- one exponent lower the ratio is within a half of the greatest mantissa and the next one
  rw [le_div_iff₀ htwo] at hquarter
  rw [hhalf] at hquarter hbelow
  have hexponent : exponentOf num den = e - 1 := by
    have hmax : max (e - 1) leastExponent = e - 1 := max_eq_left (by omega)
    rw [← hmax]
    refine exponentOf_eq hnum hden ?_ ?_
    · rw [zpow_add₀ two_ne_zero, two_pow_52]
      nlinarith
    · have hsum : (53 : Int) + (e - 1) = 1 + (52 + (e - 1)) := by omega
      rw [hsum, zpow_one_add₀ two_ne_zero, zpow_add₀ two_ne_zero, two_pow_52]
      linarith
  have hround : roundQuotient (scaleRatio 2 num den (e - 1)).1 (scaleRatio 2 num den (e - 1)).2 =
      2 * leastNormal := by
    have hvalue := value_scaleRatio two_pos num den (e - 1)
    rw [Nat.cast_ofNat] at hvalue
    refine roundQuotient_eq (scaleRatio_pos two_pos hden num (e - 1)) ?_ ?_ (.inl (by decide))
    · rw [hvalue, Nat.cast_mul, Nat.cast_ofNat, le_div_iff₀ htwo']
      linarith
    · rw [hvalue, Nat.cast_mul, Nat.cast_ofNat, div_le_iff₀ htwo']
      linarith
  rw [ofRatio_of_pos negative hnum, hexponent]
  dsimp only
  rw [hround, if_pos rfl]
  dsimp only
  rw [if_neg (by omega), sub_add_cancel]

/-- A ratio in the rounding interval of a number rounds to this number. -/
theorem ofRatio_of_holds (negative : Bool) (hpair : IsPair m e) (hm : 0 < m) (hnum : 0 < num)
    (hden : 0 < den) (hholds : (RoundingInterval.of m e).Holds (num / den)) :
    ofRatio negative num den = .finite negative m e := by
  have h := roundsTo_of_holds hm hholds
  have htwo : (0 : ℚ) < 2 ^ e := by positivity
  have hpow : (2 : ℚ) ^ (52 + e) = leastNormal * 2 ^ e := by
    rw [zpow_add₀ two_ne_zero, two_pow_52]
  rcases le_or_gt ((2 : ℚ) ^ (52 + e)) (num / den) with hlow | hbelow
  · have hhigh : (num : ℚ) / den < 2 ^ (53 + e) := by
      have hsucc : m + 1 ≤ 2 * leastNormal := hpair.mantissa
      have hsucc' : (m : ℚ) + 1 ≤ 2 * leastNormal := by exact_mod_cast hsucc
      have hsum : (53 : Int) + e = 1 + (52 + e) := by omega
      rw [hsum, zpow_one_add₀ two_ne_zero, hpow, ← mul_assoc, ← div_lt_iff₀ htwo]
      linarith [h.high]
    refine ofRatio_of_exponentOf negative hpair hnum hden h ?_
    rw [exponentOf_eq hnum hden hlow hhigh]
    exact max_eq_left hpair.least
  · rcases eq_or_lt_of_le hpair.least with heq | hleast
    · -- there is no smaller exponent
      obtain ⟨e', hlow, hhigh⟩ := exists_exponent hnum hden
      have hlt := (zpow_lt_zpow_iff_right₀ (one_lt_two : (1 : ℚ) < 2)).1 (hlow.trans_lt hbelow)
      refine ofRatio_of_exponentOf negative hpair hnum hden h ?_
      rw [exponentOf_eq hnum hden hlow hhigh, heq]
      omega
    · rw [hpow] at hbelow
      have hnormal : leastNormal ≤ m := hpair.normal.resolve_right hleast.ne'
      have hm' : m = leastNormal := by
        have hless : (m : ℚ) < leastNormal + 1 := by
          rw [← div_lt_iff₀ htwo] at hbelow
          linarith [h.low]
        have hless' : m < leastNormal + 1 := by exact_mod_cast hless
        omega
      have hquarter := h.quarter hm' hleast
      rw [hm'] at hquarter ⊢
      exact ofRatio_of_carry negative hleast hpair.greatest hnum hden hquarter hbelow

end Binary64

end SheetCompiler.Number
