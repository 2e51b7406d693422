/-!
# Binary floating-point numbers

A number of 64 bits as the exact value it stands for: `mantissa * 2 ^ exponent` with a sign, an
infinity, or no number. Nothing here computes in hardware: a value enters by rounding an exact
ratio of natural numbers to the nearest representable one, ties to the even mantissa.
-/

namespace SheetCompiler.Number

/-- A binary floating-point number. A finite one is `± mantissa * 2 ^ exponent`, with
`mantissa < 2 ^ 53`, and `2 ^ 52 ≤ mantissa` unless the exponent is the least one. -/
inductive Binary64
  | finite (negative : Bool) (mantissa : Nat) (exponent : Int)
  | infinite (negative : Bool)
  | nan
deriving DecidableEq

/-- The quotient rounded to the nearest natural number, a half to the even neighbour. -/
def roundQuotient (num den : Nat) : Nat :=
  let q := num / den
  let r := num % den
  if 2 * r > den ∨ (2 * r = den ∧ q % 2 = 1) then q + 1 else q

/-- The numerator and denominator of `num / den / base ^ exponent`. -/
def scaleRatio (base : Nat) (num den : Nat) (exponent : Int) : Nat × Nat :=
  if 0 ≤ exponent then (num, den * Nat.pow base exponent.toNat)
  else (num * Nat.pow base (-exponent).toNat, den)

namespace Binary64

/-- The least mantissa of 53 bits, which is `2 ^ 52`. -/
def leastNormal : Nat := 4503599627370496

/-- The least exponent of a finite number. -/
def leastExponent : Int := -1074

/-- The greatest exponent of a finite number. -/
def greatestExponent : Int := 971

/-- Zero with a sign. -/
def zero (negative : Bool) : Binary64 := .finite negative 0 leastExponent

/-- The exponent at which a positive ratio has a mantissa of 53 bits, or the least exponent. -/
def exponentOf (num den : Nat) : Int :=
  let guess : Int := (num.log2 : Int) - (den.log2 : Int) - 52
  let scaled := scaleRatio 2 num den guess
  -- the logarithms round down, so the guess is right or one too high
  let exact := if scaled.1 / scaled.2 < leastNormal then guess - 1 else guess
  max exact leastExponent

/-- The number nearest to `num / den`. -/
def ofRatio (negative : Bool) (num den : Nat) : Binary64 :=
  if num = 0 then zero negative
  else
    let exponent := exponentOf num den
    let scaled := scaleRatio 2 num den exponent
    let mantissa := roundQuotient scaled.1 scaled.2
    -- rounding up may carry into one more bit
    let (mantissa, exponent) :=
      if mantissa = 2 * leastNormal then (leastNormal, exponent + 1) else (mantissa, exponent)
    if exponent > greatestExponent then .infinite negative
    else .finite negative mantissa exponent

/-- The number nearest to `digits * 10 ^ exponent`. Values beyond every finite number become an
infinity and values below half the least number become zero without computing their powers. -/
def ofDecimal (negative : Bool) (digits : Nat) (exponent : Int) : Binary64 :=
  if digits = 0 then zero negative
  else
    -- the value lies between two neighbouring powers of ten, this one and the one before it
    let magnitude : Int := (toString digits).length + exponent
    if magnitude > 310 then .infinite negative
    else if magnitude < -330 then zero negative
    else if 0 ≤ exponent then ofRatio negative (digits * Nat.pow 10 exponent.toNat) 1
    else ofRatio negative digits (Nat.pow 10 (-exponent).toNat)

/-- The number nearest to an integer. -/
def ofInt (i : Int) : Binary64 := ofRatio (decide (i < 0)) i.natAbs 1

/-- The numerator and denominator of the magnitude of a finite number. -/
def magnitude (mantissa : Nat) (exponent : Int) : Nat × Nat :=
  scaleRatio 2 mantissa 1 (-exponent)

/-- The integer a number is, if it is one. -/
def toInt? : Binary64 → Option Int
  | .finite negative mantissa exponent =>
    let (num, den) := magnitude mantissa exponent
    if num % den = 0 then
      some (if negative then -((num / den : Nat) : Int) else ((num / den : Nat) : Int))
    else none
  | .infinite _ => none
  | .nan => none

/-- The number with the opposite sign. -/
def neg : Binary64 → Binary64
  | .finite negative mantissa exponent => .finite (!negative) mantissa exponent
  | .infinite negative => .infinite (!negative)
  | .nan => .nan

/-- The sum of two numbers that are not below zero. -/
def addMagnitude : Binary64 → Binary64 → Binary64
  | .finite _ mantissa exponent, .finite _ mantissa' exponent' =>
    let (num, den) := magnitude mantissa exponent
    let (num', den') := magnitude mantissa' exponent'
    ofRatio false (num * den' + num' * den) (den * den')
  | .nan, _ | _, .nan => .nan
  | _, _ => .infinite false

/-- The product of a number that is not below zero with a natural number, which is rounded first. -/
def scale (x : Binary64) (n : Nat) : Binary64 :=
  match x, ofInt n with
  | .finite _ mantissa exponent, .finite _ mantissa' exponent' =>
    let (num, den) := magnitude mantissa exponent
    let (num', den') := magnitude mantissa' exponent'
    ofRatio false (num * num') (den * den')
  | .nan, _ | _, .nan => .nan
  | _, _ => .infinite false

end Binary64

end SheetCompiler.Number
