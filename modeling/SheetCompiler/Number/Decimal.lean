import SheetCompiler.Number.Binary64

/-!
# Decimal texts of binary numbers

A finite number is written with the fewest decimal digits that read back as the same number, or
with a fixed count of significant digits. Both are found in exact arithmetic on natural numbers:
the numbers that round to `mantissa * 2 ^ exponent` form an interval, which holds its ends just if
the mantissa is even, and the first decimal grid with a point in it gives the shortest text. How
digits and exponent are laid out is a `DecimalStyle`.
-/

namespace SheetCompiler.Number

/-- The number `digits * 10 ^ exponent`. -/
structure Decimal where
  digits : Nat
  exponent : Int
deriving DecidableEq

/-- How many decimal digits a number has; none for zero. -/
def digitCount (n : Nat) : Nat := if n = 0 then 0 else (toString n).length

/-- The least `e` with `num / den < 10 ^ e`, for a positive ratio. -/
def decimalExponent (num den : Nat) : Int :=
  if den ≤ num then (digitCount (num / den) : Int)
  else 1 - (digitCount ((den - 1) / num) : Int)

/-- Moves the zeros at the end of the digits into the exponent. -/
def Decimal.trim (d : Decimal) : Nat → Decimal
  | 0 => d
  | fuel + 1 =>
    if d.digits ≠ 0 ∧ d.digits % 10 = 0 then trim ⟨d.digits / 10, d.exponent + 1⟩ fuel else d

/-- The decimal without zeros at the end of its digits. -/
def Decimal.normal (d : Decimal) : Decimal := d.trim (toString d.digits).length

/-! ## Shortest digits -/

/-- The numbers that round to one binary number, as multiples of `unit.1 / unit.2`: the value
itself and the two ends. -/
structure RoundingInterval where
  value : Nat
  low : Nat
  high : Nat
  closed : Bool
  unit : Nat × Nat

/-- The numbers that round to `mantissa * 2 ^ exponent`. Below a power of two the numbers lie twice
as close, save at the least exponent. -/
def RoundingInterval.of (mantissa : Nat) (exponent : Int) : RoundingInterval where
  value := 4 * mantissa
  low :=
    if mantissa = Binary64.leastNormal ∧ Binary64.leastExponent < exponent then 4 * mantissa - 1
    else 4 * mantissa - 2
  high := 4 * mantissa + 2
  closed := decide (mantissa % 2 = 0)
  unit := scaleRatio 2 1 1 (-(exponent - 2))

/-- The decimal of the grid `10 ^ exponent` in the interval that is nearest to its value. -/
def RoundingInterval.pick? (i : RoundingInterval) (exponent : Int) : Option Decimal :=
  let grid := scaleRatio 10 1 1 (-exponent)
  -- a multiple `v` of the unit lies at `v * left`, a point `n` of the grid at `n * right`
  let left := i.unit.1 * grid.2
  let right := i.unit.2 * grid.1
  let holds (n : Nat) : Bool :=
    if i.closed then decide (i.low * left ≤ n * right) && decide (n * right ≤ i.high * left)
    else decide (i.low * left < n * right) && decide (n * right < i.high * left)
  -- the neighbours of the value on the grid, and how far they are from it
  let below := i.value * left / right
  let gapBelow := i.value * left - below * right
  let gapAbove := (below + 1) * right - i.value * left
  match holds below, holds (below + 1) with
  | true, true =>
    if gapBelow < gapAbove ∨ (gapBelow = gapAbove ∧ below % 2 = 0) then some ⟨below, exponent⟩
    else some ⟨below + 1, exponent⟩
  | true, false => some ⟨below, exponent⟩
  | false, true => some ⟨below + 1, exponent⟩
  | false, false => none

/-- The first hit on the grids from `exponent` down; each has one digit more than the one before. -/
def RoundingInterval.search (i : RoundingInterval) (exponent : Int) : Nat → Option Decimal
  | 0 => none
  | fuel + 1 =>
    match i.pick? exponent with
    | some d => some d
    | none => i.search (exponent - 1) fuel

/-- The decimal with the fewest digits that reads back as `mantissa * 2 ^ exponent`. Seventeen
digits always suffice. -/
def shortest (mantissa : Nat) (exponent : Int) : Decimal :=
  if mantissa = 0 then ⟨0, 0⟩
  else
    let (num, den) := Binary64.magnitude mantissa exponent
    let top := decimalExponent num den
    match (RoundingInterval.of mantissa exponent).search (top - 1) 17 with
    | some d => d.normal
    | none => ⟨0, 0⟩

/-- The decimal of `count` significant digits nearest to `mantissa * 2 ^ exponent`. -/
def significant (count : Nat) (mantissa : Nat) (exponent : Int) : Decimal :=
  if mantissa = 0 then ⟨0, 0⟩
  else
    let (num, den) := Binary64.magnitude mantissa exponent
    let last := decimalExponent num den - count
    let scaled := scaleRatio 10 num den last
    Decimal.normal ⟨roundQuotient scaled.1 scaled.2, last⟩

/-! ## Layout -/

/-- How a decimal is laid out: whether a whole number keeps a point and a zero, and the decimal
exponents of the first digit that are written in place; all others follow a mark. -/
structure DecimalStyle where
  pointZero : Bool
  least : Int
  limit : Int

/-- A whole number keeps its point; digits stand in place from `0.0001` to sixteen places. -/
def DecimalStyle.plain : DecimalStyle := ⟨true, -4, 16⟩

/-- A whole number has no point. -/
def DecimalStyle.general : DecimalStyle := ⟨false, -4, 16⟩

/-- An exponent after its mark: a sign and at least two digits. -/
def exponentText (e : Int) : String :=
  let digits := toString e.natAbs
  "e" ++ (if e < 0 then "-" else "+") ++ (if digits.length < 2 then "0" ++ digits else digits)

/-- The text of a decimal without trailing zeros in its digits. -/
def DecimalStyle.render (style : DecimalStyle) (d : Decimal) : String :=
  let digits := toString d.digits
  let first : Int := d.exponent + digits.length - 1
  if style.least ≤ first ∧ first < style.limit then
    if first < 0 then
      "0." ++ String.ofList (List.replicate (-first - 1).toNat '0') ++ digits
    else
      let whole := (first + 1).toNat
      if digits.length ≤ whole then
        digits ++ String.ofList (List.replicate (whole - digits.length) '0')
          ++ (if style.pointZero then ".0" else "")
      else
        String.ofList (digits.toList.take whole) ++ "."
          ++ String.ofList (digits.toList.drop whole)
  else
    match digits.toList with
    | [] => ""
    | [c] => String.ofList [c] ++ exponentText first
    | c :: cs => String.ofList [c] ++ "." ++ String.ofList cs ++ exponentText first

/-- The sign of a text that may be negative. -/
def signText (negative : Bool) : String := if negative then "-" else ""

/-- The shortest text that reads back as the number. -/
def Binary64.text : Binary64 → String
  | .finite negative mantissa exponent =>
    signText negative ++ DecimalStyle.plain.render (shortest mantissa exponent)
  | .infinite negative => signText negative ++ "inf"
  | .nan => "nan"

/-- The text of the number with sixteen significant digits. -/
def Binary64.text16 : Binary64 → String
  | .finite negative mantissa exponent =>
    signText negative ++ DecimalStyle.general.render (significant 16 mantissa exponent)
  | .infinite negative => signText negative ++ "inf"
  | .nan => "nan"

end SheetCompiler.Number
