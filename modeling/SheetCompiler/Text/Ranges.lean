/-!
# Character ranges

Properties of characters beyond ASCII are tables of closed ranges of code points. A property
treats the ASCII characters by a rule of its own, so that statements about them need no table.
-/

namespace SheetCompiler.Text

/-- Closed ranges `(first, last)` of code points. -/
abbrev Ranges := List (Nat × Nat)

/-- Whether the code point `n` lies in one of the ranges. -/
def Ranges.contains (ranges : Ranges) (n : Nat) : Bool :=
  ranges.any fun r => decide (r.1 ≤ n) && decide (n ≤ r.2)

/-- Whether `c` is one of the first 128 characters. -/
def isAscii (c : Char) : Bool := decide (c.toNat < 128)

theorem Ranges.contains_iff {ranges : Ranges} {n : Nat} :
    ranges.contains n = true ↔ ∃ r ∈ ranges, r.1 ≤ n ∧ n ≤ r.2 := by
  simp [Ranges.contains]

end SheetCompiler.Text
