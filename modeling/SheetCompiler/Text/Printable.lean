import SheetCompiler.Text.Printable.Table

/-!
# Printable characters

A quoted text shows a printable character as it is and every other one by its code point.
-/

namespace SheetCompiler.Text

/-- Whether a quoted text shows a character as it is. -/
def isPrintable (c : Char) : Bool :=
  if isAscii c then decide (0x20 ≤ c.toNat) && decide (c.toNat ≤ 0x7e)
  else printableRanges.contains c.toNat

end SheetCompiler.Text
