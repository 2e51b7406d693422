import SheetCompiler.Text.Ranges

/-!
# Blank characters

Two sets of blanks. Header texts and templates drop every separator and white-space control of
Unicode; the text of a number may be padded with the same characters, save the four ASCII
information separators.
-/

namespace SheetCompiler.Text

/-- The code points of blank characters: white-space controls and separators. -/
def blankRanges : Ranges := [
  (0x09, 0x0d), (0x1c, 0x20), (0x85, 0x85), (0xa0, 0xa0), (0x1680, 0x1680), (0x2000, 0x200a),
  (0x2028, 0x2029), (0x202f, 0x202f), (0x205f, 0x205f), (0x3000, 0x3000)]

/-- Whether a character separates words. -/
def isBlank (c : Char) : Bool := blankRanges.contains c.toNat

/-- Whether a character may pad the text of a number. -/
def isPadding (c : Char) : Bool :=
  isBlank c && !(decide (0x1c ≤ c.toNat) && decide (c.toNat ≤ 0x1f))

/-- The text without its blanks. -/
def dropBlanks (cs : List Char) : List Char := cs.filter fun c => !isBlank c

/-- The text without the padding at both ends. -/
def trimPadding (cs : List Char) : List Char :=
  ((cs.dropWhile isPadding).reverse.dropWhile isPadding).reverse

theorem isBlank_eq_false_of_mem_dropBlanks {cs : List Char} {c : Char} (h : c ∈ dropBlanks cs) :
    isBlank c = false := by
  simp only [dropBlanks, List.mem_filter, Bool.not_eq_true'] at h
  exact h.2

theorem dropBlanks_eq_self {cs : List Char} (h : ∀ c ∈ cs, isBlank c = false) :
    dropBlanks cs = cs := by
  simp only [dropBlanks, List.filter_eq_self, Bool.not_eq_true']
  exact h

@[simp] theorem dropBlanks_dropBlanks (cs : List Char) :
    dropBlanks (dropBlanks cs) = dropBlanks cs := by
  simp [dropBlanks]

end SheetCompiler.Text
