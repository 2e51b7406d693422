import SheetCompiler.Text.Cased.Table

/-!
# Words of letters with case

A Greek sigma has a form of its own at the end of a word. `endsWord` says where that is: behind a
letter with case and not before one, whatever marks stand between.
-/

namespace SheetCompiler.Text

/-- Whether a character has case and is not passed over. -/
def isCased (c : Char) : Bool := if isAscii c then c.isAlpha else casedRanges.contains c.toNat

/-- Whether a character is passed over when the next letter is looked for. -/
def isCaseIgnorable (c : Char) : Bool :=
  if isAscii c then ['\x27', '.', ':', '^', '\x60'].contains c
  else caseIgnorableRanges.contains c.toNat

/-- Whether the first character that is not passed over has case. -/
def beginsCased (cs : List Char) : Bool :=
  ((cs.dropWhile isCaseIgnorable).head?.map isCased).getD false

/-- Whether a letter ends a word, by what stands before it, in reverse, and what stands behind
it. -/
def endsWord (before behind : List Char) : Bool := beginsCased before && !beginsCased behind

end SheetCompiler.Text
