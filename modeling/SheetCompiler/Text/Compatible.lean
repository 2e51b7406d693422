import SheetCompiler.Text.Ranges
import SheetCompiler.Text.Compatible.Table

/-!
# Compatible forms of names

A script reads a name in its compatible form (normalization form KC): every character is replaced
by its full decomposition, combining marks are put in the order of their classes, and neighbours
that have a composed form are composed again. An ASCII name is its own compatible form.
-/

namespace SheetCompiler.Text.Compatible

/-! ## Hangul syllables -/

/-- The leading consonant, vowel and trailing consonant of a Hangul syllable. -/
def splitSyllable? (n : Nat) : Option (List Nat) :=
  if 0xac00 ≤ n ∧ n ≤ 0xd7a3 then
    let index := n - 0xac00
    let lead := 0x1100 + index / 588
    let vowel := 0x1161 + index % 588 / 28
    let tail := index % 28
    some (if tail = 0 then [lead, vowel] else [lead, vowel, 0x11a7 + tail])
  else none

/-- The Hangul syllable of a leading consonant and a vowel, or of a syllable without trailing
consonant and one. -/
def joinSyllable? (a b : Nat) : Option Nat :=
  if 0x1100 ≤ a ∧ a ≤ 0x1112 ∧ 0x1161 ≤ b ∧ b ≤ 0x1175 then
    some (0xac00 + ((a - 0x1100) * 21 + (b - 0x1161)) * 28)
  else if 0xac00 ≤ a ∧ a ≤ 0xd7a3 ∧ (a - 0xac00) % 28 = 0 ∧ 0x11a8 ≤ b ∧ b ≤ 0x11c2 then
    some (a + (b - 0x11a7))
  else none

/-! ## Decomposition -/

/-- The full decomposition of a code point. -/
def decompose (n : Nat) : List Nat :=
  match splitSyllable? n with
  | some parts => parts
  | none =>
    match expansions.find? fun e => e.1 == n with
    | some e => e.2
    | none =>
      match singleRuns.find? fun r => decide (r.1 ≤ n) && decide (n ≤ r.2.1) with
      | some r => [r.2.2 + (n - r.1)]
      | none => [n]

/-- The combining class of a code point; zero for everything but combining marks. -/
def combiningClass (n : Nat) : Nat :=
  match classRuns.find? fun r => decide (r.1 ≤ n) && decide (n ≤ r.2.1) with
  | some r => r.2.2
  | none => 0

/-! ## Order of marks -/

/-- Adds a code point to a reversed text, before the marks of a higher class at its end. -/
def insertMark (n : Nat) : List Nat → List Nat
  | [] => [n]
  | m :: done =>
    if combiningClass n ≠ 0 ∧ combiningClass n < combiningClass m then m :: insertMark n done
    else n :: m :: done

/-- The text with each run of combining marks in the order of their classes. -/
def orderMarks (text : List Nat) : List Nat :=
  (text.foldl (fun done n => insertMark n done) []).reverse

/-! ## Composition -/

/-- The composed form of two code points. -/
def joinPair? (a b : Nat) : Option Nat :=
  match joinSyllable? a b with
  | some n => some n
  | none => (pairs.find? fun p => p.1 == a && p.2.1 == b).map (·.2.2)

/-- Composes a text from a starter and the marks that follow it, in reverse. A mark reaches the
starter unless a mark of the same or a higher class stands between them. -/
def composeFrom (starter : Nat) (marks : List Nat) : List Nat → List Nat
  | [] => starter :: marks.reverse
  | n :: rest =>
    -- the last mark kept is the one with the highest class so far
    let reaches := match marks with
      | [] => true
      | m :: _ => decide (combiningClass m < combiningClass n)
    match if reaches then joinPair? starter n else none with
    | some joined => composeFrom joined marks rest
    | none =>
      if combiningClass n = 0 then starter :: marks.reverse ++ composeFrom n [] rest
      else composeFrom starter (n :: marks) rest

/-- The text with every starter composed with what reaches it. -/
def compose : List Nat → List Nat
  | [] => []
  | n :: rest => if combiningClass n = 0 then composeFrom n [] rest else n :: compose rest

end SheetCompiler.Text.Compatible

namespace SheetCompiler.Text

/-- The form in which a script reads a name. -/
def compatibleForm (name : String) : String :=
  if name.toList.all isAscii then name
  else
    String.ofList <| List.map Char.ofNat <| Compatible.compose <| Compatible.orderMarks <|
      name.toList.flatMap fun c => Compatible.decompose c.toNat

theorem compatibleForm_of_ascii {name : String} (h : ∀ c ∈ name.toList, isAscii c = true) :
    compatibleForm name = name := by
  have : name.toList.all isAscii = true := List.all_eq_true.2 h
  simp [compatibleForm, this]

end SheetCompiler.Text
