import SheetCompiler.Text.Hex

/-!
# Code points

A text that is read from a file may name code points that are no characters: the halves of
surrogate pairs. A text with such a half can be kept, compared and shown, but no file can hold it.
Main statement: `filterMap_char` (characters are points that are whole).
-/

namespace SheetCompiler.Text

/-- A code point: a character, or a half of a surrogate pair by its place among the halves. -/
inductive Point
  | char (c : Char)
  | half (place : Fin 2048)
deriving DecidableEq

namespace Point

/-- The number of a code point. -/
def code : Point → Nat
  | char c => c.toNat
  | half place => 0xd800 + place

/-- Whether a code point is no character. -/
def isHalf : Point → Bool
  | char _ => false
  | half _ => true

/-- The character that a code point is, if it is one. -/
def char? : Point → Option Char
  | char c => some c
  | half _ => none

/-- The escape that shows a half. -/
def escape (place : Fin 2048) : List Char := '\\' :: 'u' :: writeHex 4 (0xd800 + place)

/-- How a code point is shown: a half by its escape. -/
def shown : Point → List Char
  | char c => [c]
  | half place => escape place

end Point

/-- The half of a surrogate pair that a code unit is, if it is one. -/
def half? (unit : Nat) : Option (Fin 2048) :=
  if h : 0xd800 ≤ unit ∧ unit ≤ 0xdfff then some ⟨unit - 0xd800, by omega⟩ else none

/-- A text in which a half stands alone. -/
structure BrokenText where
  points : List Point
  broken : points.any Point.isHalf = true
deriving DecidableEq

/-- How a text with a half is shown. -/
def BrokenText.shown (b : BrokenText) : String := String.ofList (b.points.flatMap Point.shown)

/-- The text with the replacement character in the place of every half. -/
def BrokenText.replaced (b : BrokenText) : String :=
  String.ofList (b.points.map fun p => p.char?.getD '\ufffd')

/-- Whether the halves of a text only stand for bytes that are no text, as in a path. -/
def BrokenText.isPath (b : BrokenText) : Bool :=
  b.points.all fun
    | .char _ => true
    | .half place => decide (0x480 ≤ place.val) && decide (place.val < 0x500)

/-- Code points are told apart by their numbers: no character has the number of a half. -/
theorem Point.code_inj {p q : Point} : p.code = q.code ↔ p = q := by
  constructor
  · intro h
    cases p with
    | char c =>
      cases q with
      | char d => rw [Char.toNat_inj.1 h]
      | half place =>
        have hchar := c.valid
        simp only [Point.code, Char.toNat] at h
        simp only [UInt32.isValidChar, Nat.isValidChar] at hchar
        omega
    | half place =>
      cases q with
      | char d =>
        have hchar := d.valid
        simp only [Point.code, Char.toNat] at h
        simp only [UInt32.isValidChar, Nat.isValidChar] at hchar
        omega
      | half other =>
        simp only [Point.code] at h
        rw [Fin.ext (Nat.add_left_cancel h)]
  · rintro rfl
    rfl

theorem filterMap_char (cs : List Char) : (cs.map Point.char).filterMap Point.char? = cs := by
  rw [List.filterMap_map]
  exact List.filterMap_some

theorem any_isHalf_char (cs : List Char) : (cs.map Point.char).any Point.isHalf = false := by
  simp [Point.isHalf]

/-! ## What a file cannot hold -/

/-- The first run of halves among code points: the number of the first, the place of the run, and
how many they are. -/
structure HalfRun where
  code : Nat
  position : Nat
  length : Nat
deriving DecidableEq

/-- The first run of halves among code points, if there is a half. -/
def halfRun? (points : List Point) : Option HalfRun :=
  let before := points.takeWhile fun p => !p.isHalf
  match points.drop before.length with
  | [] => none
  | p :: rest => some ⟨p.code, before.length, 1 + (rest.takeWhile Point.isHalf).length⟩

/-- The wording of halves that a file cannot hold. -/
def HalfRun.message (r : HalfRun) : String :=
  let place := toString r.position
  if r.length = 1 then
    "'utf-8' codec can't encode character '\\u" ++ String.ofList (writeHex 4 r.code)
      ++ "' in position " ++ place ++ ": surrogates not allowed"
  else
    "'utf-8' codec can't encode characters in position " ++ place ++ "-"
      ++ toString (r.position + r.length - 1) ++ ": surrogates not allowed"

end SheetCompiler.Text
