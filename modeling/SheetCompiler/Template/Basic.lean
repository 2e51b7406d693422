import SheetCompiler.Pairs
import SheetCompiler.Text.Blank
import SheetCompiler.Text.Identifier
import SheetCompiler.Text.Quoted

/-!
# Templates

A template is text with slots: a name of word characters between double braces, with blanks around
it or not. `pieces` takes a template apart from left to right and `fill` puts it together with a
text for each slot, so a text that goes into a slot is never searched for slots itself. Main
statements: `fill_char`, `fill_slot` and `fill_append` (filling goes piece by piece).
-/

namespace SheetCompiler

open SheetCompiler.Text

/-- Why a template gives no text. -/
inductive TemplateFault
  | missing (name : String)
  | emptySlot (name : String)
  | reservedSlot (name : String)
deriving DecidableEq

/-- The wording of a fault: a missing template by its name alone. -/
def TemplateFault.message : TemplateFault → String
  | .missing name => quoted name
  | .emptySlot name => "Template slot '" ++ name ++ "' has no value"
  | .reservedSlot name => "Template slot '" ++ name ++ "' is reserved"

namespace Template

/-- A piece of a template. -/
inductive Piece
  | char (c : Char)
  | slot (name : String)
deriving DecidableEq

/-- The name of the slot at the beginning of a text, and what follows the slot. -/
def slot? : List Char → Option (List Char × List Char)
  | '\x7b' :: '\x7b' :: cs =>
    let body := cs.dropWhile isBlank
    let name := body.takeWhile isWord
    match (body.dropWhile isWord).dropWhile isBlank with
    | '\x7d' :: '\x7d' :: rest => if name.isEmpty then none else some (name, rest)
    | _ => none
  | _ => none

theorem length_of_slot? {cs name rest : List Char} (h : slot? cs = some (name, rest)) :
    rest.length < cs.length := by
  unfold slot? at h
  split at h
  · rename_i tail
    have h1 : (tail.dropWhile isBlank).length ≤ tail.length :=
      (List.dropWhile_sublist _).length_le
    have h2 := (List.dropWhile_sublist (l := tail.dropWhile isBlank) isWord).length_le
    have h3 := (List.dropWhile_sublist
      (l := (tail.dropWhile isBlank).dropWhile isWord) isBlank).length_le
    dsimp only at h
    split at h
    · rename_i more hm
      rw [hm] at h3
      split at h
      · simp at h
      · simp only [Option.some.injEq, Prod.mk.injEq] at h
        simp only [List.length_cons] at h3 ⊢
        rw [← h.2]
        omega
    · simp at h
  · simp at h

/-- The pieces of a template, from left to right. -/
def pieces : List Char → List Piece
  | [] => []
  | c :: cs =>
    match h : slot? (c :: cs) with
    | some (name, rest) =>
      have : rest.length < cs.length + 1 := length_of_slot? h
      .slot (String.ofList name) :: pieces rest
    | none => .char c :: pieces cs
termination_by cs => cs.length

/-- The text of pieces with the texts of their slots, or the first slot without one. -/
def fillPieces (slots : Pairs String) : List Piece → Except TemplateFault (List Char)
  | [] => .ok []
  | .char c :: rest => (fillPieces slots rest).map (c :: ·)
  | .slot name :: rest =>
    match slots.get? name with
    | none => .error (.emptySlot name)
    | some text => (fillPieces slots rest).map (text.toList ++ ·)

/-- The name that no slot may have: that of the template itself. -/
def reservedSlot : String := "template"

/-- The text of a template with a text for each slot. -/
def fill (template : String) (slots : Pairs String) : Except TemplateFault String :=
  if slots.names.contains reservedSlot then .error (.reservedSlot reservedSlot)
  else (fillPieces slots (pieces template.toList)).map String.ofList

theorem fill_char (slots : Pairs String) (c : Char) (rest : List Piece) :
    fillPieces slots (.char c :: rest) = (fillPieces slots rest).map (c :: ·) := rfl

theorem fill_slot {slots : Pairs String} {name text : String} (h : slots.get? name = some text)
    (rest : List Piece) :
    fillPieces slots (.slot name :: rest) = (fillPieces slots rest).map (text.toList ++ ·) := by
  simp [fillPieces, h]

/-- Slots with other names than the reserved one are filled. -/
theorem fill_of_not_mem {slots : Pairs String} (h : reservedSlot ∉ slots.names)
    (template : String) :
    fill template slots = (fillPieces slots (pieces template.toList)).map String.ofList := by
  simp [fill, h]

/-- Pieces one after the other give their texts one after the other. -/
theorem fill_append (slots : Pairs String) {first second : List Piece} {a b : List Char}
    (ha : fillPieces slots first = .ok a) (hb : fillPieces slots second = .ok b) :
    fillPieces slots (first ++ second) = .ok (a ++ b) := by
  induction first generalizing a with
  | nil =>
    cases ha
    exact hb
  | cons piece first ih =>
    cases piece with
    | char c =>
      rw [fill_char] at ha
      cases hf : fillPieces slots first with
      | error e => rw [hf] at ha; cases ha
      | ok text =>
        rw [hf] at ha
        cases ha
        rw [List.cons_append, fill_char, ih hf]
        rfl
    | slot name =>
      cases hs : slots.get? name with
      | none => simp [fillPieces, hs] at ha
      | some text =>
        rw [fill_slot hs] at ha
        cases hf : fillPieces slots first with
        | error e => rw [hf] at ha; cases ha
        | ok more =>
          rw [hf] at ha
          cases ha
          rw [List.cons_append, fill_slot hs, ih hf]
          simp [Except.map]

end Template

end SheetCompiler
