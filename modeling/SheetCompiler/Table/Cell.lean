import SheetCompiler.Schema.Header

/-!
# Checking cells

A cell of an array column holds one element a line; a cell of any other column holds one. Elements
of a primitive type must be valid texts of it, elements of an enumeration must be members.
-/

namespace SheetCompiler

open SheetCompiler.Text

/-- The elements of a cell, one a line. -/
def splitCell (text : String) : List String := pieces '\n' text

/-- Elements without line breaks, at least one, are found again in their joined text. -/
theorem splitCell_join {texts : List String} (hne : texts ≠ [])
    (h : ∀ text ∈ texts, '\n' ∉ text.toList) : splitCell (join "\n" texts) = texts := by
  have hne' : texts.map String.toList ≠ [] := by simpa using hne
  have h' : ∀ piece ∈ texts.map String.toList, '\n' ∉ piece := by
    intro piece hp
    obtain ⟨text, ht, rfl⟩ := List.mem_map.1 hp
    exact h text ht
  have hsep : "\n".toList = ['\n'] := rfl
  rw [splitCell, pieces, join, String.toList_ofList, hsep, splitOn_joinWith hne' h']
  simp

/-- Checks a cell that is not left out, and gives its elements. -/
def checkCell (resolver : Resolver) (row column type : String) (kind : ColumnKind)
    (isArray : Bool) (cell : String) : Except Fault (List String) :=
  if cell = "" then .error (.row (.emptyCell column row))
  else
    let values := splitCell cell
    if !isArray && decide (1 < values.length) then .error (.row (.unexpectedArray column row))
    else
      match kind with
      | .primitive =>
        match Primitive.ofName? type with
        | none => .error (.notPrimitive type)
        | some p =>
          match p.areValid values with
          | .ok true => .ok values
          | .ok false => .error (.row (.mismatch column row))
          | .error fault => .error (.numeral fault)
      | .enumeration =>
        match resolver.members? type with
        | none => .error (.row (.mismatch column row))
        | some members =>
          if values.all members.contains then .ok values
          else .error (.row (.mismatch column row))
      | _ => .ok values

end SheetCompiler
