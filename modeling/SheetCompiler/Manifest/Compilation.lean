import SheetCompiler.Failure
import SheetCompiler.Json.Order
import SheetCompiler.Json.Printer

/-!
# Compilations

The outcome of compiling a table, as the manifest records it: the table's kind and name, the
workbook it came from, and the files written for it. A manifest that was not written here may record
other values than texts; they are kept as they are.
-/

namespace SheetCompiler

/-- A compiled table. The kind need not be one of a table. -/
structure Compilation where
  kind : Json
  name : Json
  source : Json
  outputs : List Json

namespace Compilation

/-- The compilation of a table. -/
def ofTexts (kind name source : String) (outputs : List String) : Compilation :=
  ⟨.text kind, .text name, .text source, outputs.map .text⟩

/-- The value that records a compilation. -/
def toJson (c : Compilation) : Json := .object [
  ("kind", c.kind), ("name", c.name), ("sourcePath", c.source), ("outputPaths", .list c.outputs)]

/-- The value of a member, which must be there. -/
def member (members : Pairs Json) (name : String) : Except Failure Json :=
  match members.get? name with
  | some value => .ok value
  | none => .error (.key (.text name))

/-- The files that a value names, one by one. A value that says nothing names none. -/
def outputsOf (value : Json) : Except Failure (List Json) :=
  if value.isVoid then .ok []
  else
    match value.elements? with
    | some items => .ok items
    | none => .error .shape

/-- The compilation that members record. -/
def ofMembers (members : Pairs Json) : Except Failure Compilation := do
  let kind ← member members "kind"
  let name ← member members "name"
  let source ← member members "sourcePath"
  let outputs ← outputsOf ((members.get? "outputPaths").getD .null)
  return ⟨kind, name, source, outputs⟩

/-- The compilation that a value records. -/
def ofJson (value : Json) : Except Failure Compilation :=
  match value.members? with
  | some members => ofMembers members
  | none => .error .shape

/-- How a compilation reads in a list. -/
def display (c : Compilation) : String := c.kind.display ++ ": " ++ c.name.display

/-- Whether a compilation is recorded as that of a kind. -/
def isOf (c : Compilation) (kind : String) : Bool :=
  match c.kind with
  | .text label => decide (label = kind)
  | _ => false

@[simp] theorem outputsOf_list (items : List Json) : outputsOf (.list items) = .ok items := by
  cases items <;> simp [outputsOf, Json.isVoid, Json.elements?]

/-- A recorded compilation is read back. -/
@[simp] theorem ofJson_toJson (c : Compilation) : ofJson c.toJson = .ok c := by
  simp [ofJson, Json.members?, ofMembers, toJson, member, Pairs.get?, bind, Except.bind, pure,
    Except.pure]

@[simp] theorem isOf_ofTexts (kind name source : String) (outputs : List String) (other : String) :
    (ofTexts kind name source outputs).isOf other = decide (kind = other) := rfl

end Compilation

end SheetCompiler
