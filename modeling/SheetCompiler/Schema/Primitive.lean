import SheetCompiler.Number.Decimal
import SheetCompiler.Number.Numeral
import SheetCompiler.Text.LowerCase
import SheetCompiler.Text.Quoted

/-!
# Primitive types

The six types whose cells hold a value of their own. `isValid` decides which texts a cell may hold,
`convert` gives the value of a text, and `Scalar.literal` writes a value into a script.
-/

namespace SheetCompiler

open SheetCompiler.Number SheetCompiler.Text

/-- A primitive type. -/
inductive Primitive
  | int
  | long
  | float
  | double
  | bool
  | string
deriving DecidableEq

/-- A value of a primitive type. -/
inductive Scalar
  | integer (value : Int)
  | real (value : Binary64)
  | truth (value : Bool)
  | text (value : String)
deriving DecidableEq

namespace Primitive

/-- The name of a type in a sheet. -/
def name : Primitive → String
  | .int => "int"
  | .long => "long"
  | .float => "float"
  | .double => "double"
  | .bool => "bool"
  | .string => "string"

/-- Every primitive type. -/
def all : List Primitive := [.int, .long, .float, .double, .bool, .string]

/-- The type of a name. -/
def ofName? (name : String) : Option Primitive := all.find? fun p => p.name = name

/-- The name of a type's values in a script. -/
def typeName : Primitive → String
  | .int | .long => "int"
  | .float | .double => "float"
  | .bool => "bool"
  | .string => "str"

/-- Whether an integer fits into a count of bits with a sign. -/
def fits (bits : Nat) (i : Int) : Bool :=
  let bound : Int := Nat.pow 2 (bits - 1)
  decide (-bound ≤ i) && decide (i < bound)

/-- Whether a text is an integer numeral whose value fits. A numeral with too many digits has no
value. -/
def isValidInteger (bits : Nat) (text : String) : Except NumeralFault Bool :=
  if matchesInteger text.toList then (readInteger text).map (fits bits) else .ok false

/-- Whether a text is a truth value. -/
def isTruth (text : String) : Bool := isCaselessly "true" text || isCaselessly "false" text

/-- Whether a cell of a type may hold a text. -/
def isValid : Primitive → String → Except NumeralFault Bool
  | .int, text => isValidInteger 32 text
  | .long, text => isValidInteger 64 text
  | .float, text | .double, text => .ok (matchesReal text.toList)
  | .bool, text => .ok (isTruth text)
  | .string, _ => .ok true

/-- Whether a cell of a type may hold each of the texts; the first that it may not hold decides. -/
def areValid (p : Primitive) : List String → Except NumeralFault Bool
  | [] => .ok true
  | text :: texts => do
    if ← p.isValid text then p.areValid texts else return false

/-- The value of a text. -/
def convert : Primitive → String → Except NumeralFault Scalar
  | .int, text | .long, text => (readInteger text).map .integer
  | .float, text | .double, text => (readReal text).map .real
  | .bool, text => .ok (.truth (isCaselessly "true" text))
  | .string, text => .ok (.text text)

theorem ofName?_name (p : Primitive) : ofName? p.name = some p := by
  cases p <;> decide

theorem name_of_ofName? {name : String} {p : Primitive} (h : ofName? name = some p) :
    p.name = name := by
  have := List.find?_some h
  simpa using this

end Primitive

/-- A value as it stands in a script. -/
def Scalar.literal : Scalar → String
  | .integer i => toString i
  | .real x => x.text
  | .truth b => if b then "True" else "False"
  | .text s => quoted s

end SheetCompiler
