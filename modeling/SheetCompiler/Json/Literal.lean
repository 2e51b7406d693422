import SheetCompiler.Json.Basic
import SheetCompiler.Number.Decimal
import SheetCompiler.Text.Basic
import SheetCompiler.Text.Quoted

/-!
# Literals of values

How a value reads in a script or a message: texts between quotes, truth values and the absent value
capitalised, lists in brackets and objects in braces on one line.
-/

namespace SheetCompiler.Json

open SheetCompiler.Text SheetCompiler.Number

/-- The literal of a truth value. -/
def truthLiteral (b : Bool) : String := if b then "True" else "False"

mutual

/-- The literal of a value. -/
def literal : Json → String
  | .null => "None"
  | .truth b => truthLiteral b
  | .integer i => toString i
  | .real x => x.text
  | .text s => quoted s
  | .list items => "[" ++ join ", " (itemLiterals items) ++ "]"
  | .object members => "\x7b" ++ join ", " (memberLiterals members) ++ "\x7d"
  | .broken b => b.quoted
  | .brokenObject members => "\x7b" ++ join ", " (namedLiterals members) ++ "\x7d"

/-- The literals of the items of a list. -/
def itemLiterals : List Json → List String
  | [] => []
  | item :: items => literal item :: itemLiterals items

/-- The literals of the members of an object. -/
def memberLiterals : List (String × Json) → List String
  | [] => []
  | (name, value) :: members => (quoted name ++ ": " ++ literal value) :: memberLiterals members

/-- The literals of members of whatever names. -/
def namedLiterals : List (MemberName × Json) → List String
  | [] => []
  | (.whole name, value) :: members =>
    (quoted name ++ ": " ++ literal value) :: namedLiterals members
  | (.broken name, value) :: members =>
    (name.quoted ++ ": " ++ literal value) :: namedLiterals members

end

/-- How a value reads in a message: a text without its quotes, anything else as its literal. -/
def display : Json → String
  | .text s => s
  | .broken b => b.shown
  | value => literal value

end SheetCompiler.Json
