import SheetCompiler.Schema.Primitive
import SheetCompiler.Text.Basic
import SheetCompiler.Text.Blank
import SheetCompiler.Text.Identifier

/-!
# Type tokens

The text of a header cell without blanks and array marks, and the kinds of types that such a token
names: a primitive type, a reference to another table (`TbItem`), an enumeration of an Enum table
(`EmItem.Grade`), or an opaque value (`Va…`). A token stands in a generated script between quotes,
so it has words, points and nothing else.
-/

namespace SheetCompiler

open SheetCompiler.Text

/-- The mark of an array type. -/
def arrayMark : String := "[]"

/-- The text without its array marks, from left to right. -/
def dropMarks : List Char → List Char
  | '[' :: ']' :: cs => dropMarks cs
  | c :: cs => c :: dropMarks cs
  | [] => []

/-- A header text without blanks and array marks. -/
def normalize (text : String) : String := String.ofList (dropMarks (dropBlanks text.toList))

/-- Whether a type cell ends in the array mark. -/
def endsInMark (text : String) : Bool := arrayMark.toList.isSuffixOf (dropBlanks text.toList)

/-- What the cells of a column hold. -/
inductive ColumnKind
  | primitive
  | tableReference
  | enumeration
  | variable
  | invalid
deriving DecidableEq

/-- The name of a kind. -/
def ColumnKind.name : ColumnKind → String
  | .primitive => "Primitive"
  | .tableReference => "TableReference"
  | .enumeration => "Enumeration"
  | .variable => "Variable"
  | .invalid => "Invalid"

/-- The kind of a name. -/
def ColumnKind.ofName? (name : String) : Option ColumnKind :=
  [ColumnKind.primitive, .tableReference, .enumeration, .variable, .invalid].find?
    fun kind => kind.name = name

namespace TypeToken

/-- Whether a part of a token is a word that begins with an ASCII letter or an underscore. -/
def isPart : List Char → Bool
  | [] => false
  | c :: cs => isAscii c && (c.isAlpha || decide (c = '_')) && cs.all isWord

/-- Whether a text has the form of a token: parts with points between them. -/
def isWellFormed (token : String) : Bool := (splitOn '.' token.toList).all isPart

/-- Whether a token names a primitive type. -/
def isPrimitive (token : String) : Bool := (Primitive.ofName? token).isSome

/-- The kind of type that a token names. -/
def classify (token : String) : ColumnKind :=
  if isPrimitive token then .primitive
  else if !isWellFormed token then .invalid
  else if startsWith "Tb" token then .tableReference
  else if startsWith "Em" token then .enumeration
  else if startsWith "Va" token then .variable
  else .invalid

/-- What stands behind the two letters that mark the kind. -/
def unmarked (token : String) : String := String.ofList (token.toList.drop 2)

/-- The table that a reference names. -/
def referencedTable (token : String) : String := unmarked token

/-- The container and the path in it that an enumeration token names; the path is empty where the
token has no point. -/
def splitContainer (token : String) : String × String :=
  let container := token.toList.takeWhile (· ≠ '.')
  (String.ofList container, String.ofList ((token.toList.drop container.length).drop 1))

end TypeToken

end SheetCompiler
