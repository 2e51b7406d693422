import SheetCompiler.Json.Basic
import SheetCompiler.Number.Decimal
import SheetCompiler.Text.Hex

/-!
# Writing JSON

The layout of every JSON file: one item or member a line, two blanks deeper than its surroundings,
empty lists and objects on one line. Characters beyond ASCII stand as they are; quotes, backslashes
and controls are escaped. A half of a surrogate pair cannot stand in a file; here its escape stands
for it, as for no character, and `printedPoints` gives the code points that are meant.
-/

namespace SheetCompiler.Json

open SheetCompiler.Text SheetCompiler.Number

/-- A character as it stands in a string. -/
def escapeChar (c : Char) : List Char :=
  if c = '"' then ['\\', '"']
  else if c = '\\' then ['\\', '\\']
  else if c = '\n' then ['\\', 'n']
  else if c = '\r' then ['\\', 'r']
  else if c = '\t' then ['\\', 't']
  else if c = '\x08' then ['\\', 'b']
  else if c = '\x0c' then ['\\', 'f']
  else if c.toNat < 0x20 then '\\' :: 'u' :: writeHex 4 c.toNat
  else [c]

/-- A string between its quotes. -/
def writeString (text : String) : List Char :=
  '"' :: text.toList.flatMap escapeChar ++ ['"']

/-- A code point as it stands in a string. -/
def escapePoint : Point → List Char
  | .char c => escapeChar c
  | .half place => Point.escape place

/-- A string of code points between its quotes. -/
def writePoints (points : List Point) : List Char := '"' :: points.flatMap escapePoint ++ ['"']

/-- The name of a member between its quotes. -/
def writeName : MemberName → List Char
  | .whole name => writeString name
  | .broken name => writePoints name.points

/-- A real number; infinities and no number by name. -/
def writeReal : Binary64 → List Char
  | .finite negative mantissa exponent =>
    (Binary64.text (.finite negative mantissa exponent)).toList
  | .infinite false => "Infinity".toList
  | .infinite true => "-Infinity".toList
  | .nan => "NaN".toList

/-- A line break and the blanks at the beginning of a line at a depth. -/
def newline (depth : Nat) : List Char := '\n' :: List.replicate (2 * depth) ' '

mutual

/-- A value that stands at a depth. -/
def write (depth : Nat) : Json → List Char
  | .null => "null".toList
  | .truth true => "true".toList
  | .truth false => "false".toList
  | .integer i => (toString i).toList
  | .real x => writeReal x
  | .text s => writeString s
  | .list [] => "[]".toList
  | .list (item :: items) =>
    '[' :: newline (depth + 1) ++ write (depth + 1) item ++ writeItems (depth + 1) items
      ++ newline depth ++ [']']
  | .object [] => ['\x7b', '\x7d']
  | .object ((name, value) :: members) =>
    '\x7b' :: newline (depth + 1) ++ writeString name ++ ": ".toList ++ write (depth + 1) value
      ++ writeMembers (depth + 1) members ++ newline depth ++ ['\x7d']
  | .broken b => writePoints b.points
  | .brokenObject [] => ['\x7b', '\x7d']
  | .brokenObject ((name, value) :: members) =>
    '\x7b' :: newline (depth + 1) ++ writeName name ++ ": ".toList ++ write (depth + 1) value
      ++ writeNamed (depth + 1) members ++ newline depth ++ ['\x7d']

/-- The items of a list behind the first. -/
def writeItems (depth : Nat) : List Json → List Char
  | [] => []
  | item :: items => ',' :: newline depth ++ write depth item ++ writeItems depth items

/-- The members of an object behind the first. -/
def writeMembers (depth : Nat) : List (String × Json) → List Char
  | [] => []
  | (name, value) :: members =>
    ',' :: newline depth ++ writeString name ++ ": ".toList ++ write depth value
      ++ writeMembers depth members

/-- The members of an object behind the first, of whatever names. -/
def writeNamed (depth : Nat) : List (MemberName × Json) → List Char
  | [] => []
  | (name, value) :: members =>
    ',' :: newline depth ++ writeName name ++ ": ".toList ++ write depth value
      ++ writeNamed depth members

end

/-- The text of a file that holds a value. -/
def print (value : Json) : String := String.ofList (write 0 value ++ ['\n'])

/-- The code points that a printed text means: the escape of a half is that half. -/
def pointsOf : List Char → List Point
  | '\\' :: 'u' :: cs =>
    match readHex 4 cs with
    | some (unit, _) =>
      match half? unit with
      | some place => .half place :: pointsOf (cs.drop 4)
      | none => .char '\\' :: .char 'u' :: pointsOf cs
    | none => .char '\\' :: .char 'u' :: pointsOf cs
  | '\\' :: c :: cs => .char '\\' :: .char c :: pointsOf cs
  | c :: cs => .char c :: pointsOf cs
  | [] => []
termination_by cs => cs.length
decreasing_by all_goals simp only [List.length_cons, List.length_drop]; omega

/-- The code points of a printed value. -/
def printedPoints (value : Json) : List Point := pointsOf (print value).toList

end SheetCompiler.Json
