import SheetCompiler.Text.Basic

/-!
# Lines

Lines end in a line feed, in a carriage return, or in both; a reader of texts sees a line feed in
each case.
-/

namespace SheetCompiler.Text

/-- A line end of any kind becomes a line feed. -/
def lineFeeds : List Char → List Char
  | '\r' :: '\n' :: cs => '\n' :: lineFeeds cs
  | '\r' :: cs => '\n' :: lineFeeds cs
  | c :: cs => c :: lineFeeds cs
  | [] => []

/-- The text with a line feed at the end of every line. -/
def withLineFeeds (text : String) : String := String.ofList (lineFeeds text.toList)

/-- The lines of a text, without their ends. -/
def lines (text : String) : List (List Char) := splitOn '\n' (lineFeeds text.toList)

end SheetCompiler.Text
