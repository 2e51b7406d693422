import SheetCompiler.Json.Basic
import SheetCompiler.Number.Numeral
import SheetCompiler.Text.Basic
import SheetCompiler.Text.Compatible
import SheetCompiler.Text.Identifier
import SheetCompiler.Text.Quoted

/-!
# Tokens of scripts

Script text as tokens. Names are taken in their compatible form; a reserved word is one only as it
is written. What stands behind a number sign is a comment. Besides the numbers and texts that are
written into scripts, all others that a line may hold are told from what is none.
-/

namespace SheetCompiler.Script

open SheetCompiler.Text SheetCompiler.Number

/-- A token. A `sign` is made of several marks. An `other` one is a constant whose value no
generated script has, and may be a text of a kind; a `formatted` one is a text with values in it. -/
inductive Token
  | name (text : String)
  | word (text : String)
  | constant (value : Json)
  | other (isText : Bool)
  | formatted
  | mark (c : Char)
  | sign (text : String)

/-- The characters that are tokens of their own. -/
def marks : List Char := [
  '@', '(', ')', '[', ']', ':', '=', ',', '-', '.', '+', '*', '/', '%', '<', '>', '&', '|', '^',
  '~', '\x7b', '\x7d', ';']

/-- The tokens of several marks, longer ones first. -/
def signs : List String := [
  "**=", "//=", "<<=", ">>=", "...", "==", "!=", "<=", ">=", "->", ":=", "+=", "-=", "*=", "/=",
  "%=", "@=", "&=", "|=", "^=", "**", "//", "<<", ">>", "<>"]

/-! ## Numbers -/

/-- The exponent at the beginning of a text, as written, and what follows it. -/
def splitExponent : List Char → List Char × List Char
  | c :: cs =>
    if c = 'e' ∨ c = 'E' then
      let sign := cs.takeWhile fun d => decide (d = '+') || decide (d = '-')
      let body := cs.drop sign.length
      let digits := body.takeWhile Char.isDigit
      if digits.isEmpty then ([], c :: cs)
      else (c :: sign ++ digits, body.drop digits.length)
    else ([], c :: cs)
  | [] => ([], [])

/-- Whether digits make an integer: a zero begins no other number than zero. -/
def isInteger (digits : List Char) : Bool :=
  decide (digits.head? ≠ some '0') || digits.all fun c => decide (c = '0')

/-- The value of a number of digits, a point and an exponent, and what follows it. -/
def plainNumber? (cs : List Char) : Option (Json × List Char) :=
  let whole := cs.takeWhile Char.isDigit
  let rest := cs.drop whole.length
  let part := match rest with
    | '.' :: tail => '.' :: tail.takeWhile Char.isDigit
    | _ => []
  let (exponent, rest) := splitExponent (rest.drop part.length)
  if part.isEmpty && exponent.isEmpty then
    match readInteger (String.ofList whole) with
    | .ok i => if isInteger whole then some (.integer i, rest) else none
    | .error _ => none
  else
    match readReal (String.ofList (whole ++ part ++ exponent)) with
    | .ok x => some (.real x, rest)
    | .error _ => none

/-- The base that a letter behind a zero stands for. -/
def baseOf? (c : Char) : Option Nat :=
  if c = 'x' ∨ c = 'X' then some 16
  else if c = 'o' ∨ c = 'O' then some 8
  else if c = 'b' ∨ c = 'B' then some 2
  else none

/-- Whether digits of a base have single underscores among them at most. -/
def isJoined (base : Nat) : List Char → Bool
  | [] => true
  | '_' :: c :: cs => (hexValue? c).any (· < base) && isJoined base cs
  | c :: cs => (hexValue? c).any (· < base) && isJoined base cs

/-- The words that may follow a number without a blank. -/
def wordsBehindNumbers : List (List Char) :=
  ["and", "else", "for", "if", "in", "is", "not", "or"].map String.toList

/-- Whether a number may end in front of a text. -/
def mayEnd (rest : List Char) : Bool :=
  match rest with
  | [] => true
  | c :: _ => !continuesIdentifier c || wordsBehindNumbers.any fun word => word.isPrefixOf rest

/-- The token of a number that has underscores, a base or an imaginary part, and what follows it. -/
def foreignNumber? (cs : List Char) : Option (Token × List Char) :=
  let isPart (c : Char) : Bool := c.isDigit || decide (c = '_')
  let base := match cs with
    | '0' :: c :: _ => baseOf? c
    | _ => none
  match base with
  | some base =>
    let digits := (cs.drop 2).takeWhile continuesIdentifier
    let value := (digits.filter (· ≠ '_')).foldl (fun n c => base * n + (hexValue? c).getD 0) 0
    if !digits.isEmpty && isJoined base digits then
      some (.constant (.integer value), (cs.drop 2).drop digits.length)
    else none
  | none =>
    let body := cs.takeWhile fun c => isPart c || decide (c = '.')
    let (exponent, rest) := splitExponent (cs.drop body.length)
    let digits := body.filter (· ≠ '_')
    let isImaginary := rest.head? = some 'j' ∨ rest.head? = some 'J'
    let rest := if isImaginary then rest.drop 1 else rest
    let parts := splitOn '.' body
    let areJoined := parts.all fun part => isJoined 10 part && decide (part.head? ≠ some '_')
    if parts.length ≤ 2 ∧ areJoined ∧ mayEnd rest then
      if isImaginary then some (.other false, rest)
      else (plainNumber? (digits ++ exponent)).map fun (value, _) => (.constant value, rest)
    else none

/-- The token of a number and what follows it. -/
def number? (cs : List Char) : Option (Token × List Char) :=
  match plainNumber? cs with
  | some (value, rest) =>
    if rest.head?.any continuesIdentifier then foreignNumber? cs
    else some (.constant value, rest)
  | none => foreignNumber? cs

/-! ## Texts -/

/-- The quotes that open a text, one or three of a kind, and what follows them. -/
def opening? : List Char → Option (List Char × List Char)
  | [] => none
  | c :: cs =>
    if c = '"' ∨ c = '\x27' then
      if [c, c].isPrefixOf cs then some ([c, c, c], cs.drop 2) else some ([c], cs)
    else none

/-- Cuts a text at the quotes that close it. What stands behind a backslash closes nothing; a text
between single quotes ends on its line. -/
def splitText (close : List Char) : List Char → Option (List Char × List Char)
  | [] => none
  | '\\' :: c :: cs => (splitText close cs).map fun (text, rest) => ('\\' :: c :: text, rest)
  | c :: cs =>
    if close.isPrefixOf (c :: cs) then some ([], cs.drop (close.length - 1))
    else if c = '\n' ∧ close.length = 1 then none
    else (splitText close cs).map fun (text, rest) => (c :: text, rest)

/-- The characters that letters stand for behind a backslash and that are not written so. -/
def rareEscapes : List (Char × Char) := [('a', '\x07'), ('b', '\x08'), ('f', '\x0c'), ('v', '\x0b')]

/-- Whether a character is an octal digit. -/
def isOctal (c : Char) : Bool := c.isDigit && decide (c < '8')

/-- The text that characters with escapes stand for. A line end behind a backslash is none, and a
backslash in front of what is no escape stands for itself. The fuel bounds the characters. -/
def unescape : Nat → List Char → Option (List Char)
  | 0, _ => none
  | _ + 1, [] => some []
  | fuel + 1, '\\' :: '\n' :: cs => unescape fuel cs
  | fuel + 1, '\\' :: c :: cs =>
    let octal := ((c :: cs).take 3).takeWhile isOctal
    match Quoted.escaped? (c :: cs), rareEscapes.lookup c with
    | some (d, rest), _ => (unescape fuel rest).map (d :: ·)
    | none, some d => (unescape fuel cs).map (d :: ·)
    | none, none =>
      if ['x', 'u', 'U', 'N'].contains c then none
      else if octal.isEmpty then (unescape fuel cs).map fun text => '\\' :: c :: text
      else
        (unescape fuel ((c :: cs).drop octal.length)).map fun text =>
          Char.ofNat (octal.foldl (fun n d => 8 * n + (d.toNat - 48)) 0) :: text
  | fuel + 1, c :: cs => (unescape fuel cs).map (c :: ·)

/-- Reads a text between quotes, and gives what follows it. -/
def text? (cs : List Char) : Option (List Char × List Char) :=
  match opening? cs with
  | none => none
  | some (close, rest) =>
    let found := if close.length = 1 then Quoted.decode cs else none
    match found with
    | some found => some found
    | none => do
      let (body, rest) ← splitText close rest
      return (← unescape (body.length + 1) body, rest)

/-- Whether braces that are not doubled stand around something, and are closed. -/
def areBraced : Option Bool → List Char → Bool
  | none, [] => true
  | some _, [] => false
  | none, '\x7b' :: '\x7b' :: cs | none, '\x7d' :: '\x7d' :: cs => areBraced none cs
  | none, '\x7b' :: cs => areBraced (some false) cs
  | none, '\x7d' :: _ => false
  | none, _ :: cs => areBraced none cs
  | some isFilled, '\x7d' :: cs => isFilled && areBraced none cs
  | some isFilled, c :: cs => areBraced (some (isFilled || decide (c ≠ ' '))) cs

/-- The token of a text behind letters that change its meaning, and what follows it: `r` for one
without escapes, `b` for bytes, and `f` for one with values in braces. -/
def otherText? (before cs : List Char) : Option (Token × List Char) := do
  let before := String.ofList (before.map Char.toLower)
  let (close, rest) ← opening? cs
  let (body, rest) ← splitText close rest
  let value (text : List Char) : Token := .constant (.text (String.ofList text))
  let isRaw := before.toList.contains 'r'
  let meaning ← if isRaw then some body else unescape (body.length + 1) body
  if before = "r" ∨ before = "u" then return (value meaning, rest)
  else if ["b", "br", "rb"].contains before then
    if body.all fun c => c.toNat < 128 then return (.other true, rest) else none
  else if ["f", "fr", "rf"].contains before then
    if !areBraced none body then none
    else if body.any fun c => c = '\x7b' ∨ c = '\x7d' then return (.formatted, rest)
    else return (value meaning, rest)
  else none

/-! ## Texts of scripts -/

/-- The token of a word. -/
def wordToken (cs : List Char) : Token :=
  let text := String.ofList cs
  if text = "True" then .constant (.truth true)
  else if text = "False" then .constant (.truth false)
  else if text = "None" then .constant .null
  else if reservedWords.contains text then .word text
  else .name (compatibleForm text)

/-- The token of a mark or of several, and what follows it. -/
def mark? (cs : List Char) : Option (Token × List Char) :=
  match signs.find? fun s => s.toList.isPrefixOf cs, cs with
  | some s, _ => some (.sign s, cs.drop s.length)
  | none, c :: rest => if marks.contains c then some (.mark c, rest) else none
  | none, [] => none

/-- The token at the beginning of a text that does not begin with a blank, and what follows it. -/
def token? : List Char → Option (Token × List Char)
  | [] => none
  | c :: cs =>
    if c = '"' ∨ c = '\x27' then
      (text? (c :: cs)).map fun (text, rest) => (.constant (.text (String.ofList text)), rest)
    else if c.isDigit || (decide (c = '.') && cs.head?.any Char.isDigit) then number? (c :: cs)
    else if startsIdentifier c then
      let body := cs.takeWhile continuesIdentifier
      let rest := cs.drop body.length
      match otherText? (c :: body) rest with
      | some found => some found
      | none => some (wordToken (c :: body), rest)
    else mark? (c :: cs)

/-- Whether a character separates tokens. -/
def isSpace (c : Char) : Bool := decide (c = ' ') || decide (c = '\t') || decide (c = '\x0c')

/-- How many brackets are open behind a token, by how many are in front of it. -/
def openBehind (opened : Nat) : Token → Nat
  | .mark c =>
    if ['(', '[', '\x7b'].contains c then opened + 1
    else if [')', ']', '\x7d'].contains c then opened - 1
    else opened
  | _ => opened

/-- The tokens of a text within open brackets. It goes on behind the end of a line within brackets,
and behind a backslash. The fuel bounds its length. -/
def tokensFrom : Nat → Nat → List Char → Option (List Token)
  | 0, _, _ => none
  | fuel + 1, opened, cs =>
    match cs.dropWhile isSpace with
    | [] => some []
    | '\n' :: cs => if opened = 0 then none else tokensFrom fuel opened cs
    | '\\' :: '\n' :: cs => tokensFrom fuel opened cs
    | '#' :: cs => tokensFrom fuel opened (cs.dropWhile (· ≠ '\n'))
    | cs => do
      let (token, rest) ← token? cs
      return token :: (← tokensFrom fuel (openBehind opened token) rest)

/-- The tokens of a line, or of several that belong together. -/
def tokens (text : List Char) : Option (List Token) := tokensFrom (text.length + 1) 0 text

end SheetCompiler.Script
