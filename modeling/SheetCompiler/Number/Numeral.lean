import SheetCompiler.Number.Binary64
import SheetCompiler.Text.Blank
import SheetCompiler.Text.Digit

/-!
# Reading numerals

Two grammars of numerals. `matchesInteger` and `matchesReal` are the strict ones a table cell must
follow. `readInteger` and `readReal` convert a text and accept more: padding at both ends, single
underscores between digits, and for real numbers the names of infinity and of no number. Decimal
digits may be of any script in all of them.
-/

namespace SheetCompiler.Number

open SheetCompiler.Text

/-- Why a text is no number. An integer is read in a base. -/
inductive NumeralFault
  | notInteger (base : Nat) (text : String)
  | notReal (text : String)
  | tooManyDigits (count : Nat)
deriving DecidableEq

/-- An integer numeral may not have more digits than this. -/
def digitLimit : Nat := 4300

/-- A sign at the beginning of a numeral: whether it is a minus, and what follows. -/
def splitSign : List Char → Bool × List Char
  | '+' :: cs => (false, cs)
  | '-' :: cs => (true, cs)
  | cs => (false, cs)

/-- The integer of a sign and a magnitude. -/
def signed (negative : Bool) (n : Nat) : Int := if negative then -(n : Int) else (n : Int)

/-! ## Numerals of table cells -/

/-- A sign, then one or more decimal digits, and nothing else. -/
def matchesInteger (cs : List Char) : Bool :=
  let digits := (splitSign cs).2
  !digits.isEmpty && digits.all isDecimal

/-- What may follow the digits of a real numeral: nothing, or a mark and an integer. -/
def matchesExponent : List Char → Bool
  | [] => true
  | c :: cs => (decide (c = 'e') || decide (c = 'E')) && matchesInteger cs

/-- A sign, digits with at most one point among or around them, and perhaps an exponent. -/
def matchesReal (cs : List Char) : Bool :=
  let body := (splitSign cs).2
  let whole := body.takeWhile isDecimal
  match body.dropWhile isDecimal with
  | '.' :: rest =>
    let part := rest.takeWhile isDecimal
    (!whole.isEmpty || !part.isEmpty) && matchesExponent (rest.dropWhile isDecimal)
  | rest => !whole.isEmpty && matchesExponent rest

/-! ## Conversion -/

/-- Whether no underscore stands at an end of the text or beside another one. -/
def underscoresSeparate : List Char → Bool
  | [] => true
  | '_' :: _ => false
  | [_] => true
  | _ :: '_' :: c :: cs => decide (c ≠ '_') && underscoresSeparate (c :: cs)
  | _ :: cs => underscoresSeparate cs

/-- The integer a text denotes. A numeral with too many digits is refused for their number before
what follows it is looked at. -/
def readInteger (text : String) : Except NumeralFault Int :=
  let (negative, body) := splitSign (text.toList.dropWhile isPadding)
  let isNumeral (c : Char) : Bool := isDecimal c || decide (c = '_')
  let numeral := body.takeWhile isNumeral
  let digits := numeral.filter isDecimal
  if digits.isEmpty || !underscoresSeparate numeral then .error (.notInteger 10 text)
  else if digitLimit < digits.length then .error (.tooManyDigits digits.length)
  else if (body.dropWhile isNumeral).all isPadding then
    .ok (signed negative (valueOfDigits digits))
  else .error (.notInteger 10 text)

/-- The exponent that a mark and an integer denote, and zero for nothing. -/
def readExponent? : List Char → Option Int
  | [] => some 0
  | c :: cs =>
    if (c = 'e' ∨ c = 'E') ∧ matchesInteger cs then
      some (signed (splitSign cs).1 (valueOfDigits (splitSign cs).2))
    else none

/-- The number of a real numeral without padding and underscores. -/
def readDecimal? (cs : List Char) : Option Binary64 :=
  if matchesReal cs then
    let (negative, body) := splitSign cs
    let whole := body.takeWhile isDecimal
    let (part, rest) := match body.dropWhile isDecimal with
      | '.' :: rest => (rest.takeWhile isDecimal, rest.dropWhile isDecimal)
      | rest => ([], rest)
    (readExponent? rest).map fun e =>
      .ofDecimal negative (valueOfDigits (whole ++ part)) (e - part.length)
  else none

/-- Whether every underscore stands between two decimal digits. -/
def underscoresJoinDigits : List Char → Bool
  | [] => true
  | '_' :: _ => false
  | [_] => true
  | a :: '_' :: c :: cs => isDecimal a && isDecimal c && underscoresJoinDigits (c :: cs)
  | _ :: cs => underscoresJoinDigits cs

/-- The number a text denotes. -/
def readReal (text : String) : Except NumeralFault Binary64 :=
  let body := trimPadding text.toList
  let (negative, word) := splitSign body
  let word := String.ofList (word.map Char.toLower)
  if word = "inf" ∨ word = "infinity" then .ok (.infinite negative)
  else if word = "nan" then .ok .nan
  else if underscoresJoinDigits body then
    match readDecimal? (body.filter (· ≠ '_')) with
    | some x => .ok x
    | none => .error (.notReal text)
  else .error (.notReal text)

end SheetCompiler.Number
