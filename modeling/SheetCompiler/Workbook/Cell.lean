import SheetCompiler.Number.Decimal
import SheetCompiler.Number.Numeral
import SheetCompiler.Text.Lines
import SheetCompiler.Workbook.DateText

/-!
# Workbook cells

The values of cells, how they read as text, and what a workbook keeps of a value that is put into
it: numbers to sixteen significant digits, dates and times by serial number, formulas without their
results.
-/

namespace SheetCompiler

open SheetCompiler.Number

/-- The value of a cell. A time may be that of a time zone. -/
inductive CellValue
  | empty
  | truth (value : Bool)
  | integer (value : Int)
  | real (value : Binary64)
  | text (value : String)
  | dateTime (date : Date) (time : Time) (zone : Option Zone)
  | date (value : Date)
  | time (value : Time) (zone : Option Zone)

namespace CellValue

/-- Every carriage return with a line feed behind it becomes a line feed. -/
def joinLineEnds : List Char → List Char
  | '\r' :: '\n' :: cs => '\n' :: joinLineEnds cs
  | c :: cs => c :: joinLineEnds cs
  | [] => []

/-- The text of a time zone behind a time. -/
def zoneText (zone : Option Zone) : String := (zone.map Zone.text).getD ""

/-- A cell as it reads in the sheet: whole numbers have no point, truth values are lower-case words,
and lines end in a line feed. -/
def toText : CellValue → String
  | .empty => ""
  | .truth true => "true"
  | .truth false => "false"
  | .integer i => toString i
  | .real x =>
    match x.toInt? with
    | some i => toString i
    | none => x.text
  | .text s => String.ofList (joinLineEnds s.toList)
  | .dateTime d t zone => d.text ++ "T" ++ t.text ++ zoneText zone
  | .date d => d.text
  | .time t zone => t.text ++ zoneText zone

/-! ## What a workbook keeps -/

/-- The longest text of a cell. -/
def textLimit : Nat := 32767

/-- Whether a cell's text may hold a character: no control but tab and the line ends. -/
def isStorable (c : Char) : Bool :=
  decide (0x20 ≤ c.toNat) || decide (c = '\t') || decide (c = '\n') || decide (c = '\r')

/-- The number that sixteen significant digits give back: whole where they show neither point nor
exponent. -/
def storedNumber (x : Binary64) : CellValue :=
  let digits := x.text16
  if digits.toList.any fun c => decide (c = '.') || decide (c = 'e') then
    match readReal digits with
    | .ok y => .real y
    | .error _ => .empty
  else
    match readInteger digits with
    | .ok i => .integer i
    | .error _ => .empty

/-- A text that begins with an equals sign and goes on is a formula. -/
def isFormula : List Char → Bool
  | '=' :: _ :: _ => true
  | _ => false

/-- What a cell shows whose serial number lies beyond the calendar. -/
def badValue : String := "#VALUE!"

/-- What a serial number gives back. -/
def storedMoment (x : Binary64) : CellValue :=
  match readReal x.text16 with
  | .ok y =>
    match Moment.ofSerial y with
    | some (.time t) => .time t none
    | some (.dateTime d t) => .dateTime d t none
    | none => .text badValue
  | .error _ => .empty

/-- What a workbook keeps of a value. Nothing is kept of a formula, of an infinity and of no
number. -/
def stored : CellValue → CellValue
  | .empty => .empty
  | .truth b => .truth b
  | .integer i => storedNumber (Binary64.ofInt i)
  | .real (.finite negative mantissa exponent) => storedNumber (.finite negative mantissa exponent)
  | .real _ => .empty
  | .text s =>
    if isFormula s.toList then .empty
    else .text (String.ofList (Text.lineFeeds (s.toList.take textLimit)))
  | .dateTime d t _ => storedMoment (serialOf d t)
  | .date d => storedMoment (serialOf d ⟨0, 0, 0, 0⟩)
  | .time t _ => storedMoment t.serial

/-- The text of a value that a workbook refuses: one with a character that no cell may hold. -/
def refusedText? : CellValue → Option String
  | .text s =>
    let kept := s.toList.take textLimit
    if kept.all isStorable then none else some (String.ofList kept)
  | _ => none

end CellValue

end SheetCompiler
