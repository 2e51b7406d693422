import SheetCompiler.Text.Basic
import SheetCompiler.Text.Quoted
import SheetCompiler.Workbook.Calendar

/-!
# Days and times as text

A day reads `year-month-day` and a time `hour:minute:second`, with a fraction of a second and the
distance of a time zone behind it. Reading refuses a text of another form, and then a day or a time
that does not exist; a time may leave out its end.
-/

namespace SheetCompiler

open SheetCompiler.Text

/-! ## What does not exist -/

/-- Why there is no such day, no such time of day, no time zone at such a distance, or neither day
nor time in a text. -/
inductive CalendarFault
  | year
  | month
  | day
  | hour
  | minute
  | second
  | zone (seconds : Int)
  | form (text : String)
deriving DecidableEq

/-- How a span of a day or more reads: its whole days, and the seconds behind them. -/
def spanText (seconds : Int) : String :=
  let rest := seconds % 86400
  "datetime.timedelta(days=" ++ toString (seconds / 86400)
    ++ (if rest = 0 then "" else ", seconds=" ++ toString rest) ++ ")"

/-- The wording of a day or time that does not exist. -/
def CalendarFault.message : CalendarFault → String
  | .year => "year 0 is out of range"
  | .month => "month must be in 1..12"
  | .day => "day is out of range for month"
  | .hour => "hour must be in 0..23"
  | .minute => "minute must be in 0..59"
  | .second => "second must be in 0..59"
  | .zone seconds =>
    "offset must be a timedelta strictly between -timedelta(hours=24) and timedelta(hours=24), not "
      ++ spanText seconds ++ "."
  | .form text => "Invalid isoformat string: " ++ quoted text

/-- Why a day does not exist. -/
def Date.fault? (d : Date) : Option CalendarFault :=
  if d.year = 0 then some .year
  else if d.month < 1 ∨ 12 < d.month then some .month
  else if d.day < 1 ∨ d.lengthOfMonth < d.day then some .day
  else none

/-- Why a time of day does not exist. -/
def Time.fault? (t : Time) : Option CalendarFault :=
  if 23 < t.hour then some .hour
  else if 59 < t.minute then some .minute
  else if 59 < t.second then some .second
  else none

/-! ## Time zones -/

/-- The distance of a time zone from universal time. -/
structure Zone where
  seconds : Int
deriving DecidableEq

namespace Zone

/-- The text of a distance; seconds only where there are any. -/
def text (z : Zone) : String :=
  let n := z.seconds.natAbs
  (if z.seconds < 0 then "-" else "+") ++ padded 2 (n / 3600) ++ ":" ++ padded 2 (n / 60 % 60)
    ++ (if n % 60 = 0 then "" else ":" ++ padded 2 (n % 60))

/-- Why there is no time zone at a distance: it is a day away or more. -/
def fault? (z : Zone) : Option CalendarFault :=
  if z.seconds.natAbs < 86400 then none else some (.zone z.seconds)

end Zone

/-! ## Reading -/

/-- The natural number of exactly `count` digits. -/
def digitsOf? (count : Nat) (cs : List Char) : Option Nat :=
  if cs.length = count then digits? cs else none

/-- The millionths in a fraction, of which digits beyond the sixth are dropped. -/
def millionths? (cs : List Char) : Option Nat :=
  if cs.all Char.isDigit ∧ !cs.isEmpty then digits? ((cs ++ List.replicate 6 '0').take 6) else none

/-- The time of a text without a time zone. -/
def clock? (cs : List Char) : Option Time := do
  let isMark (c : Char) : Bool := decide (c = '.') || decide (c = ',')
  let micro ← match cs.dropWhile (!isMark ·) with
    | [] => some 0
    | _ :: fraction => millionths? fraction
  match (splitOn ':' (cs.takeWhile (!isMark ·))).mapM (digitsOf? 2) with
  | some [h] => some ⟨h, 0, 0, micro⟩
  | some [h, m] => some ⟨h, m, 0, micro⟩
  | some [h, m, s] => some ⟨h, m, s, micro⟩
  | _ => none

/-- The distance of a time zone, behind its sign. -/
def distance? (cs : List Char) : Option Int := do
  let t ← clock? cs
  if t.micro = 0 then some (3600 * t.hour + 60 * t.minute + t.second) else none

/-- The time zone of a text, which may be empty. -/
def zone? : List Char → Option (Option Zone)
  | [] => some none
  | ['Z'] => some (some ⟨0⟩)
  | '+' :: cs => (distance? cs).map fun n => some ⟨n⟩
  | '-' :: cs => (distance? cs).map fun n => some ⟨-n⟩
  | _ => none

/-- Whether a time zone begins with a character. -/
def startsZone (c : Char) : Bool := decide (c = '+') || decide (c = '-') || decide (c = 'Z')

/-- The time of a text, and its time zone if it has one. -/
def timeOf? (cs : List Char) : Option (Time × Option Zone) := do
  let t ← clock? (cs.takeWhile (!startsZone ·))
  return (t, ← zone? (cs.dropWhile (!startsZone ·)))

/-- The day of a text. -/
def dateOf? (cs : List Char) : Option Date :=
  match splitOn '-' cs with
  | [y, m, d] => do return ⟨← digitsOf? 4 y, ← digitsOf? 2 m, ← digitsOf? 2 d⟩
  | _ => none

/-- What a text has the form of, unless it does not exist. -/
def existing {α : Type} (text : String) (found : Option α) (fault? : α → Option CalendarFault) :
    Except CalendarFault α :=
  match found with
  | none => .error (.form text)
  | some a =>
    match fault? a with
    | none => .ok a
    | some fault => .error fault

/-- Reads a day. -/
def readDate (text : String) : Except CalendarFault Date :=
  existing text (dateOf? text.toList) Date.fault?

/-- Reads a time of day; a letter may lead it. -/
def readTime (text : String) : Except CalendarFault (Time × Option Zone) :=
  let cs := match text.toList with
    | 'T' :: cs => cs
    | cs => cs
  existing text (timeOf? cs) fun (t, zone) => (zone.bind Zone.fault?).or t.fault?

/-- Reads a day with a time of day behind any character; without a time it is midnight. -/
def readDateTime (text : String) : Except CalendarFault (Date × Time × Option Zone) :=
  let cs := text.toList
  let time := if cs.length = 10 then some (⟨0, 0, 0, 0⟩, none) else timeOf? (cs.drop 11)
  let found : Option (Date × Time × Option Zone) := do return (← dateOf? (cs.take 10), ← time)
  existing text found fun (d, t, zone) => ((zone.bind Zone.fault?).or d.fault?).or t.fault?

end SheetCompiler
