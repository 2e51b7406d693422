import SheetCompiler.Number.Binary64

/-!
# Dates and times of workbook cells

A workbook keeps a date as the count of days since the end of 1899 and a time as the fraction of
a day. Two dates are counted as their neighbours: a workbook believes in the 29th of February 1900.
-/

namespace SheetCompiler

open SheetCompiler.Number

/-- A day of the calendar. -/
structure Date where
  year : Nat
  month : Nat
  day : Nat
deriving DecidableEq

/-- A time of day, to the millionth of a second. -/
structure Time where
  hour : Nat
  minute : Nat
  second : Nat
  micro : Nat
deriving DecidableEq

/-- The digits of a number, with zeros in front up to a width. -/
def padded (width n : Nat) : String :=
  let digits := toString n
  String.ofList (List.replicate (width - digits.length) '0') ++ digits

namespace Date

/-- The text of a day. -/
def text (d : Date) : String := padded 4 d.year ++ "-" ++ padded 2 d.month ++ "-" ++ padded 2 d.day

/-- The count of days from the first of March of the year zero. Years begin in March here, so that a
leap day is the last day of its year. -/
def toDays (d : Date) : Int :=
  let year : Int := if d.month ≤ 2 then (d.year : Int) - 1 else d.year
  let month : Int := if d.month ≤ 2 then (d.month : Int) + 9 else (d.month : Int) - 3
  -- the lengths of the months from March on are the steps of a line of slope 153 / 5
  365 * year + year / 4 - year / 100 + year / 400 + (153 * month + 2) / 5 + d.day - 1

/-- The day with a count of days from the first of March of the year zero. -/
def ofDays (days : Int) : Date :=
  -- the calendar repeats after 400 years, which have 146097 days
  let era := days / 146097
  let rest := days % 146097
  let yearOfEra := (rest - rest / 1460 + rest / 36524 - rest / 146096) / 365
  let dayOfYear := rest - (365 * yearOfEra + yearOfEra / 4 - yearOfEra / 100)
  let month := (5 * dayOfYear + 2) / 153
  let day := dayOfYear - (153 * month + 2) / 5 + 1
  let year := yearOfEra + 400 * era
  if month < 10 then ⟨year.toNat, (month + 3).toNat, day.toNat⟩
  else ⟨(year + 1).toNat, (month - 9).toNat, day.toNat⟩

/-- How many days the month of a day has. -/
def lengthOfMonth (d : Date) : Nat :=
  let isLeap := d.year % 4 = 0 ∧ (d.year % 100 ≠ 0 ∨ d.year % 400 = 0)
  if d.month = 2 then (if isLeap then 29 else 28)
  else if [4, 6, 9, 11].contains d.month then 30 else 31

end Date

namespace Time

/-- The text of a time; millionths of a second only where there are any. -/
def text (t : Time) : String :=
  padded 2 t.hour ++ ":" ++ padded 2 t.minute ++ ":" ++ padded 2 t.second
    ++ (if t.micro = 0 then "" else "." ++ padded 6 t.micro)

/-- The time a count of milliseconds after midnight. -/
def ofMillis (millis : Nat) : Time :=
  ⟨millis / 3600000, millis / 60000 % 60, millis / 1000 % 60, millis % 1000 * 1000⟩

end Time

/-- The natural number that ASCII digits denote. -/
def digits? (cs : List Char) : Option Nat :=
  if !cs.isEmpty && cs.all Char.isDigit then
    some (cs.foldl (fun n c => 10 * n + (c.toNat - 48)) 0)
  else none

/-! ## Serial numbers -/

/-- The day from which a workbook counts. -/
def epoch : Int := Date.toDays ⟨1899, 12, 30⟩

/-- A ratio rounded to a binary number, as a ratio. -/
def rounded (num den : Nat) : Nat × Nat :=
  match Binary64.ofRatio false num den with
  | .finite _ mantissa exponent => Binary64.magnitude mantissa exponent
  | _ => (0, 1)

/-- The fraction of a day that a time is, rounded as a workbook does: the millionths to seconds, all
seconds together, and the seconds to days. -/
def Time.share (t : Time) : Nat × Nat :=
  let part := rounded t.micro 1000000
  let seconds := rounded ((t.hour * 3600 + t.minute * 60 + t.second) * part.2 + part.1) part.2
  rounded seconds.1 (seconds.2 * 86400)

/-- The serial number of a time. -/
def Time.serial (t : Time) : Binary64 := Binary64.ofRatio false t.share.1 t.share.2

/-- The serial number of a day and a time. -/
def serialOf (d : Date) (t : Time) : Binary64 :=
  let days := d.toDays - epoch
  let days := if 0 < days ∧ days ≤ 60 then days - 1 else days
  let total : Int := days * t.share.2 + t.share.1
  Binary64.ofRatio (decide (total < 0)) total.natAbs t.share.2

/-- What a serial number stands for: a time of day, or a day and a time. -/
inductive Moment
  | time (t : Time)
  | dateTime (d : Date) (t : Time)

/-- A fraction of a day in milliseconds. The fraction, its product with the seconds of a day and
that with a thousand are each rounded to a binary number, and the last to a whole number. -/
def millisOfDay (num den : Nat) : Nat :=
  let fraction := rounded num den
  let seconds := rounded (fraction.1 * 86400) fraction.2
  let millis := rounded (seconds.1 * 1000) seconds.2
  roundQuotient millis.1 millis.2

/-- The moment of a serial number, to the nearest millisecond, unless it lies behind the last day of
the year 9999. -/
def Moment.ofSerial : Binary64 → Option Moment
  | .finite negative mantissa exponent =>
    let (num, den) := Binary64.magnitude mantissa exponent
    let value : Int := if negative then -(num : Int) else (num : Int)
    let day : Int := value / (den : Int)
    let millis : Nat := millisOfDay (value % (den : Int)).toNat den
    if day = 0 ∧ millis < 86400000 then some (.time (Time.ofMillis millis))
    else
      let day : Int := if 0 < value ∧ value < 60 * (den : Int) then day + 1 else day
      let days : Int := epoch + day + (millis / 86400000 : Nat)
      if days ≤ Date.toDays ⟨9999, 12, 31⟩ then
        some (.dateTime (Date.ofDays days) (Time.ofMillis (millis % 86400000)))
      else none
  | _ => none

end SheetCompiler
