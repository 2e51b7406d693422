import SheetCompiler.Failure
import SheetCompiler.Json.Basic
import SheetCompiler.Number.Binary64
import SheetCompiler.Number.Numeral
import SheetCompiler.Text.Hex
import SheetCompiler.Workbook.DateText

/-!
# Plain values of configuration files

What a text without quotes stands for in a configuration file: nothing, a truth value, a real
number, an integer, a date, or itself. Numbers may be written in parts of sixty, as hours and
minutes are. A text can have the form of a number or of a date and be none.
-/

namespace SheetCompiler.Scalar

open SheetCompiler.Text SheetCompiler.Number

/-- The words for nothing. -/
def nullWords : List String := ["", "~", "null", "Null", "NULL"]

/-- The words for truth values. -/
def truthWords : List (String × Bool) := [
  ("yes", true), ("Yes", true), ("YES", true), ("no", false), ("No", false), ("NO", false),
  ("true", true), ("True", true), ("TRUE", true), ("false", false), ("False", false),
  ("FALSE", false), ("on", true), ("On", true), ("ON", true), ("off", false), ("Off", false),
  ("OFF", false)]

/-- The words for infinities and for no number. -/
def realWords : List (String × Binary64) := [
  (".inf", .infinite false), (".Inf", .infinite false), (".INF", .infinite false),
  ("+.inf", .infinite false), ("+.Inf", .infinite false), ("+.INF", .infinite false),
  ("-.inf", .infinite true), ("-.Inf", .infinite true), ("-.INF", .infinite true),
  (".nan", .nan), (".NaN", .nan), (".NAN", .nan)]

/-! ## Digits -/

/-- Whether a character is a digit of a base up to sixteen. -/
def isDigitOf (base : Nat) (c : Char) : Bool :=
  match hexValue? c with
  | some d => decide (d < base)
  | none => false

/-- Whether a text is made of digits of a base and of underscores, and has at least one of them. -/
def isRun (base : Nat) (cs : List Char) : Bool :=
  !cs.isEmpty && cs.all fun c => isDigitOf base c || decide (c = '_')

/-- Whether a text begins with a decimal digit and goes on with digits and underscores. -/
def isWhole (cs : List Char) : Bool := (cs.head?.any Char.isDigit) && isRun 10 cs

/-- A text without its underscores. -/
def bare (cs : List Char) : List Char := cs.filter (· ≠ '_')

/-- The number of a run of digits, which may be made of underscores alone. Only a decimal one may
have too many digits. -/
def valueOfRun (base : Nat) (cs : List Char) : Except NumeralFault Nat :=
  let digits := bare cs
  if digits.isEmpty then .error (.notInteger base "")
  else if base = 10 ∧ digitLimit < digits.length then .error (.tooManyDigits digits.length)
  else .ok (digits.foldl (fun n c => base * n + (hexValue? c).getD 0) 0)

/-- Whether a text is a number below sixty in one or two digits. -/
def isSixtieth (cs : List Char) : Bool :=
  match cs with
  | [c] => c.isDigit
  | [c, d] => c.isDigit && decide (c < '6') && d.isDigit
  | _ => false

/-! ## Integers -/

/-- The magnitude of an integer in parts of sixty. -/
def sixties? (cs : List Char) : Option (Except NumeralFault Nat) :=
  match splitOn ':' cs with
  | [] => none
  | first :: rest =>
    if isWhole first && rest.all isSixtieth then
      some ((first :: rest).foldlM (fun n part => (valueOfRun 10 part).map (60 * n + ·)) 0)
    else none

/-- The magnitude of an integer: binary, hexadecimal, octal, decimal or in parts of sixty. -/
def magnitude? : List Char → Option (Except NumeralFault Nat)
  | ['0'] => some (.ok 0)
  | '0' :: 'b' :: cs => if isRun 2 cs then some (valueOfRun 2 cs) else none
  | '0' :: 'x' :: cs => if isRun 16 cs then some (valueOfRun 16 cs) else none
  | '0' :: cs => if isRun 8 cs then some (valueOfRun 8 ('0' :: cs)) else none
  | cs => sixties? cs

/-- The integer a text has the form of. -/
def integer? (cs : List Char) : Option (Except NumeralFault Int) :=
  (magnitude? (splitSign cs).2).map fun r => r.map (signed (splitSign cs).1)

/-! ## Real numbers -/

/-- Whether a text is nothing, or the exponent of a real number, which has a sign. -/
def isExponent : List Char → Bool
  | [] => true
  | mark :: sign :: digits =>
    (decide (mark = 'e') || decide (mark = 'E')) && (decide (sign = '+') || decide (sign = '-'))
      && !digits.isEmpty && digits.all Char.isDigit
  | _ => false

/-- Whether a text is one of digits and underscores, or empty. -/
def isPart (cs : List Char) : Bool := cs.isEmpty || isRun 10 cs

/-- Whether a text has the form of a real number: it has a point, digits in front of it or behind
it, and perhaps an exponent. Without digits in front of the point it has no sign. -/
def isReal (cs : List Char) : Bool :=
  let body := (splitSign cs).2
  let whole := body.takeWhile (· ≠ '.')
  match body.drop whole.length with
  | _ :: rest =>
    let isBehind (c : Char) : Bool := c.isDigit || decide (c = '_')
    let part := rest.takeWhile isBehind
    (if whole.isEmpty then decide (body = cs) && isWhole part else isWhole whole)
      && isExponent (rest.dropWhile isBehind)
  | [] => false

/-- The sum of real numbers, the last of them once and each other one sixty times as often as the
one behind it. They are added from the last to the first. -/
def sumOfSixties (parts : List Binary64) : Binary64 :=
  (parts.reverse.foldl (fun (sum, weight) part =>
    (sum.addMagnitude (part.scale weight), 60 * weight)) (.zero false, 1)).1

/-- The real number in parts of sixty that a text without a sign has the form of. -/
def sixtiesReal? (body : List Char) : Option Binary64 :=
  let whole := body.takeWhile (· ≠ '.')
  match body.drop whole.length, splitOn ':' whole with
  | _ :: part, first :: next :: rest =>
    if isPart part && isWhole first && (next :: rest).all isSixtieth then
      let texts := (first :: next :: rest).dropLast.map bare
        ++ [((next :: rest).getLastD []) ++ '.' :: bare part]
      (texts.mapM readDecimal?).map sumOfSixties
    else none
  | _, _ => none

/-- The real number a text has the form of. -/
def real? (cs : List Char) : Option Binary64 :=
  if isReal cs then readDecimal? (bare cs)
  else
    let (isNegative, body) := splitSign cs
    (sixtiesReal? body).map fun x => if isNegative then x.neg else x

/-! ## Dates -/

/-- Reads a number of at least `least` and at most two digits. -/
def readShort (least : Nat) (cs : List Char) : Option (Nat × List Char) :=
  let digits := (cs.takeWhile Char.isDigit)
  if least ≤ digits.length ∧ digits.length ≤ 2 then
    (digits? digits).map fun n => (n, cs.drop digits.length)
  else none

/-- Reads a certain character. -/
def readMark (mark : Char) : List Char → Option (List Char)
  | c :: cs => if c = mark then some cs else none
  | [] => none

/-- The distance of a time zone in minutes, without its sign. -/
def readDistance (cs : List Char) : Option Nat :=
  match readShort 1 cs with
  | some (hours, []) => some (60 * hours)
  | some (hours, ':' :: cs) =>
    match readShort 2 cs with
    | some (minutes, []) => some (60 * hours + minutes)
    | _ => none
  | _ => none

/-- The time zone of a text; nothing stands for universal time. -/
def readZone (cs : List Char) : Option Zone :=
  match cs.dropWhile fun c => c = ' ' ∨ c = '\t' with
  | [] => if cs.isEmpty then some ⟨0⟩ else none
  | ['Z'] => some ⟨0⟩
  | '+' :: rest => (readDistance rest).map fun minutes => ⟨60 * minutes⟩
  | '-' :: rest => (readDistance rest).map fun minutes => ⟨-(60 * minutes)⟩
  | _ => none

/-- A day, and perhaps a time of day in a time zone. -/
structure Moment where
  date : Date
  time : Option (Time × Zone)

/-- The moment that a text has the form of. -/
def moment? (cs : List Char) : Option Moment := do
  let year ← digits? (cs.take 4)
  if (cs.take 4).length < 4 then none
  let rest ← readMark '-' (cs.drop 4)
  let (month, rest) ← readShort 1 rest
  let rest ← readMark '-' rest
  let (day, rest) ← readShort 1 rest
  match rest with
  | [] => if cs.length = 10 then return ⟨⟨year, month, day⟩, none⟩ else none
  | mark :: behind =>
    if mark = 'T' ∨ mark = 't' ∨ mark = ' ' ∨ mark = '\t' then
      let behind := if mark.isAlpha then behind
        else behind.dropWhile fun c => c = ' ' ∨ c = '\t'
      let (hour, rest) ← readShort 1 behind
      let (minute, rest) ← readShort 2 (← readMark ':' rest)
      let (second, rest) ← readShort 2 (← readMark ':' rest)
      let rest := match rest with
        | '.' :: rest => rest.dropWhile Char.isDigit
        | rest => rest
      return ⟨⟨year, month, day⟩, some (⟨hour, minute, second, 0⟩, ← readZone rest)⟩
    else none

/-- Why a moment does not exist. -/
def Moment.fault? (m : Moment) : Option CalendarFault :=
  match m.time with
  | none => m.date.fault?
  | some (t, zone) => (zone.fault?.or m.date.fault?).or t.fault?

/-- A date as a value: no text and no number, but an object with its text. -/
def dateValue (cs : List Char) : Json := .object [("date", .text (String.ofList cs))]

/-! ## Values -/

/-- The value that a plain text stands for. -/
def ofPlain (text : String) : Except Failure Json :=
  let cs := text.toList
  if nullWords.contains text then .ok .null
  else
    match truthWords.lookup text, realWords.lookup text, real? cs, integer? cs, moment? cs with
    | some b, _, _, _, _ => .ok (.truth b)
    | none, some x, _, _, _ => .ok (.real x)
    | none, none, some x, _, _ => .ok (.real x)
    | none, none, none, some r, _ => (r.map Json.integer).mapError .numeral
    | none, none, none, none, some m =>
      match m.fault? with
      | some fault => .error (.calendar fault)
      | none => .ok (dateValue cs)
    | none, none, none, none, none => .ok (.text text)

end SheetCompiler.Scalar
