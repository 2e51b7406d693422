import SheetCompiler.Json.Basic
import SheetCompiler.Number.Numeral
import SheetCompiler.Text.Hex

/-!
# Reading JSON

A reader for whole texts. It accepts blanks around every token and the names `NaN`, `Infinity` and
`-Infinity`; controls inside strings are refused; of a repeated member the last value counts, in
the place of the first. A half of a surrogate pair that stands alone stays one.
-/

namespace SheetCompiler.Json

open SheetCompiler.Text SheetCompiler.Number

/-- Why a text is not read. -/
inductive ReadFault
  | malformed
  | numeral (fault : NumeralFault)

/-- Whether a character may stand between tokens. -/
def isSpace (c : Char) : Bool :=
  decide (c = ' ') || decide (c = '\n') || decide (c = '\t') || decide (c = '\r')

/-- The text behind the blanks at its beginning. -/
def skip (cs : List Char) : List Char := cs.dropWhile isSpace

/-! ## Strings -/

/-- The code point of a code unit read behind its mark; the first half of a pair takes the second
half with it. -/
def unitPoint (unit : Nat) (rest : List Char) : Point × List Char :=
  match half? unit with
  | none => (.char (Char.ofNat unit), rest)
  | some place =>
    match rest with
    | '\\' :: 'u' :: tail =>
      match readHex 4 tail with
      | some (low, rest') =>
        if unit ≤ 0xdbff ∧ 0xdc00 ≤ low ∧ low ≤ 0xdfff then
          (.char (Char.ofNat (0x10000 + (unit - 0xd800) * 0x400 + (low - 0xdc00))), rest')
        else (.half place, rest)
      | none => (.half place, rest)
    | _ => (.half place, rest)

/-- The code point that an escape stands for, read behind its backslash, and what follows it. -/
def escaped? : List Char → Option (Point × List Char)
  | [] => none
  | c :: cs =>
    if c = '"' ∨ c = '\\' ∨ c = '/' then some (.char c, cs)
    else if c = 'n' then some (.char '\n', cs)
    else if c = 'r' then some (.char '\r', cs)
    else if c = 't' then some (.char '\t', cs)
    else if c = 'b' then some (.char '\x08', cs)
    else if c = 'f' then some (.char '\x0c', cs)
    else if c = 'u' then (readHex 4 cs).map fun (unit, rest) => unitPoint unit rest
    else none

theorem length_unitPoint (unit : Nat) (rest : List Char) :
    (unitPoint unit rest).2.length ≤ rest.length := by
  unfold unitPoint
  split
  · exact Nat.le_refl _
  · split
    · rename_i tail
      split
      · rename_i low rest' h
        have := length_of_readHex h
        split <;> simp only [List.length_cons] <;> omega
      · simp
    · simp

theorem length_of_escaped? {cs rest : List Char} {p : Point} (h : escaped? cs = some (p, rest)) :
    rest.length < cs.length := by
  cases cs with
  | nil => simp [escaped?] at h
  | cons d tail =>
    simp only [escaped?] at h
    simp only [List.length_cons]
    (repeat' split at h) <;>
      first
      | (simp only [Option.some.injEq, Prod.mk.injEq] at h; rw [← h.2]; omega)
      | (simp only [Option.map_eq_some_iff] at h
         obtain ⟨⟨unit, after⟩, hr, hu⟩ := h
         have h1 := length_of_readHex hr
         have h2 := length_unitPoint unit after
         simp only at hu
         rw [hu] at h2
         simp only at h2
         omega)
      | simp at h

/-- Reads a string behind its opening quote, and gives what follows the closing one. -/
def readString : List Char → Option (List Point × List Char)
  | [] => none
  | c :: cs =>
    if c = '"' then some ([], cs)
    else if c.toNat < 0x20 then none
    else if c = '\\' then
      match h : escaped? cs with
      | some (p, rest) =>
        have : rest.length < cs.length + 1 := Nat.lt_succ_of_lt (length_of_escaped? h)
        (readString rest).map fun (body, rest) => (p :: body, rest)
      | none => none
    else (readString cs).map fun (body, rest) => (.char c :: body, rest)
termination_by cs => cs.length

/-! ## Numbers -/

/-- Whether a character is an ASCII digit. -/
def isDigit (c : Char) : Bool := decide ('0' ≤ c) && decide (c ≤ '9')

/-- The digits of an integer part, which begins with a zero only if it is one, and the rest. -/
def wholeDigits : List Char → List Char × List Char
  | '0' :: cs => (['0'], cs)
  | cs => (cs.takeWhile isDigit, cs.dropWhile isDigit)

/-- The digits behind a point, if there are any, and the rest. -/
def pointDigits (cs : List Char) : List Char × List Char :=
  match cs with
  | '.' :: rest =>
    let digits := rest.takeWhile isDigit
    if digits.isEmpty then ([], cs) else (digits, rest.dropWhile isDigit)
  | _ => ([], cs)

/-- The exponent behind its mark, if there is one, and the rest. -/
def exponentDigits (cs : List Char) : Option Int × List Char :=
  match cs with
  | c :: rest =>
    if c = 'e' ∨ c = 'E' then
      let (negative, body) := splitSign rest
      let digits := body.takeWhile isDigit
      if digits.isEmpty then (none, cs)
      else (some (signed negative (valueOfDigits digits)), body.dropWhile isDigit)
    else (none, cs)
  | [] => (none, cs)

/-- Reads a number and gives what follows it. -/
def readNumber (cs : List Char) : Except ReadFault (Json × List Char) :=
  let (negative, body) : Bool × List Char := match cs with
    | '-' :: rest => (true, rest)
    | _ => (false, cs)
  let (whole, rest) := wholeDigits body
  if whole.isEmpty then .error .malformed
  else
    let (part, rest) := pointDigits rest
    let (mark, rest) := exponentDigits rest
    if part.isEmpty && mark.isNone then
      if digitLimit < whole.length then .error (.numeral (.tooManyDigits whole.length))
      else .ok (.integer (signed negative (valueOfDigits whole)), rest)
    else
      let exponent : Int := mark.getD 0 - part.length
      .ok (.real (.ofDecimal negative (valueOfDigits (whole ++ part)) exponent), rest)

/-! ## Values -/

/-- What follows `word` at the beginning of a text. -/
def dropWord? (word : String) (cs : List Char) : Option (List Char) :=
  if word.toList.isPrefixOf cs then some (cs.drop word.toList.length) else none

/-- The names of values, and the values. -/
def namedValues : List (String × Json) := [
  ("null", .null), ("true", .truth true), ("false", .truth false), ("NaN", .real .nan),
  ("Infinity", .real (.infinite false)), ("-Infinity", .real (.infinite true))]

/-- Reads the name of a value and gives what follows it. -/
def readNamed? (cs : List Char) : Option (Json × List Char) :=
  namedValues.findSome? fun (word, value) => (dropWord? word cs).map fun rest => (value, rest)

mutual

/-- Reads a value at the beginning of a text, and gives what follows it. The fuel bounds the
tokens read. -/
def readValue : Nat → List Char → Except ReadFault (Json × List Char)
  | 0, _ => .error .malformed
  | _ + 1, [] => .error .malformed
  | fuel + 1, c :: cs =>
    if c = '"' then
      match readString cs with
      | some (body, rest) => .ok (ofPoints body, rest)
      | none => .error .malformed
    else if c = '[' then
      match skip cs with
      | ']' :: rest => .ok (.list [], rest)
      | body => do
        let (items, rest) ← readItems fuel body
        return (.list items, rest)
    else if c = '\x7b' then
      match skip cs with
      | '\x7d' :: rest => .ok (.object [], rest)
      | body => do
        let (members, rest) ← readMembers fuel body
        return (ofMembers members, rest)
    else
      match readNamed? (c :: cs) with
      | some named => .ok named
      | none => readNumber (c :: cs)

/-- Reads the items of a list up to its closing bracket. -/
def readItems : Nat → List Char → Except ReadFault (List Json × List Char)
  | 0, _ => .error .malformed
  | fuel + 1, cs => do
    let (item, rest) ← readValue fuel cs
    match skip rest with
    | ']' :: rest => return ([item], rest)
    | ',' :: rest =>
      let (items, rest) ← readItems fuel (skip rest)
      return (item :: items, rest)
    | _ => .error .malformed

/-- Reads the members of an object up to its closing brace. -/
def readMembers : Nat → List Char → Except ReadFault (List (MemberName × Json) × List Char)
  | 0, _ => .error .malformed
  | fuel + 1, cs =>
    match cs with
    | '"' :: cs =>
      match readString cs with
      | none => .error .malformed
      | some (name, rest) =>
        match skip rest with
        | ':' :: rest => do
          let (value, rest) ← readValue fuel (skip rest)
          match skip rest with
          | '\x7d' :: rest => return ([(.ofPoints name, value)], rest)
          | ',' :: rest =>
            let (members, rest) ← readMembers fuel (skip rest)
            return ((.ofPoints name, value) :: members, rest)
          | _ => .error .malformed
        | _ => .error .malformed
    | _ => .error .malformed

end

/-- Reads the value that a whole text holds. -/
def read (text : String) : Except ReadFault Json := do
  let cs := skip text.toList
  let (value, rest) ← readValue (2 * cs.length + 1) cs
  if (skip rest).isEmpty then return value else .error .malformed

end SheetCompiler.Json
