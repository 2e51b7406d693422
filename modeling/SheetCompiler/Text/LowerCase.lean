import SheetCompiler.Text.Cased
import SheetCompiler.Text.LowerCase.Table

/-!
# Lower case

`lower` maps every letter of a text to its lower-case form; a sigma at the end of a word takes the
form it has there. `isCaselessly` compares a text with an ASCII word whatever the case of its
letters.
-/

namespace SheetCompiler.Text

/-- The lower-case form of a letter in a run. -/
def LetterRun.lower? (run : LetterRun) (n : Nat) : Option Nat :=
  if run.first ≤ n ∧ n ≤ run.last ∧ (n - run.first) % run.step = 0 then
    some (run.target + (n - run.first))
  else none

/-- The lower-case form of a character; other characters stay as they are. -/
def lowerChar (c : Char) : List Char :=
  if isAscii c then [c.toLower]
  else if c.toNat = 0x130 then ['i', Char.ofNat 0x307]
  else
    match lowerRuns.findSome? fun run => run.lower? c.toNat with
    | some n => [Char.ofNat n]
    | none => [c]

/-- The capital sigma. -/
def capitalSigma : Char := Char.ofNat 0x3a3

/-- The small sigma at the end of a word. -/
def finalSigma : Char := Char.ofNat 0x3c2

/-- The lower-case form of a text behind what has been read, which is given in reverse. -/
def lowerFrom (read : List Char) : List Char → List Char
  | [] => []
  | c :: cs =>
    (if c = capitalSigma ∧ endsWord read cs then [finalSigma] else lowerChar c)
      ++ lowerFrom (c :: read) cs

/-- The text with every letter in lower case. -/
def lower (text : String) : String := String.ofList (lowerFrom [] text.toList)

/-- Whether `text` is `word`, a word of lower-case ASCII letters, in letters of any case. No
letter beyond ASCII has a lower-case form in the words that are compared so. -/
def isCaselessly (word text : String) : Bool :=
  decide (text.toList.map Char.toLower = word.toList)

end SheetCompiler.Text
