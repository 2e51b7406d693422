import SheetCompiler.Json.Basic

/-!
# Equality of values

Two values are equal if they hold the same: numbers by what they stand for, truth values like one
and zero, lists item by item, and objects by name, whatever the order of their members.
-/

namespace SheetCompiler.Json

open SheetCompiler.Number

/-- The integer that a value is equal to, if it is equal to one. -/
def integer? : Json → Option Int
  | .truth b => some (if b then 1 else 0)
  | .integer i => some i
  | .real x => x.toInt?
  | _ => none

/-- Whether two values without items or members are equal. -/
def equalScalar (a b : Json) : Bool :=
  match integer? a, integer? b with
  | some i, some j => decide (i = j)
  | none, none =>
    match a, b with
    | .null, .null => true
    | .real .nan, .real .nan => false
    | .real x, .real y => decide (x = y)
    | .text s, .text t => decide (s = t)
    | .broken s, .broken t => decide (s = t)
    | _, _ => false
  | _, _ => false

mutual

/-- Whether two values are equal. -/
def equal : Json → Json → Bool
  | .list items, .list others => equalItems items others
  | .object members, .object others =>
    decide (members.length = others.length) && equalMembers members others
  | .brokenObject members, .brokenObject others =>
    decide (members.length = others.length) && equalNamed members others
  | a, b => equalScalar a b
termination_by structural a => a

/-- Whether two lists are equal item by item. -/
def equalItems : List Json → List Json → Bool
  | [], [] => true
  | a :: items, b :: others => equal a b && equalItems items others
  | _, _ => false
termination_by structural items => items

/-- Whether every member has an equal one among others. -/
def equalMembers : List (String × Json) → List (String × Json) → Bool
  | [], _ => true
  | (name, value) :: rest, others =>
    (match Pairs.get? others name with
      | some other => equal value other
      | none => false)
      && equalMembers rest others
termination_by structural members => members

/-- Whether every member, of whatever name, has an equal one among others. -/
def equalNamed : List (MemberName × Json) → List (MemberName × Json) → Bool
  | [], _ => true
  | (name, value) :: rest, others =>
    (match others.lookup name with
      | some other => equal value other
      | none => false)
      && equalNamed rest others
termination_by structural members => members

end

/-- Whether a value may be the key of a map: lists and objects may not. -/
def isKey : Json → Bool
  | .list _ | .object _ | .brokenObject _ => false
  | _ => true

/-- Whether two values are the same key of a map: if they are equal, or neither is a number, which is
not even equal to itself. -/
def isSameKey : Json → Json → Bool
  | .real .nan, .real .nan => true
  | a, b => equal a b

theorem equal_text (s t : String) : equal (.text s) (.text t) = decide (s = t) := by
  simp [equal, equalScalar, integer?]

theorem isSameKey_text (s t : String) : isSameKey (.text s) (.text t) = decide (s = t) := by
  simp [isSameKey, equal_text]

end SheetCompiler.Json
