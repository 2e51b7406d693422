import SheetCompiler.Number.Binary64
import SheetCompiler.Pairs
import SheetCompiler.Text.Point

/-!
# JSON values

The values that data files and the manifest hold. Members of an object keep their order, and their
names are distinct in every value that the reader gives. A text in which a half of a surrogate pair
stands alone, and an object with such a name, are values too, but no file can hold them as they are:
a value without any is whole.
-/

namespace SheetCompiler

open SheetCompiler.Number SheetCompiler.Text

/-- The name of a member of an object. -/
inductive MemberName
  | whole (text : String)
  | broken (text : BrokenText)
deriving DecidableEq

/-- The text that a name is, if it is whole. -/
def MemberName.whole? : MemberName → Option String
  | whole text => some text
  | broken _ => none

/-- A JSON value. -/
inductive Json
  | null
  | truth (value : Bool)
  | integer (value : Int)
  | real (value : Binary64)
  | text (value : String)
  | list (items : List Json)
  | object (members : List (String × Json))
  | broken (text : BrokenText)
  | brokenObject (members : List (MemberName × Json))
deriving Inhabited

/-- The name that code points make. -/
def MemberName.ofPoints (points : List Point) : MemberName :=
  if h : points.any Point.isHalf = true then .broken ⟨points, h⟩
  else .whole (String.ofList (points.filterMap Point.char?))

theorem MemberName.ofPoints_toList (name : String) :
    ofPoints (name.toList.map .char) = .whole name := by
  rw [ofPoints, dif_neg (by rw [any_isHalf_char]; exact Bool.false_ne_true), filterMap_char,
    String.ofList_toList]

namespace Json

/-- The text that code points make. -/
def ofPoints (points : List Point) : Json :=
  if h : points.any Point.isHalf = true then .broken ⟨points, h⟩
  else .text (String.ofList (points.filterMap Point.char?))

/-- The members that have whole names. -/
def wholeMembers (members : List (MemberName × Json)) : Pairs Json :=
  members.filterMap fun (name, value) => name.whole?.map fun name => (name, value)

/-- Gives a name a value: in its place if the name is there, else at the end. -/
def putMember (name : MemberName) (value : Json) :
    List (MemberName × Json) → List (MemberName × Json)
  | [] => [(name, value)]
  | (other, old) :: rest =>
    if other = name then (other, value) :: rest else (other, old) :: putMember name value rest

/-- The object of members that come one after the other: the last value of a name counts, in the
place of the first. -/
def ofMembers (members : List (MemberName × Json)) : Json :=
  if members.all fun member => member.1.whole?.isSome then
    .object (Pairs.ofList (wholeMembers members))
  else .brokenObject (members.foldl (fun acc member => putMember member.1 member.2 acc) [])

/-- What a value that has members holds under whole names. -/
def members? : Json → Option (Pairs Json)
  | .object members => some members
  | .brokenObject members => some (wholeMembers members)
  | _ => none

mutual

/-- Whether no text and no name in a value holds a half. -/
def isWhole : Json → Bool
  | .list items => areWhole items
  | .object members => areWholeMembers members
  | .broken _ | .brokenObject _ => false
  | _ => true

/-- Whether values are whole. -/
def areWhole : List Json → Bool
  | [] => true
  | item :: items => isWhole item && areWhole items

/-- Whether the values of members are whole. -/
def areWholeMembers : List (String × Json) → Bool
  | [] => true
  | (_, value) :: members => isWhole value && areWholeMembers members

end

/-- The list of the values. -/
def ofTexts (texts : List String) : Json := .list (texts.map .text)

/-- The text of a value that is one. -/
def text? : Json → Option String
  | .text s => some s
  | _ => none

/-- The code points of a value that is a text, whole or not. -/
def points? : Json → Option (List Point)
  | .text s => some (s.toList.map .char)
  | .broken b => some b.points
  | _ => none

/-- Whether a value is a text, whole or not. -/
def IsString (value : Json) : Prop := value.points?.isSome = true

/-- The value that a name is. -/
def nameOf : MemberName → Json
  | .whole name => .text name
  | .broken name => .broken name

/-- What one comes to when going through a value: the items of a list, the characters of a text, the
names of an object. Nothing else can be gone through. -/
def elements? : Json → Option (List Json)
  | .list items => some items
  | .text s => some (s.toList.map fun c => .text (String.singleton c))
  | .object members => some (members.map fun member => .text member.1)
  | .broken b => some (b.points.map fun p => ofPoints [p])
  | .brokenObject members => some (members.map fun member => nameOf member.1)
  | _ => none

/-- Whether a value says nothing: nothing, false, zero and empty values do. -/
def isVoid : Json → Bool
  | .null | .truth false | .text "" | .list [] | .object [] => true
  | .integer i => decide (i = 0)
  | .real (.finite _ mantissa _) => decide (mantissa = 0)
  | _ => false

@[simp] theorem ofPoints_char (cs : List Char) :
    ofPoints (cs.map .char) = .text (String.ofList cs) := by
  rw [ofPoints, dif_neg (by rw [any_isHalf_char]; exact Bool.false_ne_true), filterMap_char]

@[simp] theorem wholeMembers_whole (members : Pairs Json) :
    wholeMembers (members.map fun m => (.whole m.1, m.2)) = members := by
  rw [wholeMembers, List.filterMap_map]
  exact List.filterMap_some

theorem ofMembers_whole (members : Pairs Json) :
    ofMembers (members.map fun m => (.whole m.1, m.2)) = .object (Pairs.ofList members) := by
  rw [ofMembers, if_pos (by simp [MemberName.whole?]), wholeMembers_whole]

/-- A text is what its code points make. -/
theorem eq_ofPoints {value : Json} {points : List Point} (h : value.points? = some points) :
    value = ofPoints points := by
  cases value with
  | text s =>
    cases h
    rw [ofPoints_char, String.ofList_toList]
  | broken b =>
    cases h
    rw [ofPoints, dif_pos b.broken]
  | _ => cases h

theorem areWhole_iff {items : List Json} :
    areWhole items = true ↔ ∀ item ∈ items, item.isWhole = true := by
  induction items with
  | nil => simp [areWhole]
  | cons item items ih => simp [areWhole, ih]

theorem areWholeMembers_iff {members : List (String × Json)} :
    areWholeMembers members = true ↔ ∀ member ∈ members, member.2.isWhole = true := by
  induction members with
  | nil => simp [areWholeMembers]
  | cons member members ih => simp [areWholeMembers, ih]

end Json

end SheetCompiler
