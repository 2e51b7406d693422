import SheetCompiler.Json.Equality
import SheetCompiler.Pairs
import SheetCompiler.Schema.Column

/-!
# Declarations of scripts

What a generated script declares: record types with their fields, containers of enumerations, and
groups of constants. Main statements: `canonical?_eq_self` (a member whose value no other one has
stands for itself) and `canonical?_ofNames` (so do members that have their names as values).
-/

namespace SheetCompiler

/-! ## Special names of classes -/

/-- The name under which a class knows what it is called, behind the classes around it. -/
def qualifiedName : String := "__qualname__"

/-- The name under which a class knows the name of its script. -/
def moduleName : String := "__module__"

/-- The name of the text that describes a class. -/
def descriptionName : String := "__doc__"

/-- The name of the list of the attributes that a class keeps room for. -/
def slotsName : String := "__slots__"

/-- A name in the body of a class that is not for a script to give something. -/
def cellName : String := "__classcell__"

/-- What every class has under certain names, whatever its body says: numbers, nothing, or something
that is no value. -/
def innate : Pairs (Option Json) := [
  ("__name__", none), ("__dict__", none), ("__class__", none), ("__mro__", none),
  ("__bases__", none), ("__base__", none), ("__basicsize__", some (.integer 24)),
  ("__itemsize__", some (.integer 0)), ("__flags__", some (.integer 22032)),
  ("__weakrefoffset__", some (.integer 16)), ("__dictoffset__", some (.integer (-48))),
  ("__text_signature__", some .null)]

/-- Whether a name stands for what every class has. -/
def isInnate (name : String) : Bool := innate.names.contains name

/-! ## Record types -/

/-- A field of a record type: its name, its type, whether it holds an array, and whether what it
holds are the IDs of another table's records. -/
structure Field where
  name : String
  type : String
  isArray : Bool
  isReference : Bool
deriving DecidableEq

/-- The name under which a record stores a field. -/
def Field.key (f : Field) : String :=
  if f.isReference then Column.referenceMark ++ f.name else f.name

/-- A record type: its name, its fields, and the values that all of its records share. -/
structure RecordType where
  name : String
  fields : List Field
  shared : Pairs Json

/-- The field of a name. -/
def RecordType.field? (r : RecordType) (name : String) : Option Field :=
  r.fields.find? fun f => decide (f.name = name)

/-- Whether a record type has a field of a name. -/
def RecordType.hasField (r : RecordType) (name : String) : Bool := (r.field? name).isSome

/-- The names that no field can have. -/
def unusableFields : List String := [slotsName, qualifiedName, cellName]

/-- The record type of fields, the last one of each name in the place of the first. -/
def RecordType.ofFields? (name : String) (fields : List Field) : Option RecordType :=
  let fields := Pairs.ofList (fields.map fun f => (f.name, f))
  if fields.names.any unusableFields.contains then none
  else some ⟨name, fields.map Prod.snd, [(descriptionName, .null)]⟩

/-! ## Enumerations -/

/-- An enumeration: its name behind that of its container, and its members with their values, in
order. -/
structure Enumeration where
  name : String
  members : Pairs Json

namespace Enumeration

/-- The enumeration of a name whose members have their names as values. -/
def ofNames (name : String) (members : List String) : Enumeration :=
  ⟨name, members.map fun member => (member, .text member)⟩

/-- The name of an enumeration without that of its container. -/
def ownName (e : Enumeration) : String :=
  String.ofList (e.name.toList.reverse.takeWhile (· ≠ '.')).reverse

/-- The first member with a value. -/
def firstOf? (members : Pairs Json) (value : Json) : Option (String × Json) :=
  members.find? fun member => member.2.equal value

/-- The member that a name stands for, with its value. Members of one value are one member, which is
known by the first of their names. -/
def canonical? (e : Enumeration) (name : String) : Option (String × Json) :=
  (e.members.get? name).map fun value => (firstOf? e.members value).getD (name, value)

theorem canonical?_of_mem {e : Enumeration} {name : String} {value : Json}
    (h : e.members.get? name = some value) :
    e.canonical? name = some ((firstOf? e.members value).getD (name, value)) := by
  simp [canonical?, h]

theorem canonical?_eq_none {e : Enumeration} {name : String} (h : e.members.get? name = none) :
    e.canonical? name = none := by
  simp [canonical?, h]

theorem firstOf?_eq_self {members : Pairs Json} {name : String} {value : Json}
    (h : members.get? name = some value) (hself : value.equal value = true)
    (hne : ∀ other ∈ members, other.2.equal value = true → other.1 = name) :
    firstOf? members value = some (name, value) := by
  induction members with
  | nil => simp at h
  | cons member rest ih =>
    obtain ⟨k, v⟩ := member
    rw [Pairs.get?_cons] at h
    split at h
    · rename_i hk
      simp only [Option.some.injEq] at h
      subst hk h
      simp [firstOf?, hself]
    · rename_i hk
      have hv : v.equal value = false := by
        cases hv : v.equal value with
        | false => rfl
        | true => exact absurd (hne (k, v) (by simp) hv) hk
      rw [firstOf?, List.find?_cons_of_neg (by simp [hv])]
      exact ih h fun other ho => hne other (by simp [ho])

/-- A member whose value no other one has stands for itself. -/
theorem canonical?_eq_self {e : Enumeration} {name : String} {value : Json}
    (h : e.members.get? name = some value) (hself : value.equal value = true)
    (hne : ∀ other ∈ e.members, other.2.equal value = true → other.1 = name) :
    e.canonical? name = some (name, value) := by
  rw [canonical?_of_mem h, firstOf?_eq_self h hself hne, Option.getD_some]

theorem get?_map_text {members : List String} {name : String} (h : name ∈ members) :
    Pairs.get? (members.map fun member => (member, Json.text member)) name =
      some (.text name) := by
  induction members with
  | nil => simp at h
  | cons m rest ih =>
    rw [List.map_cons, Pairs.get?_cons]
    split
    · rename_i hm; rw [hm]
    · rename_i hm
      rcases List.mem_cons.1 h with h | h
      · exact absurd h.symm hm
      · exact ih h

/-- Members that have their names as values stand for themselves. -/
theorem canonical?_ofNames {name member : String} {members : List String} (h : member ∈ members) :
    (ofNames name members).canonical? member = some (member, .text member) := by
  refine canonical?_eq_self (get?_map_text h) (by simp [Json.equal_text]) ?_
  intro other ho he
  simp only [ofNames, List.mem_map] at ho
  obtain ⟨m, -, rfl⟩ := ho
  simpa [Json.equal_text] using he

end Enumeration

/-! ## Groups -/

/-- A container of enumerations by name. -/
structure Container where
  name : String
  enums : Pairs Enumeration

/-- A group of constants: its name, its values by name, and the names that have a type, in order. -/
structure ConstantGroup where
  name : String
  values : Pairs Json
  typed : List String

end SheetCompiler
