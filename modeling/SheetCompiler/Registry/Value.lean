import SheetCompiler.Json.Literal
import SheetCompiler.Registry.Basic
import SheetCompiler.Schema.Primitive
import SheetCompiler.Table.Kind

/-!
# Values of fields

The typed value of a stored cell: a primitive value, a member of an enumeration, a record of another
table, a list of such values, or the cell as it is stored. Texts convert by their type; a cell that
holds something else than a text converts where its type allows it.

A record is shown by its ID, which is a value like others if there is a field of that name.
-/

namespace SheetCompiler

open SheetCompiler.Number SheetCompiler.Text

/-- The value of a field: a stored one, a member of an enumeration with its own value, the record of
a table that an ID finds, or a list. -/
inductive Value
  | stored (v : Json)
  | member (enumeration : Enumeration) (name : String) (value : Json)
  | record (table : String) (key : Json)
  | list (items : List Value)

namespace Registry

/-- The value of a primitive value. -/
def ofScalar : Scalar → Value
  | .integer i => .stored (.integer i)
  | .real x => .stored (.real x)
  | .truth b => .stored (.truth b)
  | .text s => .stored (.text s)

/-- What the path of an enumeration type leads to. -/
inductive Target
  | enumeration (e : Enumeration)
  | member

/-- Follows a path of names in a container. A member may be the last of them. -/
def followPath (c : Container) : List String → Except Failure Target
  | [name] =>
    match isInnate name, c.enums.get? name with
    | false, some e => .ok (.enumeration e)
    | _, _ => .error .attribute
  | [name, part] =>
    match isInnate name, c.enums.get? name with
    | false, some e =>
      if e.members.names.contains part then .ok .member else .error .attribute
    | _, _ => .error .attribute
  | _ => .error .attribute

/-- What an enumeration type leads to. -/
def target (r : Registry) (type : String) : Except Failure Target :=
  let (container, path) := TypeToken.splitContainer type
  match r.containers.get? container with
  | none => .error (.key (.text container))
  | some c => followPath c (pieces '.' path)

/-- The enumeration of a type. -/
def enumeration (r : Registry) (type : String) : Except Failure Enumeration := do
  match ← r.target type with
  | .enumeration e => return e
  | .member => .error .attribute

/-- The member of an enumeration type that a value names. -/
def memberOf (r : Registry) (type : String) (value : Json) : Except Failure Value := do
  match ← r.target type with
  | .member => .error .shape
  | .enumeration e =>
    match value with
    | .text name =>
      match e.canonical? name with
      | some (name, value) => return .member e name value
      | none => .error (.key value)
    | _ => if value.isKey then .error (.key value) else .error .shape

/-- The value of a text of a type. -/
def convertText (r : Registry) (type text : String) : Except Failure Value :=
  match Primitive.ofName? type with
  | some p => ((p.convert text).mapError .numeral).map ofScalar
  | none =>
    match TypeToken.classify type with
    | .enumeration => r.memberOf type (.text text)
    | _ => .ok (.stored (.text text))

/-- The integer of a stored number or truth value. -/
def integerOf : Json → Except Failure Value
  | .integer i => .ok (.stored (.integer i))
  | .truth b => .ok (.stored (.integer (if b then 1 else 0)))
  | .real (.finite negative mantissa exponent) =>
    let (num, den) := Binary64.magnitude mantissa exponent
    .ok (.stored (.integer (signed negative (num / den))))
  | .real (.infinite _) => .error (.range .infiniteInteger)
  | .real .nan => .error (.range .noInteger)
  | _ => .error .shape

/-- The real number of a stored number or truth value. -/
def realOf : Json → Except Failure Value
  | .integer i =>
    match Binary64.ofInt i with
    | .finite negative mantissa exponent =>
      .ok (.stored (.real (.finite negative mantissa exponent)))
    | _ => .error (.range .greatReal)
  | .truth b => .ok (.stored (.real (Binary64.ofInt (if b then 1 else 0))))
  | .real x => .ok (.stored (.real x))
  | _ => .error .shape

/-- The value of a stored cell of a type that refers to no table. -/
def convert (r : Registry) (type : String) : Json → Except Failure Value
  | .text s => r.convertText type s
  | .broken b =>
    -- a half is no digit and no blank, and stands in no name
    match r.convertText type b.replaced with
    | .ok (.stored (.text _)) => .ok (.stored (.broken b))
    | converted => converted
  | cell =>
    match Primitive.ofName? type with
    | some .int | some .long => integerOf cell
    | some .float | some .double => realOf cell
    | some .bool => .error .attribute
    | some .string => .ok (.stored (.text cell.display))
    | none =>
      match TypeToken.classify type with
      | .enumeration => r.memberOf type cell
      | _ => .ok (.stored cell)

/-- The value of a stored element of a field. -/
def resolve (files : FileTree) (f : Field) (cell : Json) : Query Value := do
  if f.isReference then
    let name := TypeToken.referencedTable f.type
    let found ← record files name cell
    return .record name found.key
  else
    match (← get).convert f.type cell with
    | .ok v => return v
    | .error e => throw e

/-- The values of stored elements, from the first to the last. -/
def resolveAll (files : FileTree) (f : Field) : List Json → Query (List Value)
  | [] => return []
  | cell :: rest => do
    let v ← resolve files f cell
    return v :: (← resolveAll files f rest)

/-- The value of a field in a record. A field that the record does not store holds nothing. -/
def fieldValue (files : FileTree) (f : Field) (record : StoredRecord) : Query Value :=
  match (record.cells.get? f.key).getD .null with
  | .null => return .stored .null
  | cell =>
    if f.isArray then
      match cell.elements? with
      | some items => do return .list (← resolveAll files f items)
      | none => throw .shape
    else resolve files f cell

/-- What a record is made from has this name in it; it is no value. -/
def rowName : String := "_row"

/-- The names under which every record has something that is no value. -/
def recordNames : List String := [
  "__class__", "__delattr__", "__dict__", "__dir__", "__eq__", "__format__", "__ge__",
  "__getattribute__", "__getstate__", "__gt__", "__hash__", "__init__", "__init_subclass__",
  "__le__", "__lt__", "__ne__", "__new__", "__reduce__", "__reduce_ex__", "__repr__",
  "__setattr__", "__sizeof__", "__str__", "__subclasshook__"]

/-- The name under which every record has nothing. -/
def nothingName : String := "__weakref__"

/-- The name of the field that is asked for what a record does not have. It cannot answer. -/
def lastResort : String := "__getattr__"

/-- The name of the field that is asked for everything that a record has. It looks into the record
itself, and so asks itself again. -/
def firstResort : String := "__getattribute__"

/-- The fault of an answer that asks for itself without end. -/
def endless : Script.ScriptFault := .raised "RecursionError" "maximum recursion depth exceeded"

/-- The value of a name in a record: one of its fields, what all records of its type share, or the
ID that it stores. -/
def attributeIn (files : FileTree) (type : RecordType) (record : StoredRecord) (name : String) :
    Query Value := do
  if type.hasField firstResort then throw (.script endless)
  if name = rowName then throw .shape
  match type.field? name, type.shared.get? name with
  | some f, _ => fieldValue files f record
  | none, some v => return .stored v
  | none, none =>
    if name = idName then return .stored ((record.cells.get? idName).getD .null)
    else if name = nothingName then return .stored .null
    else if recordNames.contains name then throw .shape
    else
      match type.field? lastResort with
      | some f => do
        let _ ← fieldValue files f record
        throw .shape
      | none => throw .attribute

/-- The value of a name in a record of a table. -/
def attributeOf (files : FileTree) (name : String) (id : Json) (field : String) : Query Value := do
  let t ← table name
  attributeIn files t.type (← record files name id) field

/-- The declaration of a field of a table. -/
def describe (name field : String) : Query Field := do
  let t ← table name
  match isInnate field, t.type.field? field with
  | false, some f => return f
  | _, _ => throw .attribute

/-! ## Texts of values -/

/-- How deep records may be shown that are the IDs of other records. -/
def displayDepth : Nat := 300

/-- How a value reads. The fuel bounds its depth. -/
def valueText (files : FileTree) : Nat → Value → Query String
  | 0, _ => throw .shape
  | _ + 1, .stored v => return v.literal
  | _ + 1, .member e name value =>
    return "<" ++ e.ownName ++ "." ++ name ++ ": " ++ value.literal ++ ">"
  | fuel + 1, .list items => do
    return "[" ++ join ", " (← items.mapM (valueText files fuel)) ++ "]"
  | fuel + 1, .record name key => do
    let t ← table name
    let found ← record files name key
    match t.type.field? "__repr__" with
    | some _ => do
      let _ ← attributeIn files t.type found "__repr__"
      throw .shape
    | none =>
      let id ← attributeIn files t.type found idName
      return t.type.name ++ "(ID=" ++ (← valueText files fuel id) ++ ")"

/-- How the record of a table reads that an ID finds: its type and its ID. -/
def recordText (files : FileTree) (name : String) (key : Json) : Query String :=
  valueText files displayDepth (.record name key)

/-! ## Comparison -/

/-- Two numbers that are told apart but not by their hashes. -/
def twins : List Int := [-1, -2]

/-- Whether the hashes of two values are equal; a list has none. -/
def equalHashes : Value → Value → Except Failure Bool
  | .stored a, .stored b =>
    if a.isKey ∧ b.isKey then
      .ok (a.isSameKey b || (a.integer?.any twins.contains && b.integer?.any twins.contains))
    else .error .shape
  | .member _ a _, .member _ b _ => .ok (decide (a = b))
  | .record name a, .record other b => .ok (decide (name = other) && a.isSameKey b)
  | .list _, _ | _, .list _ => .error .shape
  | _, _ => .ok false

/-- How two records compare: whether they are one record, whether they are equal, and whether their
hashes are. -/
structure Comparison where
  isOne : Bool
  equal : Bool
  equalHash : Bool

/-- Compares the record of a table with that of another one. A table has its own record type and one
record for each ID, so only one and the same record is equal to another one. Fields that have the
names of what compares records cannot do that. -/
def compare (files : FileTree) (name : String) (id : Json) (other : String) (otherId : Json) :
    Query Comparison := do
  let a ← record files name id
  let b ← record files other otherId
  let type := (← table name).type
  let otherType := (← table other).type
  let isOne := decide (name = other) && a.key.isSameKey b.key
  if [type, otherType].any fun t => t.hasField "__eq__" || t.hasField "__hash__" then throw .shape
  let hash ← attributeIn files type a idName
  let otherHash ← attributeIn files otherType b idName
  match equalHashes hash otherHash with
  | .ok equalHash => return ⟨isOne, isOne, decide (name = other) && equalHash⟩
  | .error e => throw e

end Registry

/-! ## Constants -/

/-- The values of the names of a group that have a type, in order. Some names stand for something
else in every class. -/
def ConstantGroup.listing (g : ConstantGroup) : Except Failure (Pairs Json) :=
  g.typed.mapM fun name =>
    match innate.get? name, g.values.get? name with
    | some (some value), _ => .ok (name, value)
    | some none, _ => if name = "__name__" then .ok (name, .text g.name) else .error .shape
    | none, some value => .ok (name, value)
    | none, none => .error .attribute

/-- The constants of a table whose Variable script was run. -/
def Registry.constantsOf (r : Registry) (table : String) : Except Failure (Pairs Json) :=
  match r.constants.get? table with
  | none => .error (.key (.text (TableKind.variable.moduleOf table)))
  | some none => .error .attribute
  | some (some group) => group.listing

end SheetCompiler
