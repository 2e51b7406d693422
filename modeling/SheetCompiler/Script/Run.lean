import SheetCompiler.Schema.Fault
import SheetCompiler.Script.Declaration
import SheetCompiler.Script.Statement
import SheetCompiler.Stateful

/-!
# Running scripts

A script is run statement by statement. Running it declares tables and registers containers of
enumerations; what was declared before a fault stays declared. A name is looked up in the body it
stands in, then among the names of the script, then among the names that are always there.
-/

namespace SheetCompiler.Script

open SheetCompiler.Text SheetCompiler.Number

/-- Why a script fails. A script may fail by itself, with a fault of a kind of its choice. A `foreign`
fault is that of a statement of a kind that no generated script has: what it would do is not
known. -/
inductive ScriptFault
  | malformed
  | undefinedName (name : String)
  | wrongType
  | noAttribute
  | memberName (name : String)
  | underscoredName (name : String)
  | slotConflict (name : String)
  | missingModule (name : String)
  | missingName (name module : String)
  | itemOutOfRange
  | characterOutOfRange
  | raised (kind text : String)
  | foreign
deriving DecidableEq

/-- The wording of a fault. -/
def ScriptFault.message : ScriptFault → String
  | .malformed => "invalid syntax"
  | .undefinedName name => "name " ++ inQuotes name ++ " is not defined"
  | .wrongType => "wrong type"
  | .noAttribute => "no such attribute"
  | .memberName name => "invalid enum member name(s) " ++ quoted name
  | .underscoredName name =>
    "_sunder_ names, such as " ++ quoted name ++ ", are reserved for future Enum use"
  | .slotConflict name => quoted name ++ " in __slots__ conflicts with class variable"
  | .missingModule name => "No module named " ++ quoted name
  | .missingName name module => "cannot import name " ++ quoted name ++ " from " ++ quoted module
  | .itemOutOfRange => "list index out of range"
  | .characterOutOfRange => "string index out of range"
  | .raised _ text => text
  | .foreign => "foreign statement"

/-- What the names that a script does not declare itself stand for. A type is open if classes can be
made from it. -/
inductive Builtin
  | type (isOpen : Bool)
  | list
  | field (isReference : Bool)
  | record
  | table
  | enumeration
  | registration
deriving DecidableEq

/-- What a name of a script stands for. A group is a class of no other kind: its name, its
attributes, and the names in it that have a type. An `other` one is a constant that no generated
script has. -/
inductive Object
  | value (v : Json)
  | other
  | function
  | builtin (b : Builtin)
  | module (name : String)
  | field (type : String) (isArray isReference : Bool)
  | enumeration (e : Enumeration)
  | member
  | recordType (r : RecordType)
  | table
  | group (name : String) (attributes : List (String × Object)) (typed : List String)

/-- The name for the map of types in a body. -/
def typesName : String := "__annotations__"

/-- The names that are always there. -/
def alwaysThere : Pairs Object := [
  ("int", .builtin (.type true)), ("float", .builtin (.type true)),
  ("bool", .builtin (.type false)), ("str", .builtin (.type true)), ("list", .builtin .list),
  ("object", .builtin (.type true))]
  ++ failureKinds.map fun kind => (kind, .builtin (.type true))

/-- The modules and what can be taken from them. -/
def modules : Pairs (Pairs Object) := [
  (featuresModule, features.map fun feature => (feature, .other)),
  ("enum", [("Enum", .builtin .enumeration)]),
  ("excel_database", [("runtime", .module "excel_database.runtime")]),
  ("excel_database.runtime", [
    ("Field", .builtin (.field false)), ("Reference", .builtin (.field true)),
    ("Record", .builtin .record), ("Table", .builtin .table),
    ("register_enums", .builtin .registration)])]

/-- What a run has declared: the names of the script, the registered containers and the tables. -/
structure Declared where
  names : Pairs Object
  containers : List Container
  tables : List (String × RecordType)

/-- Nothing declared. -/
def Declared.nothing : Declared := ⟨[], [], []⟩

/-- The name under which a script knows what it is called. -/
def scriptNameName : String := "__name__"

/-- What a script of a name has before it is run. -/
def Declared.start (module : String) : Declared :=
  ⟨[(scriptNameName, .value (.text module))], [], []⟩

/-- A step of a run: its result or fault, and what is declared afterwards. -/
abbrev Run (α : Type) := Stateful ScriptFault Declared α

/-- Where a statement stands: the class around it, if any, the names declared in its body, and those
of them that have a type. -/
structure Scope where
  owner : Option String
  names : Pairs Object
  typed : List String

/-- Where statements outside all classes stand. -/
def Scope.outermost : Scope := ⟨none, [], []⟩

/-- The name that a private name has outside its class: two underscores at its beginning and none
at its end make a name private. -/
def Scope.outerName (s : Scope) (name : String) : String :=
  match s.owner with
  | none => name
  | some owner =>
    let bare := String.ofList (owner.toList.dropWhile (· = '_'))
    if startsWith "__" name && !endsWith "__" name && bare ≠ "" then "_" ++ bare ++ name else name

/-- What a name stands for. -/
def Scope.find (s : Scope) (name : String) : Run Object := do
  let name := s.outerName name
  match s.names.get? name, (← get).names.get? name, alwaysThere.get? name with
  | some o, _, _ => return o
  | none, some o, _ => return o
  | none, none, some o => return o
  | none, none, none => throw (.undefinedName name)

/-- Declares a name: in the body of a class, or among the names of the script. -/
def Scope.bind (s : Scope) (name : String) (o : Object) : Run Scope := do
  let name := s.outerName name
  match s.owner with
  | some _ => return { s with names := s.names.put name o }
  | none =>
    modify fun d => { d with names := d.names.put name o }
    return s

/-- Gives a name of a class its type. A name that stands where the types are kept has no items. -/
def Scope.bindType (s : Scope) (name : String) : Run Scope :=
  let name := s.outerName name
  if s.names.names.contains typesName then throw .wrongType
  else return { s with typed := if s.typed.contains name then s.typed else s.typed ++ [name] }

/-! ## Expressions -/

/-- The value of an object that is one. -/
def Object.value? : Object → Option Json
  | .value v => some v
  | _ => none

/-- The negative of a value. -/
def negative : Object → Run Object
  | .value (.integer i) => return .value (.integer (-i))
  | .value (.truth b) => return .value (.integer (if b then -1 else 0))
  | .value (.real x) => return .value (.real x.neg)
  | .other => return .other
  | _ => throw .wrongType

/-- The position of an item: a negative one counts from the end. -/
def position? (length : Nat) (i : Int) : Option Nat :=
  let place : Int := if i < 0 then i + length else i
  if 0 ≤ place ∧ place < length then some place.toNat else none

/-- The integer that stands for a position. -/
def index? : Object → Option Int
  | .value (.integer i) => some i
  | .value (.truth b) => some (if b then 1 else 0)
  | _ => none

/-- An item of an object. -/
def itemOf (body index : Object) : Run Object :=
  match body with
  | .builtin .list => return .builtin .list
  | .value (.list items) =>
    match index? index with
    | none => throw .wrongType
    | some i =>
      match (position? items.length i).bind (items[·]?) with
      | some v => return .value v
      | none => throw .itemOutOfRange
  | .value (.text s) =>
    match index? index with
    | none => throw .wrongType
    | some i =>
      match (position? s.length i).bind (s.toList[·]?) with
      | some c => return .value (.text (String.singleton c))
      | none => throw .characterOutOfRange
  | _ => throw .wrongType

/-- An attribute of an object. -/
def attributeOf (body : Object) (name : String) : Run Object :=
  let found : Option Object := match body with
    | .group _ attributes _ => if isInnate name then none else Pairs.get? attributes name
    | .module module => (modules.get? module).bind fun names => names.get? name
    | .enumeration e => (e.members.get? name).map fun _ => .member
    | _ => none
  match found with
  | some o => return o
  | none => throw .noAttribute

/-- The container of the enumerations of a group. -/
def containerOf (name : String) (attributes : List (String × Object)) : Container :=
  ⟨name, attributes.filterMap fun (key, o) =>
    match o with
    | .enumeration e => some (key, e)
    | _ => none⟩

/-- Calls an object. -/
def apply (callee : Object) (arguments : List Object) (named : List (String × Object)) :
    Run Object :=
  match callee, arguments, named with
  | .builtin (.field isReference), [.value (.text type)], [] =>
    return .field type false isReference
  | .builtin (.field isReference), [.value (.text type)], [("array", .value (.truth isArray))] =>
    return .field type isArray isReference
  | .builtin .table, [.value (.text name), .recordType r], [] => do
    modify fun d => { d with tables := d.tables ++ [(name, r)] }
    return .table
  | .builtin .registration, [.group name attributes typed], [] => do
    modify fun d => { d with containers := d.containers ++ [containerOf name attributes] }
    return .group name attributes typed
  | .builtin .registration, [.enumeration e], [] => return .enumeration e
  | .builtin .registration, [.recordType r], [] => return .recordType r
  | .builtin .registration, [.function], [] => return .function
  | .builtin .registration, [.value _], [] => throw .noAttribute
  | _, _, _ => throw .wrongType

mutual

/-- The object that an expression stands for. -/
def eval (scope : Scope) : Expr → Run Object
  | .name text => scope.find text
  | .constant v => return .value v
  | .other => return .other
  | .minus body => do negative (← eval scope body)
  | .list items => do
    let objects ← evalAll scope items
    return .value (.list (objects.filterMap Object.value?))
  | .map members => do
    let objects ← evalNamed scope members
    return .value (.object (Pairs.ofList (objects.filterMap fun (name, o) =>
      o.value?.map fun v => (name, v))))
  | .item body index => do
    let body ← eval scope body
    itemOf body (← eval scope index)
  | .attribute body name => do attributeOf (← eval scope body) name
  | .call callee arguments named => do
    let callee ← eval scope callee
    let arguments ← evalAll scope arguments
    apply callee arguments (← evalNamed scope named)

/-- The objects that expressions stand for. -/
def evalAll (scope : Scope) : List Expr → Run (List Object)
  | [] => return []
  | e :: rest => do
    let o ← eval scope e
    return o :: (← evalAll scope rest)

/-- The objects that named expressions stand for. -/
def evalNamed (scope : Scope) : List (String × Expr) → Run (List (String × Object))
  | [] => return []
  | (name, e) :: rest => do
    let o ← eval scope e
    return (name, o) :: (← evalNamed scope rest)

end

/-! ## Classes -/

/-- What a class is made from. -/
inductive Base
  | plain
  | enumeration
  | record
deriving DecidableEq

/-- What a class is made from, by the object that stands for it. An enumeration with members is
complete. -/
def baseOf : Option Object → Run Base
  | none => return .plain
  | some (.builtin .enumeration) => return .enumeration
  | some (.builtin .record) => return .record
  | some (.enumeration e) => if e.members.isEmpty then return .enumeration else throw .wrongType
  | some (.group ..) | some (.builtin (.type true)) | some (.builtin .list) => return .plain
  | some _ => throw .wrongType

/-- The text that describes a class stands at the beginning of its body. -/
def descriptionOf : List Statement → Json
  | .evaluate (.constant (.text text)) :: _ => .text text
  | _ => .null

/-- The names of a body before its first statement. -/
def initialNames (module : Option Object) (qualified : String) (body : List Statement) :
    Pairs Object :=
  (match module with
    | some o => [(moduleName, o)]
    | none => [])
    ++ [(qualifiedName, .value (.text qualified)), (descriptionName, .value (descriptionOf body))]

/-- The attributes that a class keeps room for, if an object lists them. -/
def slotsOf? : Object → Option (List String)
  | .value (.text text) => some [text]
  | .value (.list items) => items.mapM Json.text?
  | _ => none

/-- Why a class cannot keep room for the attributes that its body lists. -/
def slotsFault? (names : Pairs Object) : Option ScriptFault :=
  match (names.get? slotsName).map slotsOf? with
  | none => none
  | some none => some .wrongType
  | some (some slots) =>
    if slots.any fun slot => !isIdentifierChars slot.toList then some .wrongType
    else (slots.find? names.names.contains).map .slotConflict

/-- Why there is no class of a body: a special name stands for something it cannot stand for. -/
def bodyFault? (names : Pairs Object) : Option ScriptFault :=
  match slotsFault? names, names.get? qualifiedName with
  | some fault, _ => some fault
  | none, some (.value (.text _)) | none, none =>
    if names.names.contains cellName then some .wrongType else none
  | none, some _ => some .wrongType

/-! ## Members of enumerations -/

/-- Whether a name has one underscore at each end. -/
def isUnderscored (name : String) : Bool :=
  let cs := name.toList
  decide (2 < cs.length) && startsWith "_" name && endsWith "_" name
    && decide (cs[1]? ≠ some '_') && decide (cs.reverse[1]? ≠ some '_')

/-- Whether a name has two underscores at each end. -/
def isSpecial (name : String) : Bool :=
  let cs := name.toList
  decide (4 < cs.length) && startsWith "__" name && endsWith "__" name
    && decide (cs[2]? ≠ some '_') && decide (cs.reverse[2]? ≠ some '_')

/-- Whether a name is private to a class, as it is called outside the class. -/
def isPrivate (owner name : String) : Bool :=
  let start := "_" ++ owner ++ "__"
  startsWith start name && decide (start.length < name.length) && !endsWith "__" name

/-- The names with one underscore at each end that mean something to an enumeration. -/
def underscoredNames : List String := [
  "_order_", "_generate_next_value_", "_numeric_repr_", "_missing_", "_ignore_", "_iter_member_",
  "_iter_member_by_value_", "_iter_member_by_def_"]

/-- Whether a name of an enumeration's body is one for a member. -/
def isMemberName (owner name : String) : Bool :=
  !isPrivate owner name && !isUnderscored name && !isSpecial name

/-- Whether an object is no member of the enumeration in whose body it stands. -/
def Object.isAccessor : Object → Bool
  | .field .. | .function => true
  | _ => false

/-- The names that no member has. -/
def forbiddenMembers : List String := ["mro", ""]

/-- The members among the names of an enumeration's body, with their values. -/
def membersOf (owner : String) (names : Pairs Object) : Pairs Json :=
  names.filterMap fun (key, o) =>
    if isMemberName owner key && !o.isAccessor then
      some (key, o.value?.getD (.list [.text key]))
    else none

/-- The names of what makes a member, or gives it what it has. They must be functions if there is
any member. -/
def makingNames : List String := [
  "__new__", "__init__", "__setattr__", "__getattr__", "__getattribute__"]

/-- Whether an object is a value, which cannot be called. -/
def Object.isUncallable : Object → Bool
  | .value _ | .other => true
  | _ => false

/-- The names under which an enumeration may list its members in their order. -/
def orderNames : List String := ["_order_", "__order__"]

/-- The names that an object lists, with commas or blanks between them if it is a text. -/
def listedNames? : Object → Option (List String)
  | .value (.text text) =>
    let isBetween (c : Char) : Bool := decide (c = ',') || isBlank c
    let spaced := text.toList.map fun c => if isBetween c then ' ' else c
    some (((splitOn ' ' spaced).filter (!·.isEmpty)).map String.ofList)
  | .value (.list items) => some (items.map fun item => item.text?.getD "")
  | _ => none

/-- Why an object cannot list members. Only the first one of each value is listed. -/
def orderFault? (members : Pairs Json) (listed : Object) : Option ScriptFault :=
  let e : Enumeration := ⟨"", members⟩
  let isFirst (name : String) : Bool := (e.canonical? name).all fun found => found.1 == name
  match listedNames? listed with
  | none => some .wrongType
  | some names =>
    let names := names.filter isFirst
    if names.isEmpty || names == members.names.filter isFirst then none else some .wrongType

/-- Why there is no enumeration of a name with a body. -/
def enumerationFault? (owner : String) (names : Pairs Object) : Option ScriptFault :=
  let members := membersOf owner names
  match forbiddenMembers.find? members.names.contains, bodyFault? names with
  | some member, _ => some (.memberName member)
  | none, some fault => some fault
  | none, none =>
    if !members.isEmpty &&
        makingNames.any fun name => (names.get? name).any Object.isUncallable then
      some .wrongType
    else ((orderNames.findSome? names.get?).bind (orderFault? members))

/-- The class of a base and the names of its body. -/
def classOf (base : Base) (name qualified : String) (scope : Scope) : Run Object := do
  let fault := match base with
    | .enumeration => enumerationFault? name scope.names
    | _ => bodyFault? scope.names
  if let some fault := fault then throw fault
  let qualified := match (scope.names.get? qualifiedName).bind Object.value? with
    | some (.text text) => text
    | _ => qualified
  match base with
  | .plain => return .group name scope.names scope.typed
  | .enumeration => return .enumeration ⟨qualified, membersOf name scope.names⟩
  | .record =>
    let names := scope.names.erase qualifiedName
    let fields := names.filterMap fun (key, o) =>
      match o with
      | .field type isArray isReference => some ⟨key, type, isArray, isReference⟩
      | _ => none
    return .recordType ⟨name, fields, names.filterMap fun (key, o) =>
      o.value?.map fun v => (key, v)⟩

/-- Why a name cannot be declared in the body of an enumeration behind other names. Every member is
declared once. -/
def memberFault? (owner : String) (before : List String) (name : String) : Option ScriptFault :=
  if isPrivate owner name then none
  else if isUnderscored name then
    if underscoredNames.contains name then none else some (.underscoredName name)
  else if !isSpecial name && before.contains name then some .wrongType
  else none

/-- Declares a name in a body. -/
def bindMember (base : Base) (scope : Scope) (name : String) (o : Object) : Run Scope := do
  let fault := match base with
    | .enumeration =>
      memberFault? (scope.owner.getD "") scope.names.names (scope.outerName name)
    | _ => none
  match fault with
  | some fault => throw fault
  | none => scope.bind name o

/-- Refuses members that an enumeration cannot have, each behind those before it. -/
def checkMembers (owner : String) (before : List String) : List String → Except ScriptFault Unit
  | [] => .ok ()
  | name :: rest =>
    match memberFault? owner before name with
    | some fault => .error fault
    | none => checkMembers owner (before ++ [name]) rest

/-- The enumeration of a name in a container, whose members have their names as values. -/
def enumerationOf (container name : String) (members : List String) :
    Except ScriptFault Enumeration := do
  checkMembers name [] members
  match enumerationFault? name (members.map fun member => (member, .value (.text member))) with
  | some fault => throw fault
  | none => return .ofNames (container ++ "." ++ name) (members.filter (isMemberName name))

/-- A container of enumerations given by their members, the last one of each name in the place of
the first. -/
def containerOfMembers (name : String) (enums : List (String × List String)) :
    Except ScriptFault Container := do
  let found ← enums.mapM fun (key, members) => do
    return (key, ← enumerationOf name key members)
  let found := Pairs.ofList found
  if found.names.any unusableFields.contains then throw .wrongType else return ⟨name, found⟩

/-- Applies decorators to a class, the innermost first. -/
def decorate : List Object → Object → Run Object
  | [], o => return o
  | d :: outer, o => do
    let o ← decorate outer o
    apply d [o] []

/-- Takes names from a module and gives them the names behind. -/
def takeNames (scope : Scope) (module : String) (found : Pairs Object) :
    List (String × String) → Run Scope
  | [] => return scope
  | (name, newName) :: rest => do
    match found.get? name with
    | none => throw (.missingName name module)
    | some o => takeNames (← scope.bind newName o) module found rest

/-! ## Statements -/

mutual

/-- Runs a statement in a body with a base, whose class has a name to go before those in it. -/
def runStatement (base : Base) (outer : String) (scope : Scope) : Statement → Run Scope
  | .useModule module newName =>
    match modules.get? module, newName with
    | none, _ => throw (.missingModule module)
    | some _, some name => scope.bind name (.module module)
    | some _, none =>
      let first := String.ofList (module.toList.takeWhile (· ≠ '.'))
      scope.bind first (.module first)
  | .useNames module names =>
    match modules.get? module with
    | none => throw (.missingModule module)
    | some found => takeNames scope module found names
  | .useAll module =>
    match modules.get? module with
    | none => throw (.missingModule module)
    | some found => takeNames scope module found (found.names.map fun name => (name, name))
  | .assign name value => do bindMember base scope name (← eval scope value)
  | .declare name typeName value => do
    -- the name has its value before its type is looked at
    let scope ← match value with
      | some value => do bindMember base scope name (← eval scope value)
      | none => pure scope
    let _ ← eval scope typeName
    scope.bindType name
  | .evaluate value => do
    let _ ← eval scope value
    return scope
  | .skip => return scope
  | .failure kind text => throw (.raised kind text)
  | .foreign _ => throw .foreign
  | .block .. => throw .foreign
  | .declareFunction decorators name _ => do
    let decorators ← evalAll scope decorators
    bindMember base scope name (← decorate decorators .function)
  | .declareClass decorators name under body => do
    let decorators ← evalAll scope decorators
    let inner ← baseOf (← under.mapM (eval scope))
    let qualified := outer ++ name
    let names := initialNames ((← get).names.get? scriptNameName) qualified body
    let bodyScope ← runStatements inner (qualified ++ ".") ⟨some name, names, []⟩ body
    let o ← classOf inner name qualified bodyScope
    bindMember base scope name (← decorate decorators o)

/-- Runs statements one after the other. -/
def runStatements (base : Base) (outer : String) (scope : Scope) : List Statement → Run Scope
  | [] => return scope
  | s :: rest => do runStatements base outer (← runStatement base outer scope s) rest

end

/-- What a script of a name declares, and why it fails if it does. -/
def run (module text : String) : Declared × Option ScriptFault :=
  match statements? text with
  | none => (.nothing, some .malformed)
  | some statements =>
    match (runStatements .plain "" .outermost statements).apply (.start module) with
    | (.ok _, declared) => (declared, none)
    | (.error fault, declared) => (declared, some fault)

/-- The object that a path of names leads to, from a name of a script into its groups. -/
def findPath? (names : Pairs Object) : List String → Option Object
  | [] => none
  | [name] => names.get? name
  | name :: next :: rest =>
    match names.get? name with
    | some (.group _ attributes _) =>
      if isInnate next then none else findPath? attributes (next :: rest)
    | _ => none

/-- The group of constants that a name of a script stands for. -/
def constants? (names : Pairs Object) (name : String) : Option ConstantGroup :=
  match names.get? name with
  | some (.group name attributes typed) =>
    some ⟨name, attributes.filterMap fun (key, o) => o.value?.map fun v => (key, v), typed⟩
  | _ => none

end SheetCompiler.Script
