import SheetCompiler.Compile.Output
import SheetCompiler.Json.Equality

/-!
# Editing records

The records of a data file, looked up by ID and edited cell by cell. A cell that holds a list is
edited as a text with one element a line, and stays a list. A file that was not written here may
hold other values than records; they are kept, and a search fails when it comes to one. Main
statements: `find_objects` (what is found among records) and `setCell_ok` (an edit puts one cell of
one record).
-/

namespace SheetCompiler

/-- A record of a data file: its cells by key, in order. -/
abbrev Record := Pairs Json

namespace Records

/-- Reads the value of a data file. -/
def ofFile (files : FileTree) (path : String) : Except Failure Json := do
  let text ← (files.readText path).mapError .file
  (Json.read text).mapError .json

/-- What stands in a data file, one after the other. -/
def itemsOf (value : Json) : Except Failure (List Json) :=
  match value.elements? with
  | some items => .ok items
  | none => .error .shape

/-- The ID that a record stores; a record without one stores nothing. -/
def idOf (record : Record) : Json := (record.get? idName).getD .null

/-- The first record with an ID. Everything before it must be a record. -/
def find (id : Json) : List Json → Except Failure Record
  | [] => .error (.record (.noRecord id.display))
  | item :: rest =>
    match item.members? with
    | some record => if (idOf record).equal id then .ok record else find id rest
    | none => .error .attribute

/-- Lines one after the other. -/
def joinLines : List (List Text.Point) → List Text.Point
  | [] => []
  | [line] => line
  | line :: rest => line ++ .char '\n' :: joinLines rest

/-- The first record with an ID, as it stands in the file, if there is one. -/
def found (id : Json) (records : List Json) : List Json :=
  (records.find? fun item => item.members?.any fun record => (idOf record).equal id).toList

/-- A stored cell as it is edited; none for a list of other things than texts. -/
def cellText? : Json → Option Json
  | .list items =>
    match items.mapM Json.text? with
    | some texts => some (.text (Text.join "\n" texts))
    | none => (items.mapM Json.points?).map fun lines => .ofPoints (joinLines lines)
  | value => some value

/-- What an edit puts in the place of a stored cell. In the place of a list only a text can be
put. -/
def editedCell (given : Json) : Json → Except Failure Json
  | .list _ =>
    match given with
    | .text text => .ok (Json.ofTexts (splitCell text))
    | _ => .error .attribute
  | _ => .ok given

/-- A record with another cell under a key. -/
def withCell (key : String) (cell : Json) : Json → Json
  | .object record => .object (Pairs.put key cell record)
  | .brokenObject members => .brokenObject (Json.putMember (.whole key) cell members)
  | item => item

/-- Puts a cell into the first record with an ID. -/
def putFirst (id : Json) (key : String) (cell : Json) : List Json → List Json
  | [] => []
  | item :: rest =>
    if item.members?.any fun record => (idOf record).equal id then withCell key cell item :: rest
    else item :: putFirst id key cell rest

/-- The cell of a record that an edit is for, under its key. -/
def editable (record : Record) (id column : Json) : Except Failure (String × Json) :=
  match column with
  | .text key =>
    if key = idName then .error (.record .idColumn)
    else
      match record.get? key with
      | some cell => .ok (key, cell)
      | none => .error (.record (.noColumn id.display key))
  | _ =>
    if column.isKey then .error (.record (.noColumn id.display column.display))
    else .error .shape

/-- Edits a cell of the record with an ID: gives the records and the edited one. -/
def setCell (records : List Json) (id column given : Json) :
    Except Failure (List Json × Record) := do
  let record ← find id records
  let (key, cell) ← editable record id column
  let edited ← editedCell given cell
  return (putFirst id key edited records, record.put key edited)

theorem find_objects (id : Json) (records : List Record) :
    find id (records.map .object) =
      match records.find? fun record => (idOf record).equal id with
      | some record => .ok record
      | none => .error (.record (.noRecord id.display)) := by
  induction records with
  | nil => rfl
  | cons record rest ih =>
    by_cases h : (idOf record).equal id = true
    · simp [find, Json.members?, h]
    · simp only [List.map_cons, find, Json.members?, h, if_false, ih, List.find?_cons,
        Bool.false_eq_true]

theorem setCell_ok {records : List Json} {id given : Json} {column : String} {record : Record}
    {cell edited : Json} (hfind : find id records = .ok record) (hid : column ≠ idName)
    (hcell : record.get? column = some cell) (hedit : editedCell given cell = .ok edited) :
    setCell records id (.text column) given =
      .ok (putFirst id column edited records, record.put column edited) := by
  simp [setCell, editable, hfind, hid, hcell, hedit, bind, Except.bind, pure, Except.pure]

end Records

end SheetCompiler
