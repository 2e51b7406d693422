import SheetCompiler.Path
import SheetCompiler.Workbook.Cell

/-!
# File trees

The files and directories below a working directory, as a value. An entry stands at a location, the
names of the components that lead to it; the working directory itself is always there. A path is
followed component by component, and every component before the last must be a directory.
-/

namespace SheetCompiler

/-- The names that lead from the working directory to an entry. -/
abbrev Location := List String

/-- Why a file that looks like the container of a workbook gives no cells: it is refused as damaged,
or the reader of workbooks breaks down on it, with a failure of a kind of its own. -/
inductive ContainerFault
  | damaged (cause : String)
  | breakdown (kind cause : String)
deriving DecidableEq

/-- What a file holds: a text that is no container, a text that the reader of workbooks takes for a
container and cannot read, with what it makes of it, or the cells of a workbook's first
worksheet. -/
inductive Content
  | text (value : String)
  | container (value : String) (fault : ContainerFault)
  | workbook (cells : List (List CellValue))

/-- The text of a container without anything in it. -/
def emptyContainer : String := String.ofList (['P', 'K', '\x05', '\x06'] ++ List.replicate 18 '\x00')

/-- What a file of a text holds. The reader of workbooks opens a container without anything in it,
and then misses its first part. -/
def Content.ofText (s : String) : Content :=
  if Text.endsWith emptyContainer s then
    .container s (.breakdown "KeyError"
      "\"There is no item named '[Content_Types].xml' in the archive\"")
  else .text s

/-- A directory or a file. -/
inductive Entry
  | directory
  | file (content : Content)

/-- Why an operation on a path fails. -/
inductive FileCause
  | missing
  | busy
  | exists
  | notDirectory
  | isDirectory
  | nameTooLong
  | nullCharacter
  | tooDeep
deriving DecidableEq

/-- A failed operation: why, on which path, and for a replacement also the path replaced. -/
structure FileError where
  cause : FileCause
  path : String
  target : Option String
deriving DecidableEq

/-- The entries of a tree under their locations. -/
structure FileTree where
  entries : List (Location × Entry)

namespace FileTree

/-- A working directory without entries. -/
def empty : FileTree := ⟨[]⟩

/-- The entry at a location. -/
def node? (t : FileTree) (loc : Location) : Option Entry :=
  if loc = [] then some .directory
  else (t.entries.find? fun e => decide (e.1 = loc)).map Prod.snd

/-- The content of the file at a location. -/
def content? (t : FileTree) (loc : Location) : Option Content :=
  match t.node? loc with
  | some (.file content) => some content
  | _ => none

/-- Puts an entry at a location, in the place of one that was there. -/
def put (t : FileTree) (loc : Location) (entry : Entry) : FileTree :=
  ⟨(loc, entry) :: t.entries.filter fun e => decide (e.1 ≠ loc)⟩

/-- Takes the entry at a location away. -/
def erase (t : FileTree) (loc : Location) : FileTree :=
  ⟨t.entries.filter fun e => decide (e.1 ≠ loc)⟩

/-- Takes an entry and everything below it away. -/
def eraseBelow (t : FileTree) (loc : Location) : FileTree :=
  ⟨t.entries.filter fun e => !loc.isPrefixOf e.1⟩

/-! ## Following paths -/

/-- The greatest length of a name, in bytes. -/
def nameLimit : Nat := 255

/-- The least length of a path that is too long to be followed, in bytes. -/
def pathLimit : Nat := 4096

/-- Follows components from a location. One point stays there and two points lead back. -/
def walk (t : FileTree) : Location → List String → Except FileCause Location
  | loc, [] => .ok loc
  | loc, c :: cs =>
    match t.node? loc with
    | some .directory =>
      if nameLimit < c.utf8ByteSize then .error .nameTooLong
      else if c = "." then t.walk loc cs
      else if c = ".." then t.walk loc.dropLast cs
      else t.walk (loc ++ [c]) cs
    | some (.file _) => .error .notDirectory
    | none => .error .missing

/-- The location a path leads to, whether or not there is an entry. A path with a null character is
none at all. Nothing is known of paths from the root of all files. -/
def locate (t : FileTree) (path : String) : Except FileCause Location :=
  if path.toList.contains '\x00' then .error .nullCharacter
  else if pathLimit ≤ path.utf8ByteSize then .error .nameTooLong
  else if path = "" ∨ Text.startsWith "/" path then .error .missing
  else t.walk [] (Path.components path)

/-- The entry a path leads to, with its location. -/
def lookup (t : FileTree) (path : String) : Except FileCause (Location × Entry) := do
  let loc ← t.locate path
  match t.node? loc with
  | none => .error .missing
  | some (.file content) =>
    if Path.demandsDirectory path then .error .notDirectory else .ok (loc, .file content)
  | some .directory => .ok (loc, .directory)

/-- Whether a path leads to an entry. -/
def contains (t : FileTree) (path : String) : Bool := (t.lookup path).isOk

/-- Whether a path leads to a directory. -/
def isDirectory (t : FileTree) (path : String) : Bool :=
  match t.lookup path with
  | .ok (_, .directory) => true
  | _ => false

/-- The content of the file a path leads to. -/
def read (t : FileTree) (path : String) : Except FileError Content :=
  match t.lookup path with
  | .ok (_, .file content) => .ok content
  | .ok (_, .directory) => .error ⟨.isDirectory, path, none⟩
  | .error cause => .error ⟨cause, path, none⟩

/-- What a workbook shows to a reader of texts: the mark of its container. -/
def workbookMark : String := "PK"

/-- The text of the file a path leads to. -/
def readText (t : FileTree) (path : String) : Except FileError String :=
  match t.read path with
  | .ok (.text s) | .ok (.container s _) => .ok s
  | .ok (.workbook _) => .ok workbookMark
  | .error e => .error e

/-! ## Listing -/

/-- Texts in the order of their code points. -/
def sortTexts (texts : List String) : List String := texts.mergeSort fun a b => decide (a ≤ b)

/-- The names of the entries of a directory, sorted. -/
def children (t : FileTree) (loc : Location) : List String :=
  sortTexts <| t.entries.filterMap fun e =>
    if e.1 ≠ [] ∧ e.1.dropLast = loc then e.1.getLast? else none

/-- The paths of what is below a directory, from the working directory on and sorted; those of
directories end in a slash. -/
def listing (t : FileTree) (loc : Location) : List String :=
  sortTexts <| t.entries.filterMap fun e =>
    if loc.isPrefixOf e.1 ∧ e.1 ≠ loc then
      let path := Text.join "/" e.1
      match e.2 with
      | .directory => some (path ++ "/")
      | .file _ => some path
    else none

/-! ## Entries after a change -/

@[simp] theorem node?_nil (t : FileTree) : t.node? [] = some .directory := by simp [node?]

theorem node?_put_self (t : FileTree) {loc : Location} (h : loc ≠ []) (entry : Entry) :
    (t.put loc entry).node? loc = some entry := by
  simp [node?, put, h]

theorem find?_filter_ne {entries : List (Location × Entry)} {loc other : Location}
    (h : other ≠ loc) :
    (entries.filter fun e => decide (e.1 ≠ loc)).find? (fun e => decide (e.1 = other)) =
      entries.find? fun e => decide (e.1 = other) := by
  induction entries with
  | nil => rfl
  | cons e entries ih =>
    by_cases he : e.1 = loc
    · have : e.1 ≠ other := fun hc => h (hc.symm.trans he)
      rw [List.filter_cons_of_neg (by simp [he]), List.find?_cons_of_neg (by simp [this]), ih]
    · rw [List.filter_cons_of_pos (by simp [he])]
      by_cases ho : e.1 = other
      · rw [List.find?_cons_of_pos (by simp [ho]), List.find?_cons_of_pos (by simp [ho])]
      · rw [List.find?_cons_of_neg (by simp [ho]), List.find?_cons_of_neg (by simp [ho]), ih]

theorem node?_put_of_ne (t : FileTree) {loc other : Location} (h : other ≠ loc) (entry : Entry) :
    (t.put loc entry).node? other = t.node? other := by
  by_cases ho : other = []
  · simp [ho]
  · have : (loc = other) = False := by simp [Ne.symm h]
    simp only [node?, put, ho, if_false, List.find?_cons, this, decide_false]
    rw [find?_filter_ne h]

theorem node?_erase_self (t : FileTree) {loc : Location} (h : loc ≠ []) :
    (t.erase loc).node? loc = none := by
  simp only [node?, erase, h, if_false, Option.map_eq_none_iff, List.find?_eq_none]
  intro e he
  simp only [List.mem_filter, decide_eq_true_eq] at he
  simp [he.2]

theorem node?_erase_of_ne (t : FileTree) {loc other : Location} (h : other ≠ loc) :
    (t.erase loc).node? other = t.node? other := by
  by_cases ho : other = []
  · simp [ho]
  · simp only [node?, erase, ho, if_false]
    rw [find?_filter_ne h]

end FileTree

end SheetCompiler
