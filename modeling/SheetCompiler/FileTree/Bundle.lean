import SheetCompiler.FileTree.Basic
import SheetCompiler.Json.Printer
import SheetCompiler.Json.Reader

/-!
# Bundles

A tree of files as one JSON object: a member for every entry under its path. A text file is a
string, a workbook the list of its rows, and a directory holds nothing. Dates and times stand in
cells as objects that name what they are.
-/

namespace SheetCompiler

namespace CellValue

/-- The value that stands for a cell. -/
def toJson : CellValue → Json
  | .empty => .null
  | .truth b => .truth b
  | .integer i => .integer i
  | .real x => .real x
  | .text s => .text s
  | .dateTime d t zone =>
    .object [("date", .text d.text), ("time", .text (t.text ++ zoneText zone))]
  | .date d => .object [("date", .text d.text)]
  | .time t zone => .object [("time", .text (t.text ++ zoneText zone))]

/-- The cell that a value stands for. -/
def ofJson? : Json → Option CellValue
  | .null => some .empty
  | .truth b => some (.truth b)
  | .integer i => some (.integer i)
  | .real x => some (.real x)
  | .text s => some (.text s)
  | .object members =>
    match Pairs.get? members "date", Pairs.get? members "time" with
    | some (.text d), some (.text t) =>
      ((readDateTime (d ++ "T" ++ t)).map fun (d, t, zone) => .dateTime d t zone).toOption
    | some (.text d), none => ((readDate d).map .date).toOption
    | none, some (.text t) => ((readTime t).map fun (t, zone) => .time t zone).toOption
    | _, _ => none
  | _ => none

end CellValue

namespace FileTree

/-- The value that stands for an entry. -/
def entryToJson : Entry → Json
  | .directory => .null
  | .file (.text s) | .file (.container s _) => .text s
  | .file (.workbook cells) => .list (cells.map fun row => .list (row.map CellValue.toJson))

/-- The cells of a row. -/
def rowOfJson? : Json → Option (List CellValue)
  | .list cells => cells.mapM CellValue.ofJson?
  | _ => none

/-- The entry that a value stands for. -/
def entryOfJson? : Json → Option Entry
  | .null => some .directory
  | .text s => some (.file (.ofText s))
  | .list rows => (rows.mapM rowOfJson?).map fun cells => .file (.workbook cells)
  | _ => none

/-- Puts an entry at a location, and directories above it where nothing is. -/
def putBelow (t : FileTree) (loc : Location) (entry : Entry) : FileTree :=
  let above := (List.range loc.length).map fun n => loc.take n
  let t := above.foldl (fun t dir => if (t.node? dir).isSome then t else t.put dir .directory) t
  if loc = [] then t else t.put loc entry

/-- The bundle of a tree, in the order of the paths. -/
def toBundle (t : FileTree) : Json :=
  let members := t.entries.map fun (loc, entry) => (Text.join "/" loc, entryToJson entry)
  .object (members.mergeSort fun a b => decide (a.1 ≤ b.1))

/-- The tree of a bundle. -/
def ofBundle? : Json → Option FileTree
  | .object members => members.foldlM (fun t (path, value) =>
      (entryOfJson? value).map fun entry => t.putBelow (Path.components path) entry) empty
  | _ => none

/-- The tree of the text of a bundle. -/
def ofBundleText? (text : String) : Option FileTree :=
  match Json.read text with
  | .ok value => ofBundle? value
  | .error _ => none

end FileTree

end SheetCompiler
