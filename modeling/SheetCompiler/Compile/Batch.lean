import SheetCompiler.Compile.Output
import SheetCompiler.Json.Equality
import SheetCompiler.Manifest.Update

/-!
# Batches

Compiling many workbooks, one after the other. A workbook that cannot be compiled is reported and
passed over; the others still are. Listeners are told once a batch is over, however it ends.
-/

namespace SheetCompiler.Action

/-- What is reported of a workbook that cannot be compiled. Other failures end a batch. -/
def refusal? (path : String) : Failure → Option Event
  | .table name (.schema fault) => some (.tableRefused name fault.message)
  | .table name (.row fault) => some (.tableRefused name fault.message)
  | .unknownKind _ => some (.kindUnknown (tableNameOf path))
  | .file error =>
    -- a path that is none is no matter of the file, nor are directories that cannot be made
    if error.cause = .nullCharacter ∨ error.cause = .tooDeep then none
    else some (.tableUnreadable (tableNameOf path) path error.message)
  | .workbook (.container (.breakdown ..)) => none
  | .workbook fault => some (.tableUnreadable (tableNameOf path) path fault.message)
  | _ => none

/-- Compiles a workbook and records the outcome; a refused one is reported. -/
def compileNext (s : Settings) (label path : String) : Action (Option Compilation) := do
  match ← attempt (compileFile s label path) with
  | .ok c =>
    record c
    return some c
  | .error failure =>
    match refusal? path failure with
    | some event =>
      report event
      return none
    | none => throw failure

/-- Why no workbook is compiled whose path holds a half: no file has that path, and most such paths
cannot even be looked up. -/
def brokenPath (label : String) (path : Text.BrokenText) : Failure :=
  match TableKind.ofLabel? label with
  | none => .unknownKind label
  | some _ => if path.isPath then .file ⟨.missing, path.shown, none⟩ else .encoding path.points

/-- Passes over a path that holds a half. A workbook at one is reported, or ends the batch. -/
def passBroken (label : String) (path : Text.BrokenText) : Action Unit :=
  if isTableFile path.replaced then
    match refusal? path.shown (brokenPath label path) with
    | some event => report event
    | none => throw (brokenPath label path)
  else return ()

/-- Compiles the workbooks among files one after the other, and gives what was recorded. A file is
named by a text. -/
def compileEach (s : Settings) (label : String) : List Json → Action (List Compilation)
  | [] => return []
  | .text path :: rest => do
    let c ← if isTableFile path then compileNext s label path else pure none
    return c.toList ++ (← compileEach s label rest)
  | .broken path :: rest => do
    passBroken label path
    compileEach s label rest
  | _ :: _ => throw .shape

/-- Compiles the workbooks among files as tables of a kind, and tells the listeners. -/
def compileGroup (paths : List Json) (label : String) : Action (List Compilation) := do
  let compilations ← always (compileEach (← get).loaded label paths) refresh
  report .parsingCompleted
  return compilations

/-- Compiles the workbooks at paths as tables of a kind. -/
def compileTables (paths : List String) (label : String) : Action (List Compilation) :=
  compileGroup (paths.map .text) label

/-- Adds a kind unless it is there. -/
def addKind (kinds : List Json) (kind : Json) : List Json :=
  if kinds.any fun other => other.equal kind then kinds else kinds ++ [kind]

/-- The kinds of compilations, each where it comes first. -/
def kindsOf (compilations : List Compilation) : List Json :=
  (compilations.map Compilation.kind).foldl addKind []

/-- Compiles the workbooks of compilations of the given kinds, kind by kind. -/
def recompileKinds (compilations : List Compilation) : List Json → Action (List Compilation)
  | [] => return []
  | kind :: rest => do
    let sources := (compilations.filter fun c => c.kind.equal kind).map Compilation.source
    let first ← compileGroup sources kind.display
    return first ++ (← recompileKinds compilations rest)

/-- Compiles the workbooks of compilations again, kind by kind. -/
def recompile (compilations : List Compilation) : Action (List Compilation) :=
  if compilations.all fun c => c.kind.isKey then
    recompileKinds compilations (kindsOf compilations)
  else throw .shape

/-- Removes compilations with their files. -/
def removeTables (compilations : List Compilation) : Action Unit := do
  always (remove compilations) refresh
  report .removingCompleted

end SheetCompiler.Action
