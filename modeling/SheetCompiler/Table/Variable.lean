import SheetCompiler.Table.Cell

/-!
# Variable tables

One typed constant a row: its name, its primitive type and its value, under the header `ID`, `Type`,
`Value`. A value that begins with `#` is a value like any other.
-/

namespace SheetCompiler

open SheetCompiler.Text

/-- A constant as it stands in a script: its name, the name of its type, and its literal. -/
structure VariableDeclaration where
  name : String
  typeName : String
  literal : String
deriving DecidableEq

/-- What names of constants are called in messages. -/
def variableName : String := "Variable name"

/-- The header of a Variable table. -/
def variableHeader : List String := ["ID", "Type", "Value"]

/-- No other tables matter to constants. -/
def Resolver.none : Resolver := ⟨fun _ => false, fun _ => Option.none⟩

/-- The literal of a list of values. -/
def listLiteral (values : List Scalar) : String :=
  "[" ++ join ", " (values.map Scalar.literal) ++ "]"

/-- The constant of a name, a type and the elements of its value. -/
def declareVariable (name : String) (p : Primitive) (isArray : Bool) (values : List String) :
    Except Fault VariableDeclaration :=
  match values.mapM p.convert with
  | .error fault => .error (.numeral fault)
  | .ok scalars =>
    if isArray then .ok ⟨name, "list[" ++ p.typeName ++ "]", listLiteral scalars⟩
    else .ok ⟨name, p.typeName, String.join ((scalars.take 1).map Scalar.literal)⟩

/-- Reads the constant of a row whose name is given. The name of a column is normalized, and so is
that of the constant once more. -/
def readVariable (sheet : Sheet) (r : Nat) (name : String) : Except Fault VariableDeclaration :=
  let column := Column.ofHeader 0 name (sheet.cell r 1)
  match Primitive.ofName? column.type with
  | .none => .error (.schema (.variableType column.type name))
  | some p => do
    let values ←
      checkCell Resolver.none name "Value" column.type .primitive column.isArray (sheet.cell r 2)
    declareVariable column.name p column.isArray values

/-- Reads the constants of the given rows up to the first with a blank name. -/
def readVariablesAt (sheet : Sheet) :
    List Nat → List String → Except Fault (List VariableDeclaration)
  | [], _ => .ok []
  | r :: rest, seen =>
    let name := normalize (sheet.cell r 0)
    if isExcluded name then readVariablesAt sheet rest seen
    else if name = "" then .ok []
    else do
      checkName variableName seen name
      if !isIdentifier name then .error (.schema (.notIdentifier variableName name))
      else do
        let declaration ← readVariable sheet r name
        return declaration :: (← readVariablesAt sheet rest (name :: seen))

/-- The constants of a Variable table, in sheet order. -/
def readVariables (sheet : Sheet) : Except Fault (List VariableDeclaration) :=
  if [sheet.cell 0 0, sheet.cell 0 1, sheet.cell 0 2] = variableHeader then
    readVariablesAt sheet (List.range' 1 (sheet.rowCount - 1)) []
  else .error (.schema .variableHeader)

end SheetCompiler
