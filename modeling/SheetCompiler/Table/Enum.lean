import SheetCompiler.Table.Cell

/-!
# Enum tables

Each named header cell declares an enumeration; the cells below it are its members, up to the first
blank one.
-/

namespace SheetCompiler

open SheetCompiler.Text

/-- An enumeration of a table, with its members in order. -/
structure EnumDeclaration where
  name : String
  members : List String
deriving DecidableEq

/-- What names of members are called in messages. -/
def memberName : String := "Enum member"

/-- Reads the members of an enumeration from the given rows. -/
def readMembersAt (sheet : Sheet) (column : Nat) (enumeration : String) :
    List Nat → List String → Except Fault (List String)
  | [], _ => .ok []
  | r :: rest, seen =>
    let member := normalize (sheet.cell r column)
    if isExcluded member then readMembersAt sheet column enumeration rest seen
    else if member = "" then .ok []
    else do
      checkName memberName seen member
      if !isIdentifier member || startsWith "_" member then
        .error (.row (.memberName member enumeration))
      else
        return member :: (← readMembersAt sheet column enumeration rest (member :: seen))

/-- Reads the members below a header cell; there must be one. -/
def readMembers (sheet : Sheet) (column : Nat) (enumeration : String) :
    Except Fault (List String) := do
  let members ←
    readMembersAt sheet column enumeration (List.range' 1 (sheet.rowCount - 1)) []
  if members.isEmpty then .error (.row (.noMembers enumeration)) else return members

/-- Reads the enumeration of a named header cell. -/
def visitEnum (sheet : Sheet) (index : Nat) (name : String) : Except Fault EnumDeclaration :=
  if !isIdentifier name then .error (.schema (.notIdentifier "Enum name" name))
  else do return ⟨name, ← readMembers sheet index name⟩

/-- The enumerations of an Enum table, in sheet order. -/
def readEnums (sheet : Sheet) : Except Fault (List EnumDeclaration) :=
  (scanHeader sheet 0 0 [] (visitEnum sheet)).result

end SheetCompiler
