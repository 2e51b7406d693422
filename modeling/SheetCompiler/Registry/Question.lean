import SheetCompiler.Registry.Basic

/-!
# Questions about records

What a table can be asked about its records. Every question needs all records of the table, which
are read if they have not been read before.
-/

namespace SheetCompiler

/-- A question about the records of a table. The fallback stands for a record that is not there. -/
inductive Question
  | ids
  | count
  | all
  | has (id : Json)
  | find (id fallback : Json)
  | record (id : Json)

/-- What a question about records is answered with. -/
inductive Answer
  | ids (ids : List Json)
  | count (number : Nat)
  | all (records : List StoredRecord)
  | truth (has : Bool)
  | record (found : StoredRecord)
  | fallback (value : Json)

namespace Registry

/-- Asks a table about its records. -/
def ask (files : FileTree) (name : String) : Question → Query Answer
  | .ids => do return .ids ((← rows files name).map StoredRecord.key)
  | .count => do return .count (← rows files name).length
  | .all => do return .all (← rows files name)
  | .has id => do return .truth (← record? files name id).isSome
  | .find id fallback => do
    match ← record? files name id with
    | some found => return .record found
    | none => return .fallback fallback
  | .record id => do return .record (← record files name id)

end Registry

end SheetCompiler
