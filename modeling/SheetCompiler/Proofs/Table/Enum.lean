import SheetCompiler.Proofs.Schema.Columns
import SheetCompiler.Proofs.Stateful
import SheetCompiler.Table.Enum

/-!
# What is read of Enum tables

Enumerations of a table that is accepted have different names and at least one member each; names
and members are identifiers, and no member begins with an underscore or stands twice.

Main statement: `isAccepted_of_readEnums`.
-/

namespace SheetCompiler

open SheetCompiler.Text

/-- What the table of an enumeration is checked for. -/
structure EnumDeclaration.IsAccepted (e : EnumDeclaration) : Prop where
  named : isIdentifier e.name = true
  nonempty : e.members ≠ []
  identifiers : ∀ m ∈ e.members, isIdentifier m = true
  plain : ∀ m ∈ e.members, startsWith "_" m = false
  nodup : e.members.Nodup

variable {sheet : Sheet} {column : Nat} {enumeration : String}

/-- Members are checked one by one, each behind those before it. -/
lemma readMembersAt_eq_ok {rows : List Nat} {seen members : List String}
    (h : readMembersAt sheet column enumeration rows seen = .ok members) :
    (∀ m ∈ members, isIdentifier m = true ∧ startsWith "_" m = false ∧ m ∉ seen) ∧
      members.Nodup := by
  induction rows generalizing seen members with
  | nil =>
    cases h
    exact ⟨nofun, List.nodup_nil⟩
  | cons r rows ih =>
    rw [readMembersAt] at h
    split at h
    · exact ih h
    · split at h
      · cases h
        exact ⟨nofun, List.nodup_nil⟩
      · obtain ⟨_, hname, h⟩ := except_bind_eq_ok.1 h
        split at h
        · cases h
        · rename_i hplain
          rw [Bool.or_eq_true, not_or, Bool.not_eq_true', Bool.not_eq_false,
            Bool.not_eq_true] at hplain
          obtain ⟨rest, hrest, h⟩ := except_bind_eq_ok.1 h
          cases h
          -- the members behind this one have been checked against it as well
          obtain ⟨hmembers, hnodup⟩ := ih hrest
          have hnew := (checkName_eq_ok hname).1
          constructor
          · rw [List.forall_mem_cons]
            refine ⟨⟨hplain.1, hplain.2, hnew⟩, fun m hm => ?_⟩
            obtain ⟨hident, hunder, hunseen⟩ := hmembers m hm
            exact ⟨hident, hunder, fun hs => hunseen (List.mem_cons_of_mem _ hs)⟩
          · rw [List.nodup_cons]
            exact ⟨fun hm => (hmembers _ hm).2.2 List.mem_cons_self, hnodup⟩

lemma isAccepted_of_visitEnum {name : String} {e : EnumDeclaration}
    (h : visitEnum sheet column name = .ok e) : e.name = name ∧ e.IsAccepted := by
  unfold visitEnum at h
  split at h
  · cases h
  · rename_i hident
    rw [Bool.not_eq_true', Bool.not_eq_false] at hident
    obtain ⟨members, hmembers, h⟩ := except_bind_eq_ok.1 h
    cases h
    obtain ⟨found, hfound, hmembers⟩ := except_bind_eq_ok.1 hmembers
    split at hmembers
    · cases hmembers
    · rename_i hempty
      cases hmembers
      obtain ⟨hall, hnodup⟩ := readMembersAt_eq_ok hfound
      refine ⟨rfl, hident, ?_, fun m hm => (hall m hm).1, fun m hm => (hall m hm).2.1, hnodup⟩
      rintro rfl
      exact hempty rfl

/-- The enumerations of a table that is accepted. -/
theorem isAccepted_of_readEnums {enums : List EnumDeclaration} (h : readEnums sheet = .ok enums) :
    (∀ e ∈ enums, e.IsAccepted) ∧ (enums.map EnumDeclaration.name).Nodup := by
  obtain ⟨places, -, hnodup, -, hfound⟩ := scanCells_eq_ok h
  have hboth : (∀ e ∈ enums, e.IsAccepted) ∧ enums.map EnumDeclaration.name =
      places.map fun i => normalize (sheet.cell 0 i) := by
    clear hnodup h
    induction hfound with
    | nil => exact ⟨nofun, rfl⟩
    | cons hvisit _ ih =>
      obtain ⟨hname, haccepted⟩ := isAccepted_of_visitEnum hvisit
      rw [List.forall_mem_cons, List.map_cons, List.map_cons, ih.2, hname]
      exact ⟨⟨haccepted, ih.1⟩, rfl⟩
  rw [hboth.2]
  exact ⟨hboth.1, hnodup⟩

end SheetCompiler
