import SheetCompiler.Proofs.Compile.Linked
import SheetCompiler.Proofs.Compile.Reload

/-!
# References of loaded tables

A directory in which every script is that of a table declares with each table those that it refers
to, provided that all of its scripts run to their ends: the script that a reference was accepted for
is one of them. Which tables a registry has does not depend on the order in which scripts declare
them, and neither does which references lead somewhere.

A registry reads the records of a table when they are first asked for. It has declared the same
tables before and after (`Registry.HasDeclared`), so that what holds of the first reference that is
followed holds of all of them.

Main statements:

* `Registry.HasDeclared.resolve`: following a reference fails for the ID alone;
* `FileTree.IsLinked.exists_declares`: what a table refers to is declared, and has its rows;
* `FileTree.IsLinked.follows`: every reference of a registry leads to one of its tables.
-/

namespace SheetCompiler

open SheetCompiler.Path SheetCompiler.Script SheetCompiler.Stateful
open SheetCompiler.Action (Declares scriptsIn scriptExtension)

variable {s : Settings} {kind : TableKind} {scripts table name file : String} {files : FileTree}
  {d : Declared} {ds : List Declared} {type : RecordType} {rows : List Row}

/-! ## Registries of declared tables -/

namespace Registry

variable {r : Registry} {t : DeclaredTable} {records : List StoredRecord} {f : Field}

/-- A registry has the tables that scripts have declared, one after the other. The records that it
has read are those of the data files. -/
structure HasDeclared (files : FileTree) (ds : List Declared) (r : Registry) : Prop where
  tables : ∀ name, (r.tables.get? name).map DeclaredTable.type =
    ((ds.foldl declare (.empty r.data)).tables.get? name).map DeclaredTable.type
  rows : ∀ name t records, r.tables.get? name = some t → t.rows = some records →
    readRecords files t.type (r.dataPath name) = .ok records

/-- The tables that scripts have declared, without any records. -/
lemma mem_of_get?_declare (hempty : r.tables = [])
    (ht : (ds.foldl declare r).tables.get? name = some t) :
    t.rows = none ∧ ∃ d ∈ ds, (name, t.type) ∈ d.tables := by
  rw [tables_declare, hempty, Pairs.get?_putAll, Pairs.get?_nil, Option.or_none] at ht
  obtain ⟨⟨name', type⟩, hmem, heq⟩ :=
    List.mem_map.1 (List.mem_reverse.1 (Pairs.mem_of_get? ht))
  obtain ⟨rfl, rfl⟩ := Prod.mk.inj heq
  exact ⟨rfl, List.mem_flatMap.1 hmem⟩

/-- A registry without tables has those that scripts declare when it has taken them over. -/
lemma hasDeclared_of_declare (hempty : r.tables = []) {r' : Registry}
    (htables : r'.tables = (ds.foldl declare r).tables) (files : FileTree) :
    r'.HasDeclared files ds := by
  refine ⟨fun name => ?_, fun name t records ht hrows => ?_⟩
  · rw [htables, tables_declare, tables_declare, hempty]
    rfl
  · rw [htables] at ht
    rw [(mem_of_get?_declare hempty ht).1] at hrows
    cases hrows

namespace HasDeclared

variable (h : r.HasDeclared files ds)
include h

/-- Every table is one that a script declares. -/
lemma exists_declared (ht : r.tables.get? name = some t) :
    ∃ d ∈ ds, (name, t.type) ∈ d.tables := by
  have htype := h.tables name
  rw [ht, Option.map_some] at htype
  obtain ⟨t', ht', heq⟩ := Option.map_eq_some_iff.1 htype.symm
  rw [← heq]
  exact (mem_of_get?_declare rfl ht').2

/-- Every table that a script declares is there. -/
lemma exists_table (hd : d ∈ ds) (hmem : (name, type) ∈ d.tables) :
    ∃ t, r.tables.get? name = some t := by
  have htype := h.tables name
  cases ht : r.tables.get? name with
  | some t => exact ⟨t, rfl⟩
  | none =>
    rw [ht, Option.map_none, eq_comm, Option.map_eq_none_iff, tables_declare, Pairs.get?_putAll,
      Option.or_eq_none_iff, Pairs.get?_eq_none_iff, Pairs.names, List.map_reverse,
      List.mem_reverse, List.map_map] at htype
    exact absurd (List.mem_map.2 ⟨_, List.mem_flatMap.2 ⟨d, hd, hmem⟩, rfl⟩) htype.1

/-- The records of a table are those of its data file, and the same tables are declared when they
have been read. -/
lemma apply_rows (ht : r.tables.get? name = some t)
    (hread : readRecords files t.type (r.dataPath name) = .ok records) :
    ∃ r' : Registry, (Registry.rows files name).apply r = (.ok records, r') ∧
      r'.data = r.data ∧ r'.HasDeclared files ds := by
  obtain ⟨type, _ | kept⟩ := t
  · -- the records are read now
    refine ⟨r.keeping name type records, ?_, rfl, fun other => ?_, fun other t' kept ht' hkept => ?_⟩
    · rw [Registry.apply_rows ht, hread]
    · have hother := h.tables other
      by_cases hname : name = other
      · subst hname
        rw [ht] at hother
        rw [get?_keeping]
        exact hother
      · rw [keeping, Pairs.get?_put_of_ne hname]
        exact hother
    · by_cases hname : name = other
      · subst hname
        rw [get?_keeping] at ht'
        cases ht'
        cases hkept
        exact hread
      · rw [keeping, Pairs.get?_put_of_ne hname] at ht'
        exact h.rows other t' kept ht' hkept
  · have hsame := h.rows name _ kept ht rfl
    obtain rfl := Except.ok.inj (hread.symm.trans hsame)
    exact ⟨r, rows_of_loaded ht rfl files, rfl, h⟩

/-- A reference is followed to the record of an ID, and to nothing else than that the rows have no
such ID can it fail for. -/
theorem resolve (hf : f.isReference = true)
    (ht : r.tables.get? (TypeToken.referencedTable f.type) = some t) (hrecords : AreRecords rows)
    (hread : files.readText (r.dataPath (TypeToken.referencedTable f.type)) =
      .ok (printRecords (rows.map Row.cells)))
    (hmade : rows = [] ∨ t.type.makingFault? = none) (id : String) :
    ∃ r' : Registry, (Registry.resolve files f (.text id)).apply r =
        (if id ∈ rows.map Row.id then
            .ok (.record (TypeToken.referencedTable f.type) (.text id))
          else .error (.key (.text id)), r') ∧
      r'.data = r.data ∧ r'.HasDeclared files ds := by
  have hloaded : readRecords files t.type (r.dataPath (TypeToken.referencedTable f.type)) =
      .ok (rows.map recordOfRow) := by
    rw [readRecords_of_rows hrecords.textual hread]
    rcases recordsOf_rows_cases t.type hrecords.ids hrecords.distinct with
      ⟨-, hok⟩ | ⟨hfault, -⟩
    · exact hok
    · exact absurd hmade hfault
  obtain ⟨r', hrows, hdata, hdeclared⟩ := h.apply_rows ht hloaded
  refine ⟨r', ?_, hdata, hdeclared⟩
  have hfound : (Registry.record? files (TypeToken.referencedTable f.type) (.text id)).apply r =
      (.ok (findRecord? (rows.map recordOfRow) (.text id)), r') := by
    rw [record?, apply_bind_of_ok hrows]
    rfl
  rw [Registry.resolve, if_pos hf]
  dsimp only
  split_ifs with hid
  · obtain ⟨row, hrow, rfl⟩ := List.mem_map.1 hid
    rw [findRecord?_rows hrecords.distinct hrow] at hfound
    have hrecord : (Registry.record files (TypeToken.referencedTable f.type)
        (.text row.id)).apply r = (.ok (recordOfRow row), r') := by
      rw [record, apply_bind_of_ok hfound]
      rfl
    rw [apply_bind_of_ok hrecord]
    rfl
  · have hnone : findRecord? (rows.map recordOfRow) (.text id) = none := by
      rw [findRecord?, List.find?_eq_none]
      intro record hrecord
      obtain ⟨row, hrow, rfl⟩ := List.mem_map.1 hrecord
      have hne : id ≠ row.id := fun heq => hid (heq ▸ List.mem_map_of_mem hrow)
      simp [recordOfRow, Json.isSameKey_text, hne.symm]
    rw [hnone] at hfound
    have hrecord : (Registry.record files (TypeToken.referencedTable f.type) (.text id)).apply r =
        (.error (.key (.text id)), r') := by
      rw [record, apply_bind_of_ok hfound]
      rfl
    rw [apply_bind_of_error hrecord]

end HasDeclared

/-- A reference leads to a table whose data file holds rows. If records can be made of them, then
following it fails for the IDs that the rows do not have, and for nothing else; and it can be
followed again afterwards. -/
def Follows (files : FileTree) (ds : List Declared) (r : Registry) (f : Field) : Prop :=
  ∃ t rows, r.tables.get? (TypeToken.referencedTable f.type) = some t ∧
    files.readText (r.dataPath (TypeToken.referencedTable f.type)) =
      .ok (printRecords (rows.map Row.cells)) ∧
    (rows = [] ∨ t.type.makingFault? = none → ∀ id,
      ∃ r' : Registry, (Registry.resolve files f (.text id)).apply r =
          (if id ∈ rows.map Row.id then
              .ok (.record (TypeToken.referencedTable f.type) (.text id))
            else .error (.key (.text id)), r') ∧
        r'.data = r.data ∧ r'.HasDeclared files ds)

end Registry

/-! ## Directories of scripts of tables -/

/-- A script lies where the directory leads that it is found in. -/
lemma node?_of_mem_scriptsIn {directory : String} (h : file ∈ scriptsIn files directory) :
    files.node? (location directory ++ [file]) ≠ none := by
  unfold scriptsIn at h
  split at h
  · rename_i l hlookup
    unfold FileTree.lookup at hlookup
    obtain ⟨l', hlocate, hrest⟩ := except_bind_eq_ok.1 hlookup
    obtain rfl := (FileTree.locate_eq_ok_iff.1 hlocate).2.2
    have hl : l = location directory := by
      split at hrest
      · cases hrest
      · split at hrest <;> cases hrest
      · cases hrest
        rfl
    subst hl
    exact FileTree.node?_of_mem_children (List.mem_filter.1 h).1
  · cases h

namespace FileTree.IsLinked

variable (h : files.IsLinked s scripts)
include h

/-- What runs to its end is the script of a table. -/
lemma exists_of_declares (hd : Declares files scripts kind file d) :
    ∃ table text, file = table ++ ".py" ∧ IsTableScript s scripts files kind table text ∧
      ∃ module, Script.run module text = (d, none) := by
  obtain ⟨hmem, hdeclared⟩ := hd
  obtain ⟨text, hread, hrun⟩ := declared?_eq_some_iff.1 hdeclared
  have hpy := Action.endsWith_of_mem_scriptsIn hmem
  have hslash : '/' ∉ file.toList := h.proper _ _ (node?_of_mem_scriptsIn hmem)
  rcases textAt?_of_readText hread with hthere | rfl
  · rw [location_join_script hslash hpy] at hthere
    obtain ⟨table, hfile, hscript⟩ := h.scripts kind file text hpy hthere
    exact ⟨table, text, hfile, hscript, _, hrun⟩
  · obtain ⟨fault, hfails⟩ := run_workbookMark (kind.moduleOf (splitExtension file).1)
    rw [hrun] at hfails
    cases hfails

/-- What declares a table is the script of a Convert table, which has its rows. -/
lemma isTable_of_declares (hd : Declares files scripts kind file d)
    (hmem : (table, type) ∈ d.tables) :
    HasRows s files table ∧ d.IsTable files scripts table := by
  obtain ⟨owner, text, -, hscript, module, hrun⟩ := h.exists_of_declares hd
  by_cases hkind : kind = .convert
  · have htable := hscript.declares hkind module d hrun
    have howner : table ∈ d.tables.map Prod.fst := List.mem_map_of_mem hmem
    rw [htable.names, List.mem_singleton] at howner
    rw [howner]
    exact ⟨hscript.rows hkind, htable⟩
  · have hnone := hscript.others hkind module
    rw [hrun] at hnone
    rw [hnone] at hmem
    cases hmem

section

variable (hruns : ∀ kind, ∀ file ∈ scriptsIn files (join scripts kind.name),
  (files.declared? kind (join scripts kind.name) file).isSome = true)
include hruns

/-- What is in the place of a Convert script declares the table of its name. -/
lemma exists_declares_of_contains (hslash : '/' ∉ name.toList)
    (hthere : files.contains (Settings.scriptPath scripts .convert name) = true) :
    ∃ d type, Declares files scripts .convert (name ++ ".py") d ∧ (name, type) ∈ d.tables := by
  have hmem := Action.mem_scriptsIn hslash hthere
  obtain ⟨d, hd⟩ := Option.isSome_iff_exists.1 (hruns .convert _ hmem)
  obtain ⟨table, text, hfile, hscript, module, hrun⟩ := h.exists_of_declares ⟨hmem, hd⟩
  obtain rfl := (String.append_left_inj ".py").1 hfile
  have hname : name ∈ d.tables.map Prod.fst := by
    rw [(hscript.declares rfl module d hrun).names]
    exact List.mem_singleton_self name
  obtain ⟨⟨_, type⟩, htype, rfl⟩ := List.mem_map.1 hname
  exact ⟨d, type, ⟨hmem, hd⟩, htype⟩

/-- What a declared table refers to is declared, and has its rows in a data file. -/
theorem exists_declares (hd : Declares files scripts kind file d) (hmem : (table, type) ∈ d.tables)
    {f : Field} (hf : f ∈ type.fields) (href : f.isReference = true) :
    HasRows s files (TypeToken.referencedTable f.type) ∧ ∃ kind file d type,
      Declares files scripts kind file d ∧ (TypeToken.referencedTable f.type, type) ∈ d.tables := by
  obtain ⟨hrows, htable⟩ := h.isTable_of_declares hd hmem
  rcases htable.references table type hmem f hf href with hself | ⟨hslash, hthere⟩
  · rw [hself]
    exact ⟨hrows, kind, file, d, type, hd, hmem⟩
  · obtain ⟨d', type', hd', hmem'⟩ := h.exists_declares_of_contains hruns hslash hthere
    exact ⟨(h.isTable_of_declares hd' hmem').1, _, _, d', type', hd', hmem'⟩

/-- Every reference of a registry leads to one of its tables, whatever the order is in which scripts
have declared them, and it can be followed. -/
theorem follows (hds : ∀ d, d ∈ ds ↔ ∃ kind file, Declares files scripts kind file d) {r : Registry}
    (hr : r.HasDeclared files ds) {t : DeclaredTable} (ht : r.tables.get? table = some t)
    {f : Field} (hf : f ∈ t.type.fields) (href : f.isReference = true) :
    (∃ other, r.tables.get? (TypeToken.referencedTable f.type) = some other) ∧
      (s.data = .text r.data → r.Follows files ds f) := by
  obtain ⟨d, hd, hmem⟩ := hr.exists_declared ht
  obtain ⟨kind, file, hd⟩ := (hds d).1 hd
  obtain ⟨hrows, kind', file', d', type', hd', hmem'⟩ := h.exists_declares hruns hd hmem hf href
  obtain ⟨other, hother⟩ := hr.exists_table ((hds d').2 ⟨kind', file', hd'⟩) hmem'
  refine ⟨⟨other, hother⟩, fun hdata => ?_⟩
  obtain ⟨path, rows, hpath, hrecords, hread⟩ := hrows
  obtain ⟨directory, hdirectory, hplace⟩ := Settings.dataPath?_eq_some hpath
  subst hplace
  obtain rfl := Json.text.inj (hdata.symm.trans hdirectory)
  exact ⟨other, rows, hother, hread, fun hmade id => hr.resolve href hother hrecords hread hmade id⟩

end

end FileTree.IsLinked

end SheetCompiler
