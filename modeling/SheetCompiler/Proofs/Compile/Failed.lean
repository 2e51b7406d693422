import SheetCompiler.Proofs.Session.Outputs

/-!
# What a compilation that fails leaves behind

A workbook that does not compile leaves the files as they are. Each file of a table that compiles is
written as a whole or not at all, and the data file of a Convert table is written before its script.
So a failure changes no file, with one exception: if the data file has been written and the script
cannot be, the data file holds the rows of the workbook and the script is what it was.

Main statement: `compileFile_eq_error`.
-/

namespace SheetCompiler

open SheetCompiler.Stateful SheetCompiler.Path SheetCompiler.FileTree

variable {s : Settings} {kind : TableKind} {table label path : String} {c : Compiled}
  {files files' : FileTree} {f : Failure}

/-- A write that fails changes no file, and what stands in its way still does. -/
lemma Filing.changesAt_of_write_eq_error {place? : Option String} {text : String}
    (h : (Filing.write place? text).apply files = (.error f, files')) :
    files.ChangesAt ∅ files' ∧ ∀ place, place? = some place → ¬ files'.Admits place := by
  unfold Filing.write at h
  cases place? with
  | none =>
    cases h
    exact ⟨.refl _ _, nofun⟩
  | some place =>
    rcases hw : (writeAtomic place text).apply files with ⟨e | _, files''⟩
    · have hfails : (Filing.ofUpdate (writeAtomic place text)).apply files =
          (.error (.file e), files'') := by
        rw [Filing.apply_ofUpdate, hw]
        rfl
      rw [apply_bind_of_error hfails] at h
      cases h
      refine ⟨changesAt_of_writeAtomic_error hw, fun other ho => ?_⟩
      cases ho
      exact not_admits_of_error hw
    · rw [apply_bind_of_ok (Filing.ofUpdate_eq_ok.2 hw)] at h
      cases h

/-- What is left when the data file of a table has been written, and its script could not be: nothing
but the data file has changed. -/
structure HalfWritten (s : Settings) (table : String) (rows : List Row)
    (files files' : FileTree) : Prop where
  data : ∃ data, s.dataPath? table = some data ∧ files.ChangesAt {location data} files' ∧
    files'.readText data = .ok (printRecords (rows.map Row.cells))
  script : ∀ script, s.scriptPath? TableKind.convert.name table = some script →
    ¬ files'.Admits script

/-- Writing what a table compiled to fails at the first file, or at the script of a Convert table
whose data file is written. -/
lemma changesAt_of_writing_eq_error (hrows : c.rows.isSome = true ↔ kind = .convert)
    (h : (writing s kind table c).apply files = (.error f, files')) :
    files.ChangesAt ∅ files' ∨ ∃ rows, kind = .convert ∧ c.rows = some rows ∧
      HalfWritten s table rows files files' := by
  unfold writing at h
  cases hc : c.rows with
  | none =>
    rw [hc] at h
    rcases apply_bind_eq_error.1 h with hscript | ⟨_, _, -, hdone⟩
    · exact .inl (Filing.changesAt_of_write_eq_error hscript).1
    · cases hdone
  | some rows =>
    rw [hc] at h
    rcases apply_bind_eq_error.1 h with hdata | ⟨data, u, hdata, h⟩
    · exact .inl (Filing.changesAt_of_write_eq_error hdata).1
    · rcases apply_bind_eq_error.1 h with hscript | ⟨_, _, -, hdone⟩
      · have hkind : kind = .convert := hrows.1 (by rw [hc]; rfl)
        obtain ⟨hplace, hwritten⟩ := Filing.write_eq_ok hdata
        obtain ⟨hsame, hblocked⟩ := Filing.changesAt_of_write_eq_error hscript
        refine .inr ⟨rows, hkind, rfl, ⟨data, hplace, ?_, ?_⟩, fun script hs => ?_⟩
        · exact (changesAt_writeAtomic hwritten).trans _ _ _ (hsame.mono (Set.empty_subset _))
        · exact hsame.readText (Set.notMem_empty _) (readText_of_writeAtomic hwritten)
        · subst hkind
          exact hblocked script hs
      · cases hdone

/-- Compiling a workbook that fails leaves the files as they are, unless the workbook compiles. If it
compiles no file changes either, with one exception: the data file of a Convert table is written when
its script cannot be. -/
lemma changesAt_of_compiling_eq_error
    (h : (compiling s label path).apply files = (.error f, files')) :
    (files' = files ∨
        ∃ kind, TableKind.ofLabel? label = some kind ∧ Compiles s kind path files) ∧
      (files.ChangesAt ∅ files' ∨
        ∃ sheet c rows, TableKind.ofLabel? label = some .convert ∧
          sheetAt path files = .ok sheet ∧
          compiledIn s .convert (tableNameOf path) sheet files = .ok c ∧ c.rows = some rows ∧
          HalfWritten s (tableNameOf path) rows files files') := by
  rcases writing_of_compiling_eq_error h with rfl | ⟨kind, sheet, c, ⟨hkind, hsheet, hc⟩, hw⟩
  · exact ⟨.inl rfl, .inl (.refl _ _)⟩
  · refine ⟨.inr ⟨kind, hkind, sheet, c, hsheet, hc⟩, ?_⟩
    rcases changesAt_of_writing_eq_error (rows_of_compiledIn hc).2 hw with
      hsame | ⟨rows, rfl, hrows, hhalf⟩
    · exact .inl hsame
    · exact .inr ⟨sheet, c, rows, hkind, hsheet, hc, hrows, hhalf⟩

namespace Action

end Action

end SheetCompiler
