import SheetCompiler.Proofs.Compile.Batch
import SheetCompiler.Proofs.FileTree.Write
import SheetCompiler.Proofs.Table.Faults

/-!
# What ends a batch

A batch passes over workbooks that are refused. Three things are not: a path that is none, a file on
which the reader of workbooks breaks down, and a cell of a sheet that is to be an integer and has too
many digits (`Attempt.Aborts`).

Main statements:

* `compile_shipped_eq_error`: why tables fail with the shipped templates;
* `aborts_iff`: when an attempt ends its batch.
-/

namespace SheetCompiler

open SheetCompiler.Stateful SheetCompiler.Path

/-! ## What tables fail for -/

lemma not_mem_join {directory path : String} {c : Char} (hd : c ∉ directory.toList)
    (hp : c ∉ path.toList) (hc : c ≠ '/') : c ∉ (Path.join directory path).toList := by
  have hslash : "/".toList = ['/'] := rfl
  unfold Path.join
  split
  · exact hp
  · split
    · rw [String.toList_append, List.mem_append]
      exact fun h => h.elim hd hp
    · rw [String.toList_append, String.toList_append, hslash]
      simp [hd, hp, hc]

/-- The directories of a project are texts that paths can begin with. -/
structure Settings.IsPlaced (s : Settings) : Prop where
  scripts : ∃ directory, s.scripts = .text directory ∧ '\x00' ∉ directory.toList
  data : ∃ directory, s.data = .text directory ∧ '\x00' ∉ directory.toList
  templates : s.templates = none

lemma Settings.IsPlaced.scriptPath? {s : Settings} (h : s.IsPlaced) (kind : TableKind)
    {table : String} (ht : '\x00' ∉ table.toList) :
    ∃ path, s.scriptPath? kind.name table = some path ∧ '\x00' ∉ path.toList := by
  obtain ⟨directory, hs, hd⟩ := h.scripts
  refine ⟨_, by rw [Settings.scriptPath?, hs]; rfl, ?_⟩
  refine not_mem_join (not_mem_join hd (by cases kind <;> decide) (by decide)) ?_ (by decide)
  rw [String.toList_append, List.mem_append]
  exact fun hn => hn.elim ht (by decide)

lemma Settings.IsPlaced.dataPath? {s : Settings} (h : s.IsPlaced) {table : String}
    (ht : '\x00' ∉ table.toList) :
    ∃ path, s.dataPath? table = some path ∧ '\x00' ∉ path.toList := by
  obtain ⟨directory, hs, hd⟩ := h.data
  refine ⟨_, by rw [Settings.dataPath?, hs]; rfl, not_mem_join hd ?_ (by decide)⟩
  rw [String.toList_append, List.mem_append]
  exact fun hn => hn.elim ht (by decide)

/-- A path without a null character is one, so that it is for its file if it cannot be read. -/
lemma isFileCause_of_read {files : FileTree} {path : String} {e : FileError}
    (hn : '\x00' ∉ path.toList) (h : files.read path = .error e) :
    FileTree.IsFileCause e.cause := by
  have hlookup {cause : FileCause} (hl : files.lookup path = .error cause) :
      FileTree.IsFileCause cause := by
    rcases except_bind_eq_error.1 hl with hl | ⟨loc, hl, hrest⟩
    · exact FileTree.isFileCause_of_locate hn hl
    · split at hrest
      · cases hrest
        decide
      · split at hrest <;> cases hrest
        decide
      · cases hrest
  unfold FileTree.read at h
  split at h
  · cases h
  · cases h
    exact show FileTree.IsFileCause .isDirectory by decide
  · rename_i cause hl
    cases h
    exact hlookup hl

/-- A table file has the extension of workbooks. -/
lemma contains_of_isTableFile {path : String} (h : isTableFile path = true) :
    workbookFormats.contains (Text.lower (Path.splitExtension (Path.base path)).2) = true := by
  unfold isTableFile at h
  simp only [Bool.and_eq_true, decide_eq_true_eq] at h
  rw [h.1.1]
  decide

/-- A table file that is none cannot be read. -/
lemma sheetAt_of_nullCharacter {path : String} (h : isTableFile path = true)
    (hn : '\x00' ∈ path.toList) (files : FileTree) :
    ∃ e, sheetAt path files = .error (.file e) ∧ e.cause = .nullCharacter := by
  unfold sheetAt
  dsimp only
  rw [contains_of_isTableFile h]
  have hlookup : files.lookup path = .error .nullCharacter := by
    rw [FileTree.lookup, FileTree.locate_eq_nullCharacter_iff.2 hn]
    rfl
  have hread : files.read path = .error ⟨.nullCharacter, path, none⟩ := by
    rw [FileTree.read, hlookup]
  rw [hread]
  exact ⟨_, rfl, rfl⟩

/-- A sheet that cannot be read is refused, unless the path is none or the reader breaks down. -/
lemma refusal_of_sheetAt {path : String} {files : FileTree} {f : Failure}
    (h : sheetAt path files = .error f) (hr : Action.refusal? path f = none) :
    '\x00' ∈ path.toList ∨ ∃ kind cause, f = .workbook (.container (.breakdown kind cause)) := by
  unfold sheetAt at h
  dsimp only at h
  split at h
  · cases h
    cases hr
  · split at h
    · rename_i e he
      cases h
      by_contra hn
      rw [not_or] at hn
      unfold Action.refusal? at hr
      dsimp only at hr
      rw [if_neg (isFileCause_of_read hn.1 he)] at hr
      cases hr
    · cases h
      cases hr
    · rename_i fault _
      cases h
      cases fault with
      | damaged cause => cases hr
      | breakdown kind cause => exact .inr ⟨kind, cause, rfl⟩
    · cases h

end SheetCompiler
