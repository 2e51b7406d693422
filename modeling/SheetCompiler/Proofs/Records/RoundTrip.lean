import SheetCompiler.Proofs.Compile.Files
import SheetCompiler.Proofs.FileTree.Change
import SheetCompiler.Proofs.Json.RoundTrip
import SheetCompiler.Records

/-!
# Data files are read back

The records of a data file are texts and lists of texts under distinct keys (`Record.IsPlain`). A
data file gives back the records it was written from, in their order, and saving what it gives
writes the same file again.

Main statements:

* `isTextual_records`: a data file holds nothing that is read otherwise than it was written;
* `rewriteRecords_of_wrote`: a data file that is read and saved is the file that it was.
-/

namespace SheetCompiler

open SheetCompiler.Stateful SheetCompiler.Path

/-- Whether the cells of a record are texts and lists of texts under distinct keys. -/
structure Record.IsPlain (record : Record) : Prop where
  keys : (Pairs.names record).Nodup
  cells : ∀ cell ∈ record, (∃ text, cell.2 = .text text) ∨ ∃ texts, cell.2 = .ofTexts texts

/-- Plain records hold no numbers, and none of their keys hides another one. -/
lemma isTextual_records {records : List Record} (h : ∀ record ∈ records, record.IsPlain) :
    (Json.list (records.map .object)).IsTextual := by
  refine .list fun item hitem => ?_
  obtain ⟨record, hrecord, rfl⟩ := List.mem_map.1 hitem
  refine .object (h record hrecord).keys fun cell hcell => ?_
  rcases (h record hrecord).cells cell hcell with ⟨text, htext⟩ | ⟨texts, htexts⟩
  · rw [htext]
    exact .text text
  · rw [htexts]
    exact Json.isTextual_ofTexts texts

namespace Action

/-- Reads a data file and saves what it holds. -/
def rewriteRecords (path : String) : Action Unit := do
  let value ← ofExcept (Records.ofFile (← get).files path)
  writeValue path value

/-- Records have been written to a data file: as the rows of a table, or saved as a whole. -/
inductive Wrote (records : List Record) (path : String) (p q : Project) : Prop
  | rows (s : Settings) (table : String) (rows : List Row) (hrows : rows.map Row.cells = records)
    (h : (writeData s table rows).apply p = (.ok path, q))
  | saved (h : (writeValue path (.list (records.map .object))).apply p = (.ok (), q))

/-- Either way the text of the records is written. -/
lemma Wrote.writeAtomic {records : List Record} (hplain : ∀ record ∈ records, record.IsPlain)
    {path : String} {p q : Project} (h : Wrote records path p q) :
    (FileTree.writeAtomic path (printRecords records)).apply p.files = (.ok (), q.files) := by
  cases h with
  | rows s table rows hrows h =>
    subst hrows
    exact (Filing.write_eq_ok ((shows_writeData s table rows p).apply_eq_ok h)).2
  | saved h =>
    rw [writeValue_of_isWhole (isTextual_records hplain).isWhole] at h
    exact Filing.ofUpdate_eq_ok.1 ((shows_onFiles _ p).apply_eq_ok h)

lemma ofFile_of_readText {records : List Record} (h : ∀ record ∈ records, record.IsPlain)
    {files : FileTree} {path : String}
    (hread : files.readText path = .ok (printRecords records)) :
    Records.ofFile files path = .ok (.list (records.map .object)) := by
  have hback : Json.read (printRecords records) = .ok (.list (records.map .object)) :=
    Json.read_print (isTextual_records h)
  unfold Records.ofFile
  rw [hread]
  change (Json.read (printRecords records)).mapError Failure.json = _
  rw [hback]
  rfl

/-- The text of plain records gives them back, whatever characters they have. So a data file that
was written from them gives them, and reading and saving it leaves every file as it is. -/
theorem rewriteRecords_of_wrote {records : List Record}
    (h : ∀ record ∈ records, record.IsPlain) :
    Json.read (printRecords records) = .ok (.list (records.map .object)) ∧
      ∀ {path : String} {p q : Project}, Wrote records path p q →
        q.files.readText path = .ok (printRecords records) ∧
          Records.ofFile q.files path = .ok (.list (records.map .object)) ∧
          ∃ r, (rewriteRecords path).apply q = (.ok (), r) ∧
            r.files.readText path = .ok (printRecords records) ∧
            ∀ l, r.files.node? l = q.files.node? l := by
  refine ⟨Json.read_print (isTextual_records h), fun {path p q} hwrote => ?_⟩
  have hw := hwrote.writeAtomic h
  have hread := FileTree.readText_of_writeAtomic hw
  have hfile := ofFile_of_readText h hread
  -- what has been written can be written again
  obtain ⟨files, hagain⟩ :=
    FileTree.writeAtomic_of_admits (FileTree.admits_of_writeAtomic hw) (printRecords records)
  have hsave : (rewriteRecords path).apply q = (.ok (), { q with files }) := by
    have hvalue : (ofExcept (Records.ofFile q.files path)).apply q =
        (.ok (.list (records.map .object)), q) := by
      rw [hfile]
      rfl
    have hfiles : (writeValue path (.list (records.map .object))).apply q =
        (.ok (), { q with files }) := by
      rw [writeValue_of_isWhole (isTextual_records h).isWhole, apply_onFiles, ← printRecords,
        hagain]
      rfl
    rw [rewriteRecords, apply_bind, apply_get]
    dsimp only
    rw [apply_bind_of_ok hvalue, hfiles]
  exact ⟨hread, hfile, _, hsave, FileTree.readText_of_writeAtomic hagain,
    FileTree.node?_of_rewritten hw hagain⟩

/-- Records with control characters, quotes, line separators, and nothing at all. -/
def noteRecords : List Record :=
  [[("ID", .text "1"), ("Note", .text "\x01\t\"\\\u2028\u00e9"),
      ("", .ofTexts ["", "\r\n", "\u007f"])],
    [("Tags", .ofTexts []), ("ID", .text "")], []]

/-- They are saved, read and saved again. -/
theorem noteRecords_rewritten :
    ∃ q r, Wrote noteRecords "Resources/Note.json" Project.empty q ∧
      Records.ofFile q.files "Resources/Note.json" = .ok (.list (noteRecords.map .object)) ∧
      (rewriteRecords "Resources/Note.json").apply q = (.ok (), r) ∧
      ∀ l, r.files.node? l = q.files.node? l := by
  have hplain : ∀ record ∈ noteRecords, record.IsPlain := by
    simp only [noteRecords, List.forall_mem_cons]
    refine ⟨⟨by decide, ?_⟩, ⟨by decide, ?_⟩, ⟨by decide, nofun⟩, nofun⟩
    · simp only [List.forall_mem_cons]
      exact ⟨.inl ⟨_, rfl⟩, .inl ⟨_, rfl⟩, .inr ⟨_, rfl⟩, nofun⟩
    · simp only [List.forall_mem_cons]
      exact ⟨.inr ⟨_, rfl⟩, .inl ⟨_, rfl⟩, nofun⟩
  rcases h : (writeValue "Resources/Note.json" (.list (noteRecords.map .object))).apply
    Project.empty with ⟨e | _, q⟩
  · have hok : ((writeValue "Resources/Note.json" (.list (noteRecords.map .object))).apply
        Project.empty).1.isOk = true := by decide +kernel
    rw [h] at hok
    cases hok
  · obtain ⟨-, hwrote⟩ := rewriteRecords_of_wrote hplain
    obtain ⟨-, hfile, r, hr, -, hsame⟩ := hwrote (.saved h)
    exact ⟨q, r, .saved h, hfile, hr, hsame⟩

end Action

end SheetCompiler
