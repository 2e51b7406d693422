import SheetCompiler.CommandLine.Run
import SheetCompiler.Proofs.FileTree.Rewrite
import SheetCompiler.Proofs.Records.Edit

/-!
# The command that edits

The command that edits a cell ends well and has written the edited records to the data file, or it
ends otherwise and every file holds what it did. Together with what edits do to the records of
accepted rows this is all there is to editing (`editing`).

Main statements:

* `editRecord_cases`: how an edit of a data file ends;
* `run_edit`: how the command ends;
* `editing`: any edits of the records of accepted rows, and the command.
-/

namespace SheetCompiler

open SheetCompiler.Path SheetCompiler.Stateful

/-- Loading a manifest changes no file and no settings. -/
lemma Action.apply_loadManifest_snd (p : Project) :
    (loadManifest.apply p).2.files = p.files ∧ (loadManifest.apply p).2.settings = p.settings := by
  unfold loadManifest
  rw [apply_bind, apply_get]
  dsimp only
  cases Manifest.ofFile p.files p.settings.manifest with
  | error e => exact ⟨rfl, rfl⟩
  | ok found =>
    cases found with
    | none => exact ⟨rfl, rfl⟩
    | some compilations =>
      dsimp only
      rw [apply_bind, report, apply_modify]
      dsimp only
      split <;> exact ⟨rfl, rfl⟩

namespace CommandLine

/-! ## Editing a data file -/

/-- An edit has been saved: the data file holds the edited records, and the other files what they
did. -/
structure Saved (path : String) (id column given : Json) (t u : FileTree) : Prop where
  edited : ∃ loaded edited record, (Records.ofFile t path).bind Records.itemsOf = .ok loaded ∧
    Records.setCell loaded id column given = .ok (edited, record) ∧
    u.read path = .ok (.text (Json.print (.list edited)))
  others : ∀ l, l ≠ location path → u.content? l = t.content? l

/-- How an edit ends: it has been saved, or it is refused or fails and no file changes. -/
def EndsEdit (path : String) (id column given : Json) (ending : Except Failure Nat)
    (t u : FileTree) : Prop :=
  (ending = .ok 0 ∧ Saved path id column given t u) ∨
    ((ending = .ok 1 ∨ ∃ e, ending = .error e) ∧ ∀ l, u.content? l = t.content? l)

variable {path table : String} {id column given : Json} {p q : Project}

lemma apply_refuse (table : String) (e : Failure) (p : Project) :
    ∃ outcome q, (refuse table e).apply p = (.ok outcome, q) ∧ q.files = p.files ∧
      (outcome.ending = .ok 1 ∨ ∃ e, outcome.ending = .error e) := by
  cases e with
  | record fault => exact ⟨_, _, rfl, rfl, .inl rfl⟩
  | _ => exact ⟨_, _, rfl, rfl, .inr ⟨_, rfl⟩⟩

/-- Saving writes the data file or changes no file. -/
lemma apply_quietly_save (path : String) (value : Json) (e : Event) (p : Project) :
    ∃ outcome q, (quietly do
        Action.writeValue path value
        Action.report e).apply p = (.ok outcome, q) ∧
      ((outcome.ending = .ok 0 ∧ q.files.read path = .ok (.text value.print) ∧
          ∀ l, l ≠ location path → q.files.content? l = p.files.content? l) ∨
        ((∃ e, outcome.ending = .error e) ∧ ∀ l, q.files.content? l = p.files.content? l)) := by
  have hsave := Action.apply_writeValue path value p
  rcases hw : (Filing.writeValue path value).apply p.files with ⟨f | _, files⟩
  · rw [hw] at hsave
    have hfail := apply_bind_of_error hsave fun _ => Action.report e
    refine ⟨⟨[], .error f⟩, { p with files }, ?_, .inr ⟨⟨_, rfl⟩, fun l =>
      (Filing.changesAt_of_writeValue_error hw ∅).files l (Set.notMem_empty l)⟩⟩
    unfold quietly
    rw [apply_bind, Action.apply_attempt, hfail]
    rfl
  · rw [hw] at hsave
    have hwritten := Filing.ofUpdate_eq_ok.1 (Filing.writeValue_eq_ok hw)
    have hdone := apply_bind_of_ok hsave fun _ => Action.report e
    refine ⟨⟨[], .ok 0⟩, { p with files, events := p.events ++ [e] }, ?_, .inl ⟨rfl,
      FileTree.read_of_writeAtomic hwritten,
      fun l hl => (FileTree.changesAt_writeAtomic hwritten).files l hl⟩⟩
    unfold quietly
    rw [apply_bind, Action.apply_attempt, hdone]
    rfl

/-- How an edit of a data file ends. -/
theorem editRecord_cases (path table : String) (id column given : Json) (p : Project) :
    ∃ outcome q, (editRecord path table id column given).apply p = (.ok outcome, q) ∧
      EndsEdit path id column given outcome.ending p.files q.files := by
  unfold editRecord
  rw [apply_bind, apply_get]
  dsimp only
  cases hload : (Records.ofFile p.files path).bind Records.itemsOf with
  | error e => exact ⟨_, _, rfl, .inr ⟨.inr ⟨e, rfl⟩, fun _ => rfl⟩⟩
  | ok loaded =>
    dsimp only
    cases hset : Records.setCell loaded id column given with
    | error e =>
      obtain ⟨outcome, q, happly, hfiles, hending⟩ := apply_refuse table e p
      exact ⟨outcome, q, happly, .inr ⟨hending, fun l => by rw [hfiles]⟩⟩
    | ok result =>
      obtain ⟨edited, record⟩ := result
      obtain ⟨outcome, q, happly, hending⟩ := apply_quietly_save path (.list edited)
        (.cellUpdated column.display id.display path) p
      refine ⟨outcome, q, happly, ?_⟩
      rcases hending with ⟨hok, hread, hothers⟩ | ⟨herror, hsame⟩
      · exact .inl ⟨hok, ⟨loaded, edited, record, hload, hset, hread⟩, hothers⟩
      · exact .inr ⟨.inr herror, hsame⟩

/-! ## The command -/

/-- How a command that works on a data file ends: for another table than a Convert table it is
refused, and without a place for data files it fails. -/
lemma apply_onDataFile (table : String) (work : String → Action Outcome) (p : Project) :
    (∃ path, p.settings.dataPath? table = some path ∧
      (onDataFile table work).apply p = (work path).apply p) ∨
    ∃ outcome q, (onDataFile table work).apply p = (.ok outcome, q) ∧ q.files = p.files ∧
      (outcome.ending = .ok 1 ∨ ∃ e, outcome.ending = .error e) := by
  unfold onDataFile
  rw [apply_bind, apply_get]
  dsimp only
  split
  · cases hpath : p.settings.dataPath? table with
    | some path => exact .inl ⟨path, rfl, rfl⟩
    | none => exact .inr ⟨_, _, rfl, rfl, .inr ⟨_, rfl⟩⟩
  · exact .inr ⟨_, _, rfl, rfl, .inl rfl⟩

/-- The command that edits, behind the manifest. -/
lemma start_edit (table : String) (id column value : Option String) (p : Project) :
    ∃ outcome q, (Command.edit table id column value).start.apply p = (.ok outcome, q) ∧
      ((outcome.ending = .ok 0 ∧ ∃ path, p.settings.dataPath? table = some path ∧
          Saved path (argumentValue id) (argumentValue column) (argumentValue value)
            p.files q.files) ∨
        ((outcome.ending = .ok 1 ∨ ∃ e, outcome.ending = .error e) ∧
          ∀ l, q.files.content? l = p.files.content? l)) := by
  obtain ⟨hfiles, hsettings⟩ := Action.apply_loadManifest_snd p
  unfold Command.start
  rw [apply_bind, Action.apply_attempt]
  dsimp only
  rcases hload : Action.loadManifest.apply p with ⟨e | _, loaded⟩
  · rw [hload] at hfiles
    exact ⟨_, _, rfl, .inr ⟨.inr ⟨e, rfl⟩, fun l => by rw [hfiles]⟩⟩
  · rw [hload] at hfiles hsettings
    dsimp only at hfiles hsettings ⊢
    rw [Command.run, ← hfiles, ← hsettings]
    rcases apply_onDataFile table (fun path => editRecord path table (argumentValue id)
      (argumentValue column) (argumentValue value)) loaded with
      ⟨path, hpath, hwork⟩ | ⟨outcome, q, happly, hsame, hending⟩
    · obtain ⟨outcome, q, hedit, hends⟩ := editRecord_cases path table (argumentValue id)
        (argumentValue column) (argumentValue value) loaded
      exact ⟨outcome, q, hwork.trans hedit, hends.imp_left fun h => ⟨h.1, path, hpath, h.2⟩⟩
    · exact ⟨outcome, q, happly, .inr ⟨hending, fun l => by rw [hsame]⟩⟩

/-- A command line that edits ends with the edited records in the data file, or no file changes,
whatever the configuration file is read as. -/
theorem run_edit {args : List String} {i : Invocation} {table : String}
    {id column value : Option String} (hparse : Invocation.parse args = .ok i)
    (hcommand : i.command = .edit table id column value) (read : ConfigReader) (p : Project) :
    ((run read args p).1.code = some 0 ∧ ∃ least settings path,
        i.prepare read p.files = .ok (least, settings) ∧ settings.dataPath? table = some path ∧
        Saved path (argumentValue id) (argumentValue column) (argumentValue value)
          p.files (run read args p).2.files) ∨
      (((run read args p).1.code = some 1 ∨ (run read args p).1.code = none) ∧
        ∀ l, (run read args p).2.files.content? l = p.files.content? l) := by
  have hrun : run read args p = i.run read p := by rw [run, hparse]
  rw [hrun, Invocation.run]
  cases hprepare : i.prepare read p.files with
  | error e => exact .inr ⟨.inr rfl, fun _ => rfl⟩
  | ok prepared =>
    obtain ⟨least, settings⟩ := prepared
    obtain ⟨outcome, q, happly, hends⟩ := start_edit table id column value
      { p with settings, loaded := settings, manifest := .empty, events := [] }
    dsimp only
    rw [hcommand, happly]
    dsimp only at hends ⊢
    rcases hends with ⟨hok, path, hpath, hsaved⟩ | ⟨hending, hsame⟩
    · refine .inl ⟨by rw [hok]; rfl, least, settings, path, rfl, hpath, hsaved⟩
    · refine .inr ⟨?_, hsame⟩
      rcases hending with hone | ⟨e, he⟩
      · exact .inl (by rw [hone]; rfl)
      · exact .inr (by rw [he]; rfl)

end CommandLine

/-! ## Editing -/

namespace Records

open SheetCompiler.CommandLine

/-- Whatever edits are made of the records of accepted rows, the records keep their order, their IDs
and their keys, hold texts and lists of lines, and are read back from a data file. An edit of them
is refused just if no record has its ID, if it is for the ID, or if the record has no such key, and
then nothing changes; else it puts one cell. Putting back what a cell is shown as changes nothing.
The command that edits saves the edited records in the data file that the configuration names,
however that is read, or no file changes. -/
theorem editing {sheet : Sheet} {columns : List Column} {resolver : Resolver} {start : Int}
    {rows : List Row} (h : readRowsFromAny sheet columns resolver start = .ok rows) :
    (∀ edits : List Edit, ∃ records : List Record,
      afterEdits ((rows.map Row.cells).map .object) edits = records.map .object ∧
      records.map idOf = (rows.map Row.cells).map idOf ∧
      records.map Pairs.names = (rows.map Row.cells).map Pairs.names ∧
      (∀ record ∈ records, IsStored record) ∧
      (∀ files path, FileTree.readText files path = .ok (printRecords records) →
        (ofFile files path).bind itemsOf = .ok (records.map .object)) ∧
      ∀ e : Edit,
        ((∃ fault, e.apply (records.map .object) = .error (.record fault)) ↔
          e.IsRefused records) ∧
        (e.IsRefused records → Edit.after (records.map .object) e = records.map .object) ∧
        (¬ e.IsRefused records →
          ∃ front record edited back, e.Puts records front record edited back) ∧
        ∀ front record back cell, IsFirst e.id records front record back → e.column ≠ idName →
          record.get? e.column = some cell →
          ∃ text, cellText? cell = some (.text text) ∧
            Edit.apply ⟨e.id, e.column, text⟩ (records.map .object) =
              .ok (records.map .object, record)) ∧
    ∀ args i table id column value, Invocation.parse args = .ok i →
      i.command = .edit table id column value → ∀ (read : ConfigReader) (p : Project),
      ((run read args p).1.code = some 0 ∧ ∃ least settings path,
          i.prepare read p.files = .ok (least, settings) ∧ settings.dataPath? table = some path ∧
          Saved path (argumentValue id) (argumentValue column) (argumentValue value)
            p.files (run read args p).2.files) ∨
        (((run read args p).1.code = some 1 ∨ (run read args p).1.code = none) ∧
          ∀ l, (run read args p).2.files.content? l = p.files.content? l) := by
  refine ⟨fun edits => ?_, fun args i table id column value hparse hcommand read p =>
    run_edit hparse hcommand read p⟩
  obtain ⟨records, hafter, hstored, hids, hnames⟩ :=
    isStored_afterEdits (isStored_of_readRows h) edits
  refine ⟨records, hafter, hids, hnames, hstored, fun files path hread => ?_, fun e =>
    ⟨Edit.isRefused_iff, Edit.after_of_isRefused, Edit.puts, ?_⟩⟩
  · have hplain : ∀ record ∈ records, record.IsPlain := fun record hrecord =>
      (hstored record hrecord).isPlain
    rw [Action.ofFile_of_readText hplain hread]
    rfl
  · intro front record back cell hfirst hcolumn hcell
    have hrecord : record ∈ records := by
      rw [hfirst.split]
      exact List.mem_append_right _ List.mem_cons_self
    exact Edit.apply_shownText hfirst (hstored record hrecord) hcolumn hcell

/-- The records of the table whose rows refer to one another. -/
def itemRecords : List Record :=
  [[("ID", .text "1"), ("_idNext", .text "2"), ("Parts", .ofTexts ["7", "8"])],
    [("ID", .text "2"), ("_idNext", .text "1")]]

/-- The files of a project with one record in a data file. -/
def recordFiles : FileTree := ⟨[
  (["ExcelDatabase"], .directory), (["ExcelDatabase", "Dist"], .directory),
  (["ExcelDatabase", "Resources"], .directory),
  (["ExcelDatabase", "Dist", "ParseResult.json"], .file (.text
    "[\x7b\"kind\":\"Convert\",\"name\":\"A\",\"sourcePath\":\"\"\x7d]")),
  (["ExcelDatabase", "Resources", "A.json"], .file (.text
    "[\x7b\"ID\":\"1\",\"B\":\"2\"\x7d]"))]⟩

/-- A list is edited, an ID is not, a list is put back, and the command saves an edit. -/
theorem editing_itemRecords :
    (∃ front record edited back,
      Edit.Puts ⟨"1", "Parts", "9\n10"⟩ itemRecords front record edited back) ∧
    Edit.after (itemRecords.map .object) ⟨"1", "ID", "3"⟩ = itemRecords.map .object ∧
    (∃ text, cellText? (.ofTexts ["7", "8"]) = some (.text text) ∧
      ∃ record, Edit.apply ⟨"1", "Parts", text⟩ (itemRecords.map .object) =
        .ok (itemRecords.map .object, record)) ∧
    ∃ path, Saved path (.text "1") (.text "B") (.text "3") recordFiles
      (run readConfig ["edit", "A", "1", "B", "3"]
        { Project.empty with files := recordFiles }).2.files := by
  obtain ⟨records, hafter, -, -, -, -, hedits⟩ := (editing itemSheet_rows).1 []
  -- no edit has been made yet
  obtain rfl : itemRecords = records :=
    List.map_injective_iff.2 (fun _ _ heq => Json.object.inj heq) hafter
  have hfirst : IsFirst "1" itemRecords [] itemRecords[0] [itemRecords[1]] := ⟨rfl, nofun, rfl⟩
  have hcell : itemRecords[0].get? "Parts" = some (.ofTexts ["7", "8"]) := rfl
  refine ⟨(hedits ⟨"1", "Parts", "9\n10"⟩).2.2.1 ?_,
    (hedits ⟨"1", "ID", "3"⟩).2.1 (.inr (.inl rfl)), ?_, ?_⟩
  · exact Edit.not_isRefused_of_isFirst hfirst (by decide) hcell
  · obtain ⟨text, htext, hsame⟩ :=
      (hedits ⟨"1", "Parts", ""⟩).2.2.2 _ _ _ _ hfirst (by decide) hcell
    exact ⟨text, htext, _, hsame⟩
  · have hcode : (run readConfig ["edit", "A", "1", "B", "3"]
        { Project.empty with files := recordFiles }).1.code = some 0 := by decide +kernel
    rcases (editing itemSheet_rows).2 ["edit", "A", "1", "B", "3"] _ "A" _ _ _ rfl rfl
      readConfig { Project.empty with files := recordFiles } with
      ⟨-, -, -, path, -, -, hsaved⟩ | ⟨hone | hnone, -⟩
    · exact ⟨path, hsaved⟩
    · rw [hcode] at hone
      cases hone
    · rw [hcode] at hnone
      cases hnone

end Records

end SheetCompiler
