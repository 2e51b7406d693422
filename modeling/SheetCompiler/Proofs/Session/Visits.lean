import SheetCompiler.Proofs.Compile.Asked
import SheetCompiler.Proofs.Compile.Sources
import SheetCompiler.Proofs.Session.Orphans

/-!
# Visits

When recorded tables are compiled again, their workbooks are visited one after the other. What comes
of a visit (`Visit.verdict`) is a matter of its workbook and, for a Convert table, of the scripts of
other tables. A visit that is accepted writes the files of its table and the manifest, in
directories that are there, and leaves everything else as it is (`Visit.Writes`).

Main statements:

* `location_notMem_workbookLocations`: no file of a table lies where a workbook can be;
* `verdict_congr`: what the verdict of a visit depends on;
* `compileNext_of_verdict`: what the attempt of a visit does.
-/

namespace SheetCompiler

open SheetCompiler.Stateful SheetCompiler.Path

/-! ## Where workbooks lie -/

/-- The locations of workbooks. -/
def workbookLocations : Set Location := {l | ∃ path, isTableFile path = true ∧ location path = l}

/-- The name of a table file ends like the extension of workbooks. -/
lemma getLast?_base_of_isTableFile {path : String} (h : isTableFile path = true) :
    (base path).toList.getLast? = some 'x' := by
  unfold isTableFile at h
  simp only [Bool.and_eq_true, decide_eq_true_eq] at h
  obtain ⟨⟨hextension, -⟩, -⟩ := h
  have hextension' : (splitExtension (base path)).2.toList = ['.', 'x', 'l', 's', 'x'] := by
    rw [hextension]
    rfl
  unfold splitExtension at hextension'
  dsimp only at hextension'
  split at hextension'
  · split at hextension'
    · cases hextension'
    · -- what stands behind the last point is the extension, and the name ends with it
      rw [String.toList_ofList, List.cons.injEq, List.reverse_eq_iff] at hextension'
      have hbegins := List.takeWhile_prefix (l := (base path).toList.reverse) (· ≠ '.')
      rw [hextension'.2] at hbegins
      obtain ⟨rest, hrest⟩ := hbegins
      rw [← List.head?_reverse, ← hrest]
      rfl
  · cases hextension'

/-- A table file lies where the last name ends like the extension of workbooks. -/
lemma getLast?_of_mem_workbookLocations {l : Location} {name : String}
    (h : l ∈ workbookLocations) (hname : l.getLast? = some name) :
    name.toList.getLast? = some 'x' := by
  obtain ⟨path, htable, rfl⟩ := h
  have hlast := getLast?_base_of_isTableFile htable
  have hne {other : String} (hother : other.toList.getLast? ≠ some 'x') : base path ≠ other := by
    rintro rfl
    exact hother hlast
  rw [location, components_of_base_ne (hne (by decide)), FileTree.follow_append,
    FileTree.follow_cons, FileTree.follow_nil, FileTree.step_of_ne (hne (by decide))
    (hne (by decide)), List.getLast?_concat, Option.some.injEq] at hname
  rw [← hname]
  exact hlast

lemma getLast?_append_ne {table extension : String} {c : Char}
    (h : extension.toList.getLast? = some c) (hc : c ≠ 'x') :
    (table ++ extension).toList.getLast? ≠ some 'x' := by
  rw [String.toList_append, List.getLast?_append, h, Option.some_or]
  exact fun he => hc (Option.some.inj he)

/-- No script lies where a workbook can be. -/
lemma scriptLocation_notMem_workbookLocations (scripts : String) (kind : TableKind)
    (table : String) : scriptLocation scripts kind (table ++ ".py") ∉ workbookLocations := by
  intro h
  have hlast := getLast?_of_mem_workbookLocations h List.getLast?_concat
  exact getLast?_append_ne (c := 'y') rfl (by decide) hlast

/-- No file of a table lies where a workbook can be. -/
theorem location_notMem_workbookLocations {s : Settings} {kind : TableKind} {table output : String}
    (h : Text.isIdentifier table = true) (ho : output ∈ outputPlaces s kind table) :
    location output ∉ workbookLocations := by
  rcases mem_outputPlaces.1 ho with hp | ⟨-, hp⟩
  · obtain ⟨directory, -, hl⟩ := location_scriptPath h hp
    intro hmem
    have hlast := getLast?_of_mem_workbookLocations hmem (by rw [hl, List.getLast?_concat])
    exact getLast?_append_ne (c := 'y') rfl (by decide) hlast
  · obtain ⟨directory, -, hl⟩ := location_dataPath h hp
    intro hmem
    have hlast := getLast?_of_mem_workbookLocations hmem (by rw [hl, List.getLast?_concat])
    exact getLast?_append_ne (c := 'n') rfl (by decide) hlast

/-! ## Verdicts -/

/-- A workbook that is compiled as the table of a kind. -/
structure Visit where
  kind : TableKind
  path : String

/-- What comes of a visit: its workbook is compiled, or it is refused and passed over, or it ends
all visits. -/
inductive Verdict
  | accepted (c : Compiled)
  | refused
  | ended

namespace Visit

/-- The table in the workbook of a visit. -/
def table (v : Visit) : String := tableNameOf v.path

/-- What the workbook of a visit compiles to, or why it does not. -/
def outcome (s : Settings) (v : Visit) (files : FileTree) : Except Failure Compiled := do
  compiledIn s v.kind v.table (← sheetAt v.path files) files

/-- What comes of a visit to a file tree, as long as its files can be written. -/
def verdict (s : Settings) (v : Visit) (files : FileTree) : Verdict :=
  match v.outcome s files with
  | .ok c => .accepted c
  | .error f => if (Action.refusal? v.path f).isSome then .refused else .ended

variable {s : Settings} {v w : Visit} {t u : FileTree} {c : Compiled}

lemma outcome_of_accepted (h : v.verdict s t = .accepted c) : v.outcome s t = .ok c := by
  unfold verdict at h
  split at h
  · rename_i d hd
    rw [hd, Verdict.accepted.inj h]
  · split at h <;> cases h

lemma outcome_of_sheetAt {sheet : Sheet} {table : String} (h : sheetAt v.path t = .ok sheet)
    (htable : v.table = table) : v.outcome s t = compiledIn s v.kind table sheet t := by
  rw [outcome, h, htable]
  rfl

/-- A visit to a sheet that compiles is accepted. -/
lemma accepted_of_compiledIn {sheet : Sheet} {table : String} (h : sheetAt v.path t = .ok sheet)
    (htable : v.table = table) (hc : compiledIn s v.kind table sheet t = .ok c) :
    v.verdict s t = .accepted c := by
  rw [← outcome_of_sheetAt h htable] at hc
  unfold verdict
  split
  · rename_i d hd
    rw [hc, Except.ok.injEq] at hd
    rw [hd]
  · rename_i f hf
    rw [hc] at hf
    cases hf

/-- A visit to a sheet with a fault is refused. -/
lemma refused_of_compiledIn {sheet : Sheet} {table : String} {f : Failure}
    (h : sheetAt v.path t = .ok sheet) (htable : v.table = table)
    (hf : compiledIn s v.kind table sheet t = .error f)
    (hrefusal : (Action.refusal? v.path f).isSome = true) : v.verdict s t = .refused := by
  rw [← outcome_of_sheetAt h htable] at hf
  unfold verdict
  split
  · rename_i d hd
    rw [hf] at hd
    cases hd
  · rename_i g hg
    rw [hf, Except.error.injEq] at hg
    rw [← hg, if_pos hrefusal]

/-- A visit that is accepted reads a workbook. -/
lemma exists_workbook_of_accepted (h : v.verdict s t = .accepted c) :
    ∃ cells, t.node? (location v.path) = some (.file (.workbook cells)) := by
  obtain ⟨sheet, hsheet, -⟩ := except_bind_eq_ok.1 (outcome_of_accepted h)
  obtain ⟨cells, hread, -⟩ := read_of_sheetAt hsheet
  exact ⟨cells, (FileTree.read_eq_ok_iff.1 hread).2.1⟩

/-- A table file holds the sheet that is read of it. -/
lemma sheetAt_eq_ok_iff {path : String} {sheet : Sheet} (h : isTableFile path = true) :
    sheetAt path t = .ok sheet ↔
      ∃ cells, t.read path = .ok (.workbook cells) ∧ sheet = Sheet.ofCells cells := by
  refine ⟨read_of_sheetAt, ?_⟩
  rintro ⟨cells, hread, rfl⟩
  unfold sheetAt
  dsimp only
  rw [contains_of_isTableFile h, hread]
  rfl

/-- A table file that cannot be read is refused, unless its path is none or the reader of workbooks
breaks down on it. -/
lemma isSome_refusal_of_sheetAt {path : String} {f : Failure} (h : isTableFile path = true)
    (hf : sheetAt path t = .error f) :
    (Action.refusal? path f).isSome = true ↔ '\x00' ∉ path.toList ∧
      ∀ text kind cause, t.read path ≠ .ok (.container text (.breakdown kind cause)) := by
  constructor
  · refine fun hsome => ⟨fun hnull => ?_, fun text kind cause hread => ?_⟩
    · obtain ⟨e, he, hcause⟩ := sheetAt_of_nullCharacter h hnull t
      rw [hf, Except.error.injEq] at he
      rw [he, Action.refusal?, if_pos (.inl hcause)] at hsome
      cases hsome
    · unfold sheetAt at hf
      dsimp only at hf
      rw [contains_of_isTableFile h, hread] at hf
      cases hf
      cases hsome
  · rintro ⟨hnull, hreads⟩
    rw [Option.isSome_iff_ne_none]
    intro hnone
    rcases refusal_of_sheetAt hf hnone with hn | ⟨kind, cause, rfl⟩
    · exact hnull hn
    · obtain ⟨text, hread⟩ := container_of_sheetAt hf
      exact hreads text kind cause hread

/-- The verdict of a visit depends on the directories, its workbook and, for a Convert table, on the
scripts that other tables have. -/
theorem verdict_congr (htable : isTableFile v.path = true) (htemplates : s.templates = none)
    (hd : t.SameDirectories u) (hw : t.node? (location v.path) = u.node? (location v.path))
    (hscripts : v.kind = .convert → SameEnums s t u ∧ SameReferences s t u) :
    v.verdict s t = v.verdict s u := by
  have hsheet (sheet : Sheet) : sheetAt v.path t = .ok sheet ↔ sheetAt v.path u = .ok sheet := by
    rw [sheetAt_eq_ok_iff htable, sheetAt_eq_ok_iff htable]
    simp only [hd.read_eq_ok_iff hw]
  unfold verdict outcome
  cases ht : sheetAt v.path t with
  | ok sheet =>
    have hsame : compiledIn s v.kind v.table sheet t = compiledIn s v.kind v.table sheet u := by
      refine compiledIn_congr (fun hkind => ?_) ?_
      · obtain ⟨henums, hreferences⟩ := hscripts hkind
        exact agrees_ofFiles hd henums hreferences _
      · rw [Template.ofSettings, Template.ofSettings, htemplates]
    rw [(hsheet sheet).1 ht]
    dsimp only [bind, Except.bind]
    rw [hsame]
  | error f =>
    cases hu : sheetAt v.path u with
    | ok sheet =>
      rw [(hsheet sheet).2 hu] at ht
      cases ht
    | error g =>
      -- why a workbook cannot be read makes no difference
      have hrefusal : (Action.refusal? v.path f).isSome = (Action.refusal? v.path g).isSome := by
        rw [Bool.eq_iff_iff, isSome_refusal_of_sheetAt htable ht,
          isSome_refusal_of_sheetAt htable hu]
        simp only [ne_eq, hd.read_eq_ok_iff hw]
      dsimp only [bind, Except.bind]
      rw [hrefusal]

end Visit

/-! ## Files that a visit writes -/

namespace Visit

variable {s : Settings} {m : Manifest} {place : String} {v w : Visit} {t u : FileTree}
  {c d : Compiled}

/-- The locations of the files of the table of a visit. -/
def places (s : Settings) (v : Visit) : Set Location :=
  {l | ∃ output ∈ outputPlaces s v.kind v.table, location output = l}

/-- The files of the table of a visit hold what it compiled to, but for one in the manifest's
place. -/
structure Stands (s : Settings) (place : String) (v : Visit) (c : Compiled) (t : FileTree) :
    Prop where
  script : ∀ path, s.scriptPath? v.kind.name v.table = some path →
    location path ≠ location place → t.read path = .ok (.text c.script)
  data : v.kind = .convert → ∀ path, s.dataPath? v.table = some path →
    location path ≠ location place → ∃ rows, c.rows = some rows ∧
      t.read path = .ok (.text (printRecords (rows.map Row.cells)))

/-- The files stay as they are while others change. -/
lemma Stands.of_changesAt {locs : Set Location} (h : v.Stands s place c t)
    (hc : t.ChangesAt locs u) (hl : ∀ l ∈ v.places s, l ≠ location place → l ∉ locs) :
    v.Stands s place c u := by
  constructor
  case script =>
    intro path hp hne
    have hmem : location path ∈ v.places s := ⟨path, mem_outputPlaces.2 (.inl hp), rfl⟩
    exact hc.read (hl _ hmem hne) (h.script path hp hne)
  case data =>
    intro hkind path hp hne
    have hmem : location path ∈ v.places s := ⟨path, mem_outputPlaces.2 (.inr ⟨hkind, hp⟩), rfl⟩
    obtain ⟨rows, hrows, hread⟩ := h.data hkind path hp hne
    exact ⟨rows, hrows, hc.read (hl _ hmem hne) hread⟩

/-- Where the same outcome stands, the files of the table are the same. -/
lemma Stands.node?_eq (h : v.Stands s place c t) (h' : v.Stands s place c u) {l : Location}
    (hl : l ∈ v.places s) (hne : l ≠ location place) : t.node? l = u.node? l := by
  obtain ⟨output, ho, rfl⟩ := hl
  rcases mem_outputPlaces.1 ho with hp | ⟨hkind, hp⟩
  · rw [(FileTree.read_eq_ok_iff.1 (h.script output hp hne)).2.1,
      (FileTree.read_eq_ok_iff.1 (h'.script output hp hne)).2.1]
  · obtain ⟨rows, hrows, hread⟩ := h.data hkind output hp hne
    obtain ⟨rows', hrows', hread'⟩ := h'.data hkind output hp hne
    rw [hrows, Option.some.injEq] at hrows'
    rw [(FileTree.read_eq_ok_iff.1 hread).2.1, (FileTree.read_eq_ok_iff.1 hread').2.1, hrows']

/-- What a visit that is accepted does to the files: it writes those of its table, and then the
manifest. -/
structure Writes (s : Settings) (m : Manifest) (place : String) (v : Visit) (c : Compiled)
    (t u : FileTree) : Prop where
  extended : t.Extends u
  stands : v.Stands s place c u
  manifest : u.read place = .ok (.text m.print)
  others : ∀ l ∉ insert (location place) (v.places s), u.node? l = t.node? l

lemma Writes.changesAt (h : v.Writes s m place c t u) :
    t.ChangesAt (insert (location place) (v.places s)) u :=
  ⟨h.extended.directories, fun l hl => FileTree.content?_of_node? (h.others l hl)⟩

/-- A visit to a table that is recorded in a manifest. -/
structure IsRecorded (s : Settings) (m : Manifest) (v : Visit) : Prop where
  tableFile : isTableFile v.path = true
  entry : ∃ a ∈ m.entries, a.Records s v.kind v.path

namespace IsRecorded

lemma named (h : v.IsRecorded s m) : Text.isIdentifier v.table = true := by
  obtain ⟨-, a, -, hrecords⟩ := h
  exact hrecords.named

/-- Recorded tables of one name are one table. -/
lemma eq_of_table_eq (hv : v.IsRecorded s m) (hw : w.IsRecorded s m) (h : v.table = w.table) :
    v = w := by
  obtain ⟨-, a, ha, hrecords⟩ := hv
  obtain ⟨-, b, hb, hrecords'⟩ := hw
  have hab : a = b := by
    refine Manifest.eq_of_rank_eq ha hb ?_
    rw [hrecords.rank, hrecords'.rank]
    exact congrArg (fun table => (Json.text table).rank) h
  subst hab
  have hentry := hrecords.eq.symm.trans hrecords'.eq
  simp only [Compilation.ofTexts, Compilation.mk.injEq, Json.text.injEq] at hentry
  cases v
  cases w
  rw [mk.injEq]
  exact ⟨TableKind.name_inj hentry.1, hentry.2.2.1⟩

/-- Different tables have their files in different places. -/
lemma disjoint (hv : v.IsRecorded s m) (hw : w.IsRecorded s m) (hne : v ≠ w) :
    Disjoint (v.places s) (w.places s) := by
  rw [Set.disjoint_left]
  rintro l ⟨output, ho, rfl⟩ ⟨output', ho', hl⟩
  obtain ⟨-, htable, -⟩ := eq_of_location_eq hv.named hw.named ho ho' hl.symm
  exact hne (hv.eq_of_table_eq hw htable)

/-- No workbook lies among the files of a table. -/
lemma notMem_places (hv : v.IsRecorded s m) (hw : w.IsRecorded s m) :
    location v.path ∉ w.places s := by
  rintro ⟨output, ho, hl⟩
  exact location_notMem_workbookLocations hw.named ho ⟨v.path, hv.tableFile, hl.symm⟩

/-- The files of a table stay as they are when another one is visited. -/
lemma stands_of_writes (hv : v.IsRecorded s m) (hw : w.IsRecorded s m) (hne : v ≠ w)
    (h : v.Stands s place c t) (hu : w.Writes s m place d t u) : v.Stands s place c u := by
  refine h.of_changesAt hu.changesAt fun l hl hplace hmem => ?_
  rcases hmem with rfl | hmem
  · exact hplace rfl
  · exact Set.disjoint_left.1 (hv.disjoint hw hne) hl hmem

end IsRecorded

end Visit

/-! ## Files that visits come to -/

/-- The file tree that visits to the tables of a manifest come to: their files are there, and the
manifest can be written in directories that are there. It is in its file, unless that lies where
workbooks do. -/
structure FileTree.IsReady (s : Settings) (m : Manifest) (place : String) (t : FileTree) :
    Prop where
  outputs : ∀ v : Visit, v.IsRecorded s m → ∀ output ∈ outputPlaces s v.kind v.table,
    t.IsFile output
  admits : t.Admits place
  directories : ∀ l ∈ directories place, t.node? l = some .directory
  manifest : location place ∉ workbookLocations → t.read place = .ok (.text m.print)

section

variable {s : Settings} {m : Manifest} {place : String} {v : Visit} {t u : FileTree} {c : Compiled}

/-- A visit leaves what the next one comes to. -/
lemma Visit.Writes.isReady (h : v.Writes s m place c t u) (ht : t.IsReady s m place) :
    u.IsReady s m place := by
  constructor
  case outputs => exact fun w hw output ho => h.extended.isFile (ht.outputs w hw output ho)
  case admits => exact FileTree.admits_of_isFile ⟨_, h.manifest⟩
  case directories => exact fun l hl => h.extended.directories l (ht.directories l hl)
  case manifest => exact fun _ => h.manifest

/-- Files that are written into directories that are there leave everything else as it is. -/
lemma FileTree.WritesAt.node?_of_directories {paths : Set String} (h : t.WritesAt paths u)
    (hd : ∀ path ∈ paths, ∀ l ∈ made path, t.node? l = some .directory) {l : Location}
    (hl : ∀ path ∈ paths, location path ≠ l) : u.node? l = t.node? l := by
  by_cases hmade : ∃ path ∈ paths, l ∈ made path
  · obtain ⟨path, hp, hm⟩ := hmade
    rw [h.directories l hl ⟨path, hp, hm⟩, hd path hp l hm]
  · exact h.others l hl hmade

/-- The files of a recorded table can be written again. -/
lemma Visit.IsRecorded.admitsTable (hv : v.IsRecorded s m) (ht : t.IsReady s m place) :
    t.AdmitsTable s v.kind v.table := by
  have hfiles := ht.outputs v hv
  obtain ⟨-, a, -, hrecords⟩ := hv
  refine ⟨hrecords.script, hrecords.data, fun output ho => FileTree.admits_of_isFile (hfiles _ ho),
    fun output ho other ho' _ => ?_⟩
  -- where one of the files is there cannot be a directory above the other one
  obtain ⟨content, hread⟩ := hfiles output ho
  obtain ⟨content', hread'⟩ := hfiles other ho'
  obtain ⟨-, hfile, -⟩ := FileTree.read_eq_ok_iff.1 hread
  obtain ⟨hlocate, hfile', -⟩ := FileTree.read_eq_ok_iff.1 hread'
  refine ⟨fun hmade => ?_, fun habove => ?_⟩
  · rw [FileTree.IsFile.node?_of_mem_made ⟨content', hread'⟩ hmade] at hfile
    cases hfile
  · rw [(FileTree.locate_eq_ok_iff.1 (FileTree.read_eq_ok_iff.1 hread).1).2.1 _ habove] at hfile'
    cases hfile'

/-- What a recorded visit compiles to can be written, and the manifest after it. -/
lemma Visit.IsRecorded.exists_writes (hv : v.IsRecorded s m) (hplace : s.manifest = .text place)
    (hwritable : m.isWritable = true) (ht : t.IsReady s m place) (hc : v.outcome s t = .ok c) :
    ∃ a files u, (compiling s v.kind.name v.path).apply t = (.ok a, files) ∧ a ∈ m.entries ∧
      (recording s m).apply files = (.ok (), u) ∧ v.Writes s m place c t u := by
  obtain ⟨sheet, hsheet, hcompiled⟩ := except_bind_eq_ok.1 hc
  obtain ⟨hident, hrows⟩ := rows_of_compiledIn hcompiled
  obtain ⟨outputs, files, hwriting⟩ := writing_of_admits hident hrows.1 (hv.admitsTable ht)
  obtain ⟨houtputs, -, -, hfiles⟩ := writing_eq_ok hrows hwriting
  have hcompiling : (compiling s v.kind.name v.path).apply t =
      (.ok (.ofTexts v.kind.name v.table v.path outputs), files) := by
    rw [CompilesTo.apply_compiling ⟨TableKind.ofLabel?_name v.kind, hsheet, hcompiled⟩]
    exact apply_bind_of_ok hwriting _
  have hextends : t.Extends files := by
    have hkept := extends_compiling s v.kind.name v.path t
    rwa [hcompiling] at hkept
  -- what is compiled is the entry that is recorded
  have hmem : Compilation.ofTexts v.kind.name v.table v.path outputs ∈ m.entries := by
    obtain ⟨-, a, ha, hrecords⟩ := hv
    rw [hrecords.eq] at ha
    rwa [houtputs]
  have hothers : ∀ l ∉ v.places s, files.node? l = t.node? l := by
    intro l hl
    refine (writesAt_of_writing hrows hwriting).node?_of_directories
      (fun output ho l hm => (ht.outputs v hv output ho).node?_of_mem_made hm) fun output ho hlo => ?_
    exact hl ⟨output, ho, hlo⟩
  -- the manifest's place is free: it is still, or it is that of a file that has been written
  have hadmits : files.Admits place := by
    refine ⟨ht.admits.followable, ht.admits.named, ht.admits.noPoint, ht.admits.noPoints,
      ht.admits.apart, fun l hl content hfile => ?_, fun hdirectory => ?_⟩
    · rw [hextends.directories l (ht.directories l hl)] at hfile
      cases hfile
    · by_cases hl : location place ∈ v.places s
      · obtain ⟨output, ho, hlo⟩ := hl
        obtain ⟨content, hread⟩ := hfiles output (houtputs ▸ ho)
        rw [← hlo, (FileTree.read_eq_ok_iff.1 hread).2.1] at hdirectory
        cases hdirectory
      · rw [hothers _ hl] at hdirectory
        exact ht.admits.free hdirectory
  obtain ⟨u, hw⟩ := FileTree.writeAtomic_of_admits hadmits m.print
  have hrecording : (recording s m).apply files = (.ok (), u) := by
    rw [recording_of_isWritable hwritable hplace]
    exact Filing.ofUpdate_eq_ok.2 hw
  have hchanges : files.ChangesAt {location place} u := FileTree.changesAt_writeAtomic hw
  refine ⟨_, files, u, hcompiling, hmem, hrecording, ?_⟩
  constructor
  case extended => exact hextends.trans _ _ _ (FileTree.extends_writeAtomic hw)
  case manifest => exact FileTree.read_of_writeAtomic hw
  case stands =>
    have hstands := standsIn_of_writing hident hrows hwriting
    constructor
    case script => exact fun path hp hne => hchanges.read hne (hstands.script path hp)
    case data =>
      intro hkind path hp hne
      obtain ⟨rows, hsome, hread⟩ := hstands.data hkind path hp
      exact ⟨rows, hsome, hchanges.read hne hread⟩
  case others =>
    intro l hl
    rw [Set.mem_insert_iff, not_or] at hl
    rw [← hothers l hl.2]
    refine (FileTree.writesAt_of_writeAtomic hw).node?_of_directories (fun path hp l hm => ?_)
      fun path hp hlo => ?_
    · obtain rfl := hp
      exact hextends.directories l (ht.directories l (made_subset hadmits.named l hm))
    · obtain rfl := hp
      exact hl.1 hlo.symm

/-! ## Attempts of visits -/

/-- A workbook that does not compile leaves the files as they are. -/
lemma Visit.apply_compiling_of_error {f : Failure} (h : v.outcome s t = .error f) :
    (compiling s v.kind.name v.path).apply t = (.error f, t) := by
  unfold compiling
  rw [TableKind.ofLabel?_name]
  dsimp only
  rw [Filing.apply_asks_bind]
  unfold Visit.outcome at h
  cases hsheet : sheetAt v.path t with
  | error g =>
    rw [hsheet] at h
    cases h
    rfl
  | ok sheet =>
    rw [hsheet] at h
    dsimp only [bind, Except.bind, Visit.table] at h
    dsimp only
    rw [Filing.apply_asks_bind, h]

/-- A project with given settings and a given manifest. -/
structure Project.IsUnder (s : Settings) (m : Manifest) (p : Project) : Prop where
  loaded : p.loaded = s
  manifest : p.manifest = m

/-- The attempt of a visit goes as its verdict says. -/
theorem compileNext_of_verdict {p : Project} (hp : p.IsUnder s m)
    (hplace : s.manifest = .text place) (hwritable : m.isWritable = true)
    (hready : p.files.IsReady s m place) (hv : v.IsRecorded s m) :
    ∃ r q, (Action.compileNext s v.kind.name v.path).apply p = (r, q) ∧ q.IsUnder s m ∧
      ((∃ c x, v.verdict s p.files = .accepted c ∧ r = .ok x ∧
          v.Writes s m place c p.files q.files) ∨
        (v.verdict s p.files = .refused ∧ (∃ x, r = .ok x) ∧ q.files = p.files) ∨
        v.verdict s p.files = .ended ∧ (∃ f, r = .error f) ∧ q.files = p.files) := by
  unfold Visit.verdict
  cases hc : v.outcome s p.files with
  | ok c =>
    obtain ⟨a, files, u, hcompiling, ha, hrecording, hwrites⟩ :=
      hv.exists_writes hplace hwritable hready hc
    obtain ⟨registry, events, hnext⟩ := Action.compileNext_of_ok hcompiling
    rw [hp.manifest, hp.loaded, Manifest.insert_of_mem ha, hrecording] at hnext
    exact ⟨_, _, hnext, ⟨rfl, rfl⟩, .inl ⟨c, some a, rfl, rfl, hwrites⟩⟩
  | error f =>
    obtain ⟨registry, events, hnext⟩ :=
      Action.compileNext_of_error (Visit.apply_compiling_of_error hc)
    refine ⟨_, _, hnext, ⟨hp.loaded, hp.manifest⟩, .inr ?_⟩
    dsimp only
    cases hrefusal : (Action.refusal? v.path f).isSome with
    | true => exact .inl ⟨rfl, ⟨none, rfl⟩, rfl⟩
    | false => exact .inr ⟨rfl, ⟨f, rfl⟩, rfl⟩

end

end SheetCompiler
