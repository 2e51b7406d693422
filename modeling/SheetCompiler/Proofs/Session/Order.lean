import SheetCompiler.Proofs.Compile.Returns
import SheetCompiler.Proofs.Compile.Sources
import SheetCompiler.Proofs.Session.Outputs

/-!
# The order of compilations

Workbooks of tables with different names may be compiled in any order. The files of one table are
not those of another one, and what is written there is a matter of the sources alone, though tables
that come later see the scripts of those before them. So where every workbook compiles in two
orders, both leave the same tree, the same manifest and the same file of the manifest.

Main statements:

* `Session.done_cons`: what one more workbook does;
* `session_order`: two orders end the same.
-/

namespace SheetCompiler

open SheetCompiler.Stateful SheetCompiler.Path

/-- A workbook that is to be compiled as the table of a kind. -/
structure Job where
  path : String
  label : String
deriving DecidableEq

namespace Job

/-- The name of the table. -/
def table (j : Job) : String := tableNameOf j.path

/-- Compiles the workbook and no other one. -/
def operation (j : Job) : Operation := .compile [j.path] j.label

/-- The places of the files of the table. -/
def outputs (s : Settings) (j : Job) : List String :=
  match TableKind.ofLabel? j.label with
  | some kind => outputPlaces s kind j.table
  | none => []

/-- What is recorded of the table. -/
def compilation? (s : Settings) (j : Job) : Option Compilation :=
  (TableKind.ofLabel? j.label).map fun kind =>
    .ofTexts kind.name j.table j.path (outputPlaces s kind j.table)

lemma rank_of_compilation? {s : Settings} {j : Job} {c : Compilation}
    (h : j.compilation? s = some c) : c.rank = (Json.text j.table).rank := by
  obtain ⟨kind, -, rfl⟩ := Option.map_eq_some_iff.1 h
  rfl

/-- The paths that are written as workbooks are compiled: those of their tables, and that of the
manifest. -/
def written (s : Settings) (place : String) (jobs : List Job) : Set String :=
  {path | ∃ j ∈ jobs, path ∈ j.outputs s ∨ path = place}

lemma mem_written {s : Settings} {place path : String} {jobs : List Job} :
    path ∈ written s place jobs ↔ ∃ j ∈ jobs, path ∈ j.outputs s ∨ path = place := Iff.rfl

lemma written_nil (s : Settings) (place : String) : written s place [] = ∅ := by
  ext path
  rw [mem_written]
  simp

lemma written_cons (s : Settings) (place : String) (j : Job) (jobs : List Job) :
    written s place (j :: jobs) =
      written s place jobs ∪ {path | path ∈ j.outputs s} ∪ {place} := by
  ext path
  rw [Set.mem_union, Set.mem_union, Set.mem_singleton_iff, mem_written, mem_written,
    List.exists_mem_cons_iff]
  constructor
  · rintro ((hp | hp) | hp)
    · exact .inl (.inr hp)
    · exact .inr hp
    · exact .inl (.inl hp)
  · rintro ((hp | hp) | hp)
    · exact .inr hp
    · exact .inl (.inl hp)
    · exact .inl (.inr hp)

lemma written_of_perm (s : Settings) (place : String) {jobs jobs' : List Job}
    (h : jobs.Perm jobs') : written s place jobs = written s place jobs' := by
  ext path
  rw [mem_written, mem_written]
  simp only [h.mem_iff]

end Job

/-- An operation that records one table. -/
def Operation.RecordsOne (o : Operation) (p : Project) : Prop := ∃ c, o.answer p = .ok [c]

/-! ## One workbook -/

section

variable {p q : Project} {place : String} {j : Job}

/-- A workbook that is compiled and recorded: what compiling it makes of the files, and what
recording it does then. -/
lemma exists_of_recordsOne (hplace : p.loaded.manifest = .text place)
    (h : j.operation.RecordsOne p) :
    ∃ a files files',
      (compiling p.loaded j.label j.path).apply p.files = (.ok a, files) ∧
      (FileTree.writeAtomic place (p.manifest.insert a).print).apply files = (.ok (), files') ∧
      ({ p with manifest := p.manifest.insert a, files := files' } : Project).Alike
        (j.operation.after p) := by
  obtain ⟨b, hanswer⟩ := h
  have hrun : j.operation.run = Action.compileTables [j.path] j.label := rfl
  rw [Operation.answer, hrun, Action.apply_compileTables] at hanswer
  rw [Operation.after, hrun, Action.apply_compileTables]
  cases htable : isTableFile j.path with
  | false =>
    -- a file that is no workbook is passed over
    rw [List.map_singleton, Action.compileEach_cons_of_not htable] at hanswer
    cases hanswer
  | true =>
    rw [List.map_singleton, Action.compileEach_cons htable] at hanswer ⊢
    rcases hc : (compiling p.loaded j.label j.path).apply p.files with ⟨f | a, files⟩
    · -- a workbook that does not compile adds nothing to the answer
      obtain ⟨_, _, hnext⟩ := Action.compileNext_of_error hc
      rw [hnext] at hanswer
      cases hrefusal : (Action.refusal? j.path f).isSome <;> rw [hrefusal] at hanswer <;>
        cases hanswer
    · obtain ⟨_, _, hnext⟩ := Action.compileNext_of_ok hc
      rw [hnext] at hanswer ⊢
      rcases hr : (recording p.loaded (p.manifest.insert a)).apply files with ⟨e | _, files'⟩
      · rw [hr] at hanswer
        cases hanswer
      · obtain ⟨other, hother, hw⟩ := exists_writeAtomic_of_recording hr
        rw [hplace] at hother
        cases hother
        exact ⟨a, files, files', rfl, hw, rfl, rfl, rfl⟩

/-- A workbook that is compiled, and whose table is recorded, is what the answer consists of. -/
lemma recordsOne_of_ok {a : Compilation} {files files' : FileTree}
    (htable : isTableFile j.path = true)
    (hc : (compiling p.loaded j.label j.path).apply p.files = (.ok a, files))
    (hr : (recording p.loaded (p.manifest.insert a)).apply files = (.ok (), files')) :
    j.operation.RecordsOne p := by
  obtain ⟨_, _, hnext⟩ := Action.compileNext_of_ok hc
  have hrun : j.operation.run = Action.compileTables [j.path] j.label := rfl
  refine ⟨a, ?_⟩
  rw [Operation.answer, hrun, Action.apply_compileTables, List.map_singleton,
    Action.compileEach_cons htable, hnext, hr]
  rfl

end

/-! ## Many workbooks -/

namespace Session

/-- What compiling workbooks one after the other has done: their tables are recorded, what each of
them compiles to stands in its files, the manifest is in its file, and else the tree is as it
was. -/
structure Done (place : String) (jobs : List Job) (p q : Project) : Prop where
  loaded : q.loaded = p.loaded
  sources : p.files.KeepsSources p.loaded q.files
  entries : ∀ d, d ∈ q.manifest.entries ↔
    (∃ j ∈ jobs, j.compilation? p.loaded = some d) ∨
      d ∈ p.manifest.entries ∧ ∀ j ∈ jobs, d.rank ≠ (Json.text j.table).rank
  writes : p.files.WritesAt (Job.written p.loaded place jobs) q.files
  stands : ∀ j ∈ jobs, ∃ kind, ∃ c : Compiled, TableKind.ofLabel? j.label = some kind ∧
    Text.isIdentifier j.table = true ∧ c.IsFrom p.loaded kind j.path p.files ∧
      c.StandsIn p.loaded kind j.table q.files
  recorded : jobs ≠ [] → q.files.read place = .ok (.text q.manifest.print)

lemma done_nil (place : String) (p : Project) : Done place [] p p := by
  refine ⟨rfl, .refl _ _, by simp, ?_, nofun, fun h => absurd rfl h⟩
  rw [Job.written_nil]
  exact .refl _

variable {p q r : Project} {place : String} {jobs : List Job} {j : Job}

/-- One more workbook, of a table with another name, is compiled like those before it. -/
theorem done_cons (hplace : p.loaded.manifest = .text place) (hapart : p.loaded.IsApart place)
    (hfixed : location place ∉ p.loaded.templateLocations) (h : Done place jobs p q)
    (hnew : ∀ i ∈ jobs, i.table ≠ j.table) (hj : j.operation.RecordsOne q) :
    Done place (j :: jobs) p (j.operation.after q) := by
  obtain ⟨a, files, files', hcompiling, hw, halike⟩ :=
    exists_of_recordsOne (h.loaded ▸ hplace) hj
  rw [h.loaded] at hcompiling
  obtain ⟨kind, c, hkind, hrecords, hfrom, hstands, hwrites⟩ := compiling_stands hcompiling
  have hident : Text.isIdentifier j.table = true := hrecords.named
  have houtputs : j.outputs p.loaded = outputPlaces p.loaded kind j.table := by
    rw [Job.outputs, hkind]
  have hrecorded : j.compilation? p.loaded = some a := by
    rw [Job.compilation?, hkind, hrecords.eq]
    rfl
  have hrank := Job.rank_of_compilation? hrecorded
  -- its files are no one else's, and neither is that of the manifest
  have hfiles : q.files.ChangesAt a.locations
      ((compiling p.loaded j.label j.path).apply q.files).2 := by
    refine changesAt_compiling (fun other hother _ output ho => ?_) q.files
    rw [hkind] at hother
    cases hother
    exact hrecords.mem_locations.2 ⟨output, ho, rfl⟩
  rw [hcompiling] at hfiles
  have hmanifest := FileTree.changesAt_writeAtomic hw
  have hplaced {other : TableKind} {table : String} (hi : Text.isIdentifier table = true) :
      ∀ output ∈ outputPlaces p.loaded other table, location output ∉
        ({location place} : Set Location) := fun output ho => hapart other table hi output ho
  have hothers {i : Job} {other : TableKind} (hi : i ∈ jobs)
      (hnamed : Text.isIdentifier i.table = true) :
      ∀ output ∈ outputPlaces p.loaded other i.table, location output ∉ a.locations := by
    intro output ho hl
    obtain ⟨written, hwritten, hlocation⟩ := hrecords.mem_locations.1 hl
    obtain ⟨-, htable, -⟩ := eq_of_location_eq hident hnamed hwritten ho hlocation
    exact hnew i hi htable.symm
  have hsources := keepsSources_compiling p.loaded j.label j.path q.files
  rw [hcompiling] at hsources
  have hafterFiles : (j.operation.after q).files = files' := halike.files.symm
  have hafterManifest : (j.operation.after q).manifest = q.manifest.insert a :=
    halike.manifest.symm
  constructor
  case loaded => exact halike.loaded.symm.trans h.loaded
  case sources =>
    rw [hafterFiles]
    exact h.sources.trans _ _ _ (hsources.trans _ _ _ (keepsSources_of_writeAtomic hfixed hw))
  case entries =>
    intro d
    rw [hafterManifest, Manifest.mem_insert, h.entries, List.exists_mem_cons_iff,
      List.forall_mem_cons, hrecorded, Option.some.injEq, ← hrank]
    constructor
    · rintro (rfl | ⟨hmem | ⟨hmem, hranks⟩, hne⟩)
      · exact .inl (.inl rfl)
      · exact .inl (.inr hmem)
      · exact .inr ⟨hmem, hne, hranks⟩
    · rintro ((rfl | ⟨i, hi, hd⟩) | ⟨hmem, hne, hranks⟩)
      · exact .inl rfl
      · refine .inr ⟨.inl ⟨i, hi, hd⟩, ?_⟩
        rw [Job.rank_of_compilation? hd, hrank, Ne, Json.rank_text_inj]
        exact hnew i hi
      · exact .inr ⟨.inr ⟨hmem, hranks⟩, hne⟩
  case writes =>
    have hboth := h.writes.trans hwrites
    rw [hafterFiles, Job.written_cons, houtputs]
    exact hboth.trans (FileTree.writesAt_of_writeAtomic hw)
  case stands =>
    rw [hafterFiles, List.forall_mem_cons]
    constructor
    · exact ⟨kind, c, hkind, hident, hfrom.of_keepsSources h.sources,
        hstands.of_changesAt hmanifest (hplaced hident)⟩
    · intro i hi
      obtain ⟨other, c', hother, hnamed, hfrom', hstands'⟩ := h.stands i hi
      have hkept := hstands'.of_changesAt hfiles (hothers hi hnamed)
      exact ⟨other, c', hother, hnamed, hfrom', hkept.of_changesAt hmanifest (hplaced hnamed)⟩
  case recorded =>
    intro _
    rw [hafterFiles, hafterManifest]
    exact FileTree.read_of_writeAtomic hw

/-- Workbooks of tables with different names are compiled one after the other. -/
theorem done_after (hplace : p.loaded.manifest = .text place) (hapart : p.loaded.IsApart place)
    (hfixed : location place ∉ p.loaded.templateLocations) {more : List Job}
    (h : Done place jobs p q) (hnames : ((jobs ++ more).map Job.table).Nodup)
    (hmore : Obeys Operation.RecordsOne (more.map Job.operation) q) :
    Done place (more.reverse ++ jobs) p (after (more.map Job.operation) q) := by
  induction more generalizing jobs q with
  | nil => exact h
  | cons j more ih =>
    obtain ⟨hj, hrest⟩ := obeys_cons.1 hmore
    have hperm : (jobs ++ j :: more).Perm ((j :: jobs) ++ more) := List.perm_middle
    have hnames' := (hperm.map Job.table).nodup_iff.1 hnames
    have hnew : ∀ i ∈ jobs, i.table ≠ j.table := by
      rw [List.cons_append, List.map_cons, List.nodup_cons] at hnames'
      intro i hi heq
      exact hnames'.1 (List.mem_map.2 ⟨i, List.mem_append_left _ hi, heq⟩)
    have hdone := ih (done_cons hplace hapart hfixed h hnew hj) hnames' hrest
    rw [List.reverse_cons, List.append_assoc, List.singleton_append, List.map_cons, after_cons]
    exact hdone

end Session

/-- Workbooks of tables with different names that all compile in two orders leave the same: the same
tree with the same texts in its files, the same manifest, and its text in its file. Neither the
files of a table nor templates lie in the manifest's place. -/
theorem session_order {p : Project} {place : String} {jobs jobs' : List Job}
    (hplace : p.loaded.manifest = .text place) (hapart : p.loaded.IsApart place)
    (hfixed : location place ∉ p.loaded.templateLocations)
    (hnames : (jobs.map Job.table).Nodup) (hperm : jobs.Perm jobs')
    (hjobs : Session.Obeys Operation.RecordsOne (jobs.map Job.operation) p)
    (hjobs' : Session.Obeys Operation.RecordsOne (jobs'.map Job.operation) p) :
    (∀ l, (Session.after (jobs.map Job.operation) p).files.node? l =
        (Session.after (jobs'.map Job.operation) p).files.node? l) ∧
      (Session.after (jobs.map Job.operation) p).manifest =
        (Session.after (jobs'.map Job.operation) p).manifest ∧
      (jobs ≠ [] →
        (Session.after (jobs.map Job.operation) p).files.readText place =
          .ok (Session.after (jobs.map Job.operation) p).manifest.print ∧
        (Session.after (jobs'.map Job.operation) p).files.readText place =
          .ok (Session.after (jobs.map Job.operation) p).manifest.print) := by
  have hnames' : (jobs'.map Job.table).Nodup := (hperm.map Job.table).nodup_iff.1 hnames
  have h := Session.done_after hplace hapart hfixed (Session.done_nil place p) hnames hjobs
  have h' := Session.done_after hplace hapart hfixed (Session.done_nil place p) hnames' hjobs'
  rw [List.append_nil] at h h'
  have hsame : jobs'.reverse.Perm jobs.reverse :=
    jobs'.reverse_perm.trans (hperm.symm.trans jobs.reverse_perm.symm)
  -- what is done is told by the workbooks, not by their order
  have hmanifest : (Session.after (jobs.map Job.operation) p).manifest =
      (Session.after (jobs'.map Job.operation) p).manifest := by
    refine Manifest.eq_of_mem_iff fun d => ?_
    rw [h.entries, h'.entries]
    simp only [hsame.mem_iff]
  have hwrites' := h'.writes
  rw [Job.written_of_perm _ _ hsame] at hwrites'
  have hread (hne : jobs ≠ []) :
      (Session.after (jobs.map Job.operation) p).files.read place =
          .ok (.text (Session.after (jobs.map Job.operation) p).manifest.print) ∧
        (Session.after (jobs'.map Job.operation) p).files.read place =
          .ok (.text (Session.after (jobs.map Job.operation) p).manifest.print) := by
    have hne' : jobs' ≠ [] := by
      rintro rfl
      exact hne hperm.eq_nil
    have hread' := h'.recorded fun hnil => hne' (List.reverse_eq_nil_iff.1 hnil)
    rw [← hmanifest] at hread'
    exact ⟨h.recorded fun hnil => hne (List.reverse_eq_nil_iff.1 hnil), hread'⟩
  refine ⟨h.writes.node?_eq hwrites' fun path hpath => ?_, hmanifest, fun hne => ?_⟩
  · obtain ⟨j, hj, hpath | rfl⟩ := Job.mem_written.1 hpath
    · obtain ⟨kind, c, hkind, -, hfrom, hstands⟩ := h.stands j hj
      obtain ⟨kind', c', hkind', -, hfrom', hstands'⟩ := h'.stands j (hsame.mem_iff.2 hj)
      rw [hkind, Option.some.injEq] at hkind'
      obtain rfl := hkind'
      obtain rfl := isFrom_unique hfrom hfrom'
      rw [Job.outputs, hkind] at hpath
      exact hstands.read_eq hstands' hpath
    · have hne : jobs ≠ [] := List.ne_nil_of_mem (List.mem_reverse.1 hj)
      exact ⟨_, (hread hne).1, (hread hne).2⟩
  · exact ⟨FileTree.readText_of_read (hread hne).1, FileTree.readText_of_read (hread hne).2⟩

/-! ## Two workbooks -/

/-- A project with two workbooks. -/
def pairProject : Project :=
  .ofFiles elementProject.loaded
    ⟨[(["Element.xlsx"], .file (.workbook elementCells)),
      (["Color.xlsx"], .file (.workbook elementCells))]⟩ "Resources"

/-- One of them holds a Convert table and the other one an Enum table. -/
def pairJobs : List Job := [⟨"Element.xlsx", "Convert"⟩, ⟨"Color.xlsx", "Enum"⟩]

/-- A project in which a workbook can be read and its table written and recorded. -/
structure Job.IsReady (j : Job) (p : Project) : Prop where
  loaded : p.loaded = pairProject.loaded
  listed : ∀ c ∈ p.manifest.entries, c.IsListable
  manifest : p.files.Admits "Dist/ParseResult.json"
  read : p.files.read j.path = .ok (.workbook elementCells)
  admits : ∀ output ∈ j.outputs pairProject.loaded, p.files.Admits output

/-- The places of their files and of the manifest. -/
def pairPlaces : List String :=
  ["Dist/Convert/Element.py", "Resources/Element.json", "Dist/Enum/Color.py",
    "Dist/ParseResult.json"]

lemma outputs_pairJobs :
    ∀ j ∈ pairJobs, ∀ output ∈ j.outputs pairProject.loaded, output ∈ pairPlaces := by
  decide

/-- None of the files is in the way of another one. -/
lemma apart_pairPlaces : ∀ place ∈ pairPlaces, ∀ other ∈ pairPlaces, Apart place other := by
  decide

/-- No workbook lies where a file is written. -/
lemma ne_of_pairPlaces :
    ∀ j ∈ pairJobs, ∀ place ∈ pairPlaces, location j.path ≠ location place := by
  decide

lemma kind_pairJobs :
    ∀ j ∈ pairJobs, (TableKind.ofLabel? j.label = some .convert ∨
        TableKind.ofLabel? j.label = some .enum) ∧
      isTableFile j.path = true ∧
      workbookFormats.contains (Text.lower (splitExtension (base j.path)).2) = true ∧
      Text.isIdentifier (tableNameOf j.path) = true := by
  decide

/-- A workbook that is ready is compiled and recorded, and those that are ready beside it still
are. -/
lemma isReady_after {i j : Job} {p : Project} (hi : i ∈ pairJobs) (hj : j ∈ pairJobs)
    (h : j.IsReady p) :
    j.operation.RecordsOne p ∧ (i.IsReady p → i.IsReady (j.operation.after p)) := by
  obtain ⟨hlabel, htable, hformat, hident⟩ := kind_pairJobs j hj
  obtain ⟨kind, hkind, hne⟩ :
      ∃ kind, TableKind.ofLabel? j.label = some kind ∧ kind ≠ .variable := by
    rcases hlabel with hlabel | hlabel
    · exact ⟨_, hlabel, by decide⟩
    · exact ⟨_, hlabel, by decide⟩
  have hplaces : j.outputs p.loaded = outputPlaces p.loaded kind (tableNameOf j.path) := by
    rw [Job.outputs, hkind]
    rfl
  have hmem : ∀ output ∈ outputPlaces p.loaded kind (tableNameOf j.path), output ∈ pairPlaces := by
    intro output ho
    rw [← hplaces, h.loaded] at ho
    exact outputs_pairJobs j hj output ho
  have hplace : p.loaded.manifest = .text "Dist/ParseResult.json" := by
    rw [h.loaded]
    rfl
  have hrecorded : "Dist/ParseResult.json" ∈ pairPlaces := by decide
  -- the table is compiled, since it can be read and written
  have hcompiles : Compiles p.loaded kind j.path p.files := by
    rw [h.loaded]
    exact compiles_elementCells hne hformat hident h.read
  have hadmits : p.files.AdmitsTable p.loaded kind (tableNameOf j.path) := by
    constructor
    case script => rw [h.loaded]; rfl
    case data => intro _; rw [h.loaded]; rfl
    case admits =>
      intro output ho
      rw [← hplaces, h.loaded] at ho
      exact h.admits output ho
    case apart =>
      intro output ho other ho' _
      exact apart_pairPlaces output (hmem output ho) other (hmem other ho')
  obtain ⟨a, files, hc⟩ := compiling_of_admits hkind hcompiles hadmits
  -- and it is recorded, since nothing that was written is in the way of the manifest
  have hspares : Spares "Dist/ParseResult.json" p.files
      ((compiling p.loaded j.label j.path).apply p.files).2 := by
    refine keeps_compiling (Spares.refl _) Spares.trans (fun other hother _ output ho => ?_) p.files
    rw [hkind] at hother
    cases hother
    exact keeps_write (apart_pairPlaces _ hrecorded output (hmem output ho))
  have hlisted : ∀ d ∈ (p.manifest.insert a).entries, d.IsListable :=
    Manifest.isListable_insert h.listed (Action.isListable_of_compiling (by rw [hc]))
  rw [hc] at hspares
  obtain ⟨files', hr, -⟩ := recording_eq_ok hplace hlisted (hspares.admits h.manifest)
  have hrecords := recordsOne_of_ok htable hc hr
  refine ⟨hrecords, fun hready => ?_⟩
  obtain ⟨b, _, _, hc', hw, halike⟩ := exists_of_recordsOne hplace hrecords
  rw [hc] at hc'
  cases hc'
  have hall : ∀ place ∈ pairPlaces, Spares place p.files (j.operation.after p).files := by
    intro place hp
    have hmatches := Operation.matches_compile_single htable j.label p
    rw [Job.operation, ← hmatches.files, Action.after_attemptAt]
    refine Action.spares_compileNext (fun other hother output ho => ?_) fun manifest hm => ?_
    · rw [hkind] at hother
      cases hother
      exact apart_pairPlaces place hp output (hmem output ho)
    · rw [hplace] at hm
      cases hm
      exact apart_pairPlaces place hp _ hrecorded
  have hchanges : p.files.ChangesAt {l | ∃ place ∈ pairPlaces, location place = l}
      (j.operation.after p).files := by
    have hcompiling : p.files.ChangesAt {l | ∃ place ∈ pairPlaces, location place = l}
        ((compiling p.loaded j.label j.path).apply p.files).2 := by
      refine changesAt_compiling (fun other hother _ output ho => ?_) p.files
      rw [hkind] at hother
      cases hother
      exact ⟨output, hmem output ho, rfl⟩
    rw [hc] at hcompiling
    rw [← halike.files]
    exact hcompiling.trans _ _ _ ((FileTree.changesAt_writeAtomic hw).mono
      (Set.singleton_subset_iff.2 ⟨_, hrecorded, rfl⟩))
  constructor
  case loaded => rw [← halike.loaded]; exact h.loaded
  case listed => rw [← halike.manifest]; exact hlisted
  case manifest => exact (hall _ hrecorded).admits hready.manifest
  case read =>
    refine hchanges.read ?_ hready.read
    rintro ⟨place, hp, hl⟩
    exact ne_of_pairPlaces i hi place hp hl.symm
  case admits =>
    intro output ho
    exact (hall output (outputs_pairJobs i hi output ho)).admits (hready.admits output ho)

/-- Both orders of the two workbooks leave the same tree. -/
theorem pairProject_order :
    Session.Obeys Operation.RecordsOne (pairJobs.map Job.operation) pairProject ∧
      Session.Obeys Operation.RecordsOne (pairJobs.reverse.map Job.operation) pairProject ∧
      ∀ l, (Session.after (pairJobs.map Job.operation) pairProject).files.node? l =
        (Session.after (pairJobs.reverse.map Job.operation) pairProject).files.node? l := by
  have hplaces : ∀ place ∈ pairPlaces, pairProject.files.Admits place := by decide +kernel
  have hready : ∀ j ∈ pairJobs, j.IsReady pairProject := by
    have hread : ∀ j ∈ pairJobs, pairProject.files.read j.path =
        .ok (.workbook elementCells) := by
      unfold pairJobs
      rw [List.forall_mem_cons, List.forall_mem_singleton]
      exact ⟨rfl, rfl⟩
    intro j hj
    exact ⟨rfl, nofun, hplaces _ (by decide), hread j hj,
      fun output ho => hplaces output (outputs_pairJobs j hj output ho)⟩
  have hboth {i j : Job} (hi : i ∈ pairJobs) (hj : j ∈ pairJobs) :
      Session.Obeys Operation.RecordsOne ([j, i].map Job.operation) pairProject := by
    obtain ⟨hfirst, hrest⟩ := isReady_after hi hj (hready j hj)
    obtain ⟨hsecond, -⟩ := isReady_after hi hi (hrest (hready i hi))
    exact ⟨hfirst, hsecond, trivial⟩
  have hjobs := hboth (i := ⟨"Color.xlsx", "Enum"⟩) (j := ⟨"Element.xlsx", "Convert"⟩)
    (by decide) (by decide)
  have hjobs' := hboth (i := ⟨"Element.xlsx", "Convert"⟩) (j := ⟨"Color.xlsx", "Enum"⟩)
    (by decide) (by decide)
  have hnames : (pairJobs.map Job.table).Nodup := by decide
  have hfixed : location "Dist/ParseResult.json" ∉ pairProject.loaded.templateLocations := by
    rintro ⟨directory, kind, name, htemplates, -, -⟩
    cases htemplates
  obtain ⟨hsame, -, -⟩ := session_order rfl isApart_manifest hfixed hnames
    pairJobs.reverse_perm.symm hjobs hjobs'
  exact ⟨hjobs, hjobs', hsame⟩

end SheetCompiler
