import SheetCompiler.Proofs.Json.RoundTrip
import SheetCompiler.Proofs.Session.Operation

/-!
# The manifest and its file

A session that starts without a manifest keeps the manifest and its file the same
(`Project.IsRecorded`), whatever its operations do and whether or not they fail, as long as the file
can be written and nothing else writes to its place (`Operation.SparesManifest`).

Main statements:

* `loadManifest_of_isRecorded`: the file gives the manifest back;
* `isRecorded_after`: what one operation preserves;
* `session_isRecorded`: the manifest and its file are the same after every operation, so that a
  session may be continued from the file at any time.
-/

namespace SheetCompiler

open SheetCompiler.Stateful SheetCompiler.Path

/-! ## The file of a manifest -/

namespace Manifest

/-- A compilation with the greatest name comes last. -/
lemma place_of_lt {c : Compilation} {entries : List Compilation}
    (h : ∀ d ∈ entries, d.rank < c.rank) : place c entries = entries ++ [c] := by
  induction entries with
  | nil => rfl
  | cons d entries ih =>
    rw [place, if_pos (h d (by simp)), ih fun e he => h e (by simp [he]), List.cons_append]

lemma entries_foldl_insert {compilations : List Compilation} {m : Manifest}
    (h : (m.entries ++ compilations).Pairwise fun a b => a.rank < b.rank) :
    (compilations.foldl insert m).entries = m.entries ++ compilations := by
  induction compilations generalizing m with
  | nil => simp
  | cons c compilations ih =>
    have hlast : (m.insert c).entries = m.entries ++ [c] :=
      place_of_lt fun d hd => (List.pairwise_append.1 h).2.2 d hd c (by simp)
    rw [List.foldl_cons, ih (by rw [hlast]; simpa using h), hlast]
    simp

/-- A manifest is that of its entries. -/
theorem ofList_entries (m : Manifest) : ofList m.entries = m := by
  -- entries are in order, so each is put behind those before it
  have hentries : (ofList m.entries).entries = m.entries := by
    rw [ofList, entries_foldl_insert (by simpa [empty] using m.sorted)]
    rfl
  obtain ⟨entries, sorted⟩ := m
  rcases h : ofList entries with ⟨entries', sorted'⟩
  rw [h] at hentries
  cases hentries
  rfl

/-- The value of a compilation of texts holds no numbers. -/
lemma isTextual_of_isOfTexts {c : Compilation} (h : c.IsOfTexts) : c.toJson.IsTextual := by
  obtain ⟨kind, name, source, outputs, rfl⟩ := h
  have hnames : ["kind", "name", "sourcePath", "outputPaths"].Nodup := by decide
  refine .object hnames ?_
  simp only [List.forall_mem_cons]
  exact ⟨.text kind, .text name, .text source, Json.isTextual_ofTexts outputs, nofun⟩

lemma isTextual_toJson {m : Manifest} (h : ∀ c ∈ m.entries, c.IsOfTexts) :
    m.toJson.IsTextual := by
  refine .list fun item hitem => ?_
  obtain ⟨c, hc, rfl⟩ := List.mem_map.1 hitem
  exact isTextual_of_isOfTexts (h c hc)

/-- The value of a manifest records its entries. -/
lemma compilationsOf_toJson (m : Manifest) : compilationsOf m.toJson = .ok m.entries := by
  have hall : List.Forall₂ (fun item c => Compilation.ofJson item = .ok c)
      (m.entries.map Compilation.toJson) m.entries := by
    rw [List.forall₂_map_left_iff, List.forall₂_same]
    exact fun c _ => c.ofJson_toJson
  exact mapM_eq_ok_iff.2 hall

/-- A file whose text is read as a value records what the value does. -/
lemma ofFile_of_read {files : FileTree} {place text : String} {value : Json}
    (hread : files.readText place = .ok text) (hvalue : Json.read text = .ok value) :
    ofFile files (.text place) = (compilationsOf value).map some := by
  have hcontains : files.contains place = true :=
    FileTree.contains_of_isFile (FileTree.isFile_of_readText hread)
  unfold ofFile
  simp only [FileTree.containsAt, hcontains, hread, hvalue, bind, Except.bind, Except.mapError,
    if_true, pure, Except.pure]
  cases compilationsOf value <;> rfl

/-- A file whose text is not read records nothing. -/
lemma ofFile_of_read_error {files : FileTree} {place text : String} {fault : Json.ReadFault}
    (hread : files.readText place = .ok text) (hvalue : Json.read text = .error fault) :
    ofFile files (.text place) = .error (.json fault) := by
  have hcontains : files.contains place = true :=
    FileTree.contains_of_isFile (FileTree.isFile_of_readText hread)
  simp only [ofFile, FileTree.containsAt, hcontains, hread, hvalue, bind, Except.bind,
    Except.mapError, if_true]

/-- A file with the text of a manifest records its entries. -/
lemma ofFile_of_readText {m : Manifest} {files : FileTree} {place : String}
    (h : ∀ c ∈ m.entries, c.IsOfTexts) (hread : files.readText place = .ok m.print) :
    ofFile files (.text place) = .ok (some m.entries) := by
  rw [ofFile_of_read hread (Json.read_print (isTextual_toJson h)), compilationsOf_toJson]
  rfl

end Manifest

lemma FileTree.Admits.contains_eq_false {t : FileTree} {path : String} (h : t.Admits path)
    (hnone : t.content? (location path) = none) : t.contains path = false :=
  contains_of_node?_eq_none (h.node?_eq_none hnone)

/-- A project whose manifest is recorded at a place: it has no entries and there is no file, or the
file has its text. Where the file cannot be written nothing is said of it. -/
structure Project.IsRecorded (p : Project) (place : String) : Prop where
  settings : p.settings = p.loaded
  recorded : p.loaded.manifest = .text place
  texts : ∀ c ∈ p.manifest.entries, c.IsOfTexts
  file : p.files.Admits place →
    (p.manifest.entries = [] ∧ p.files.content? (location place) = none) ∨
      p.files.readText place = .ok p.manifest.print

namespace Project.IsRecorded

variable {p q : Project} {place : String}

lemma of_matches (h : p.IsRecorded place) (hm : p.Matches q) : q.IsRecorded place := by
  refine ⟨?_, ?_, ?_, ?_⟩
  · rw [← hm.settings, ← hm.loaded, h.settings]
  · rw [← hm.loaded, h.recorded]
  · rw [← hm.manifest]
    exact h.texts
  · rw [← hm.manifest, ← hm.files]
    exact h.file

end Project.IsRecorded

namespace Action

variable {p q : Project} {place : String}

/-- The compilations that a file records make the manifest, if their names can be those of entries. -/
lemma loadManifest_of_ofFile {compilations : List Compilation}
    (h : Manifest.ofFile p.files p.settings.manifest = .ok (some compilations))
    (hkeys : ∀ c ∈ compilations, c.name.isKey = true) :
    ∃ events, loadManifest.apply p =
      (.ok (), { p with manifest := .ofList compilations, loaded := p.settings, events }) := by
  have hall : (compilations.all fun c => c.name.isKey) = true := List.all_eq_true.2 hkeys
  unfold loadManifest
  rw [apply_bind, apply_get]
  dsimp only
  rw [h]
  dsimp only
  rw [hall, if_pos rfl]
  exact ⟨_, rfl⟩

/-- The file of a manifest that is recorded gives the manifest back, to any project in the same
directory. -/
theorem loadManifest_of_isRecorded (h : p.IsRecorded place) (hadmits : p.files.Admits place)
    (hsettings : q.settings = p.settings) (hfiles : q.files = p.files) :
    ∃ found r, Manifest.ofFile p.files (.text place) = .ok found ∧
      found.getD [] = p.manifest.entries ∧ loadManifest.apply q = (.ok (), r) ∧ p.Matches r := by
  have hplace : q.settings.manifest = .text place := by rw [hsettings, h.settings, h.recorded]
  have hloaded : p.loaded = q.settings := by rw [hsettings, h.settings]
  rcases h.file hadmits with ⟨hempty, hnone⟩ | hread
  · have hfound : Manifest.ofFile p.files (.text place) = .ok none := by
      simp only [Manifest.ofFile, FileTree.containsAt, hadmits.contains_eq_false hnone, bind,
        Except.bind, pure, Except.pure, Bool.false_eq_true, if_false]
    have hmanifest : p.manifest = .empty := by
      rw [← p.manifest.ofList_entries, hempty]
      rfl
    unfold loadManifest
    rw [apply_bind, apply_get]
    dsimp only
    rw [hplace, hfiles, hfound]
    exact ⟨none, _, rfl, hempty.symm, rfl, ⟨hloaded, hmanifest, rfl⟩, hsettings.symm⟩
  · have hfound := Manifest.ofFile_of_readText h.texts hread
    rw [← hplace, ← hfiles] at hfound
    obtain ⟨events, hload⟩ := loadManifest_of_ofFile hfound fun c hc => (h.texts c hc).isKey_name
    rw [hplace, hfiles] at hfound
    refine ⟨some _, _, hfound, rfl, hload, ⟨hloaded, ?_, hfiles.symm⟩, hsettings.symm⟩
    exact p.manifest.ofList_entries.symm

/-! ## What operations preserve -/

/-- No file of the table in a workbook, compiled under a label, lies at a place. -/
def AvoidsAt (s : Settings) (label path place : String) : Prop :=
  ∀ kind, TableKind.ofLabel? label = some kind → Text.isIdentifier (tableNameOf path) = true →
    ∀ output ∈ outputPlaces s kind (tableNameOf path), location output ≠ location place

/-- Whatever is recorded is recorded, if its file can be written. -/
lemma isRecorded_of_recording {files : FileTree} (hsettings : q.settings = q.loaded)
    (hplace : q.loaded.manifest = .text place) (htexts : ∀ c ∈ q.manifest.entries, c.IsOfTexts)
    (hfiles : q.files = ((recording q.loaded q.manifest).apply files).2) : q.IsRecorded place := by
  have hwritable : q.manifest.isWritable = true :=
    Manifest.isWritable_of_isListable fun c hc => (htexts c hc).isListable
  refine ⟨hsettings, hplace, htexts, fun hadmits => .inr ?_⟩
  rcases recording_cases hplace hwritable files with
    ⟨files', hr, hread⟩ | ⟨f, files', hr, hnot⟩
  · rw [hfiles, hr]
    exact hread
  · rw [hfiles, hr] at hadmits
    exact absurd hadmits hnot

lemma isOfTexts_of_compiling {s : Settings} {label path : String} {files files' : FileTree}
    {c : Compilation} (h : (compiling s label path).apply files = (.ok c, files')) :
    c.IsOfTexts := by
  obtain ⟨kind, -, hrecords, -⟩ := compiling_eq_ok h
  exact ⟨_, _, _, _, hrecords.eq⟩

lemma isOfTexts_insert {m : Manifest} {c : Compilation} (h : ∀ d ∈ m.entries, d.IsOfTexts)
    (hc : c.IsOfTexts) : ∀ d ∈ (m.insert c).entries, d.IsOfTexts := by
  intro d hd
  rcases Manifest.mem_place hd with rfl | hd
  · exact hc
  · exact h d hd

/-- An attempt keeps the manifest and its file the same, unless the file is an output of the
table. -/
lemma isRecorded_compileNext {label path : String} (h : p.IsRecorded place)
    (hout : AvoidsAt p.loaded label path place) :
    ((compileNext p.loaded label path).apply p).2.IsRecorded place := by
  have hextends := extends_compiling p.loaded label path p.files
  have hchanges : p.files.ChangesAt {l | l ≠ location place}
      ((compiling p.loaded label path).apply p.files).2 :=
    changesAt_compiling (fun kind hk hident output ho => hout kind hk hident output ho) p.files
  rcases hc : (compiling p.loaded label path).apply p.files with ⟨f | c, files⟩
  · rw [hc] at hextends hchanges
    have hplace : location place ∉ {l | l ≠ location place} := fun hl => hl rfl
    obtain ⟨_, _, hnext⟩ := compileNext_of_error hc
    rw [hnext]
    refine ⟨h.settings, h.recorded, h.texts, fun hadmits => ?_⟩
    -- a file that can be written now could be written before
    rcases h.file (hadmits.of_extends hextends) with ⟨hempty, hnone⟩ | hread
    · exact .inl ⟨hempty, (hchanges.files _ hplace).trans hnone⟩
    · exact .inr (hchanges.readText hplace hread)
  · obtain ⟨_, _, hnext⟩ := compileNext_of_ok hc
    rw [hnext]
    exact isRecorded_of_recording h.settings h.recorded
      (isOfTexts_insert h.texts (isOfTexts_of_compiling hc)) rfl

/-- What removing compilations leaves of a project besides its files: entries are only dropped. -/
structure Drops (p q : Project) : Prop where
  settings : q.settings = p.settings
  loaded : q.loaded = p.loaded
  entries : ∀ c ∈ q.manifest.entries, c ∈ p.manifest.entries

lemma Drops.refl (p : Project) : Drops p p := ⟨rfl, rfl, fun _ h => h⟩

lemma Drops.trans (p q r : Project) (h : Drops p q) (h' : Drops q r) : Drops p r :=
  ⟨h'.settings.trans h.settings, h'.loaded.trans h.loaded,
    fun c hc => h.entries c (h'.entries c hc)⟩

lemma keeps_ofExcept {α : Type} (r : Except Failure α) : Keeps Drops (ofExcept r) := by
  cases r with
  | ok x => exact Keeps.pure Drops.refl x
  | error e => exact Keeps.throw Drops.refl e

lemma keeps_deleteFile (place : Json) : Keeps Drops (deleteFile place) := by
  refine Keeps.bind Drops.trans (Keeps.get Drops.refl) fun p => ?_
  refine Keeps.bind Drops.trans (keeps_ofExcept _) fun found => ?_
  split
  · split
    · refine Keeps.bind Drops.trans (fun p => ?_) fun _ p => ⟨rfl, rfl, fun _ h => h⟩
      rw [apply_onFiles]
      exact ⟨rfl, rfl, fun _ h => h⟩
    · exact Keeps.throw Drops.refl _
  · exact Keeps.pure Drops.refl _

lemma keeps_discard (c : Compilation) : Keeps Drops (discard c) := by
  refine Keeps.bind Drops.trans (Keeps.get Drops.refl) fun p => ?_
  refine Keeps.bind Drops.trans (keeps_ofExcept _) fun files => ?_
  refine Keeps.bind Drops.trans (Keeps.forM Drops.refl Drops.trans fun place _ =>
    keeps_deleteFile place) fun _ => ?_
  split
  · exact fun p => ⟨rfl, rfl, fun d hd => (List.mem_filter.1 hd).1⟩
  · exact Keeps.throw Drops.refl _

/-- Removing ends with recording what is left, also if a file cannot be deleted. -/
lemma isRecorded_remove (h : p.IsRecorded place) (compilations : List Compilation) :
    ((Operation.remove compilations).after p).IsRecorded place := by
  have hdrops : Drops p ((compilations.forM discard).apply p).2 :=
    Keeps.forM Drops.refl Drops.trans (fun c _ => keeps_discard c) p
  -- the last thing done is to write the file, whatever came before
  rw [Operation.after_remove, apply_persist]
  refine isRecorded_of_recording ?_ ?_ (fun c hc => h.texts c (hdrops.entries c hc)) rfl
  · exact hdrops.settings.trans (h.settings.trans hdrops.loaded.symm)
  · exact (congrArg Settings.manifest hdrops.loaded).trans h.recorded

end Action

namespace Operation

/-- Whether the compilations that an operation is given record texts alone. -/
def IsOfTexts : Operation → Prop
  | .record c => c.IsOfTexts
  | .remove compilations | .recompile compilations | .removeTables compilations =>
    ∀ c ∈ compilations, c.IsOfTexts
  | _ => True

/-- Whether an operation leaves the file of the manifest to the manifest: the file is no output of a
table that is compiled, others leave it as it is, and it can be written afterwards. -/
structure SparesManifest (place : String) (o : Operation) (p : Project) : Prop where
  texts : o.IsOfTexts
  outputs : ∀ x ∈ o.attempts p, Action.AvoidsAt p.loaded x.1 x.2.path place
  outside : ∀ files, o = .replaceFiles files →
    (p.files.content? (location place) = none → files.content? (location place) = none) ∧
      ∀ text, p.files.readText place = .ok text → files.readText place = .ok text
  admits : (o.after p).files.Admits place

/-- The manifest and its file are the same after an operation if they were before. -/
theorem isRecorded_after {place : String} {o : Operation} {p : Project} (h : p.IsRecorded place)
    (hadmits : p.files.Admits place) (ho : o.SparesManifest place p) :
    (o.after p).IsRecorded place := by
  -- compiling and compiling again are attempts one after the other
  have hbatches (hafter : o.after p = ((Action.compileBatches o.batches).apply p).2) :
      (o.after p).IsRecorded place := by
    have hkept : ((Action.compileBatches o.batches).apply p).2.IsRecorded place ∧
        ((Action.compileBatches o.batches).apply p).2.loaded = p.loaded := by
      refine Action.Attempted.induct (I := fun q => q.IsRecorded place ∧ q.loaded = p.loaded)
        (C := fun label a => Action.AvoidsAt p.loaded label a.path place)
        (fun q r hm hq => ⟨hq.1.of_matches hm, hm.loaded.symm.trans hq.2⟩)
        (fun label path q hq hC => ?_) (Action.attempted_compileBatches o.batches p) ⟨h, rfl⟩
        ho.outputs
      rw [← hq.2] at hC
      exact ⟨Action.isRecorded_compileNext hq.1 hC,
        (Action.matches_of_compileNext _ _ _ _).1.trans hq.2⟩
    rw [hafter]
    exact hkept.1
  cases o with
  | load =>
    obtain ⟨found, r, -, -, hload, hm⟩ := Action.loadManifest_of_isRecorded h hadmits rfl rfl
    rw [after, run, apply_then_snd, hload]
    exact h.of_matches hm
  | list =>
    have hsame : list.after p = p := by
      rw [after, run, apply_bind, apply_get]
      dsimp only
      cases p.manifest.listing <;> rfl
    rw [hsame]
    exact h
  | persist =>
    rw [after, run, apply_then_snd, Action.apply_persist]
    exact Action.isRecorded_of_recording h.settings h.recorded h.texts rfl
  | record c =>
    have htexts : c.IsOfTexts := ho.texts
    rw [after, run, apply_then_snd, Action.apply_record htexts.isKey_name]
    exact Action.isRecorded_of_recording h.settings h.recorded
      (Action.isOfTexts_insert h.texts htexts) rfl
  | remove compilations => exact Action.isRecorded_remove h compilations
  | compile paths label => exact hbatches (after_compile paths label p)
  | recompile compilations => exact hbatches (after_recompile ho.texts p)
  | removeTables compilations =>
    exact (Action.isRecorded_remove h compilations).of_matches (after_removeTables compilations p)
  | replaceFiles files =>
    obtain ⟨hnone, hread⟩ := ho.outside files rfl
    refine ⟨h.settings, h.recorded, h.texts, fun _ => (h.file hadmits).imp ?_ (hread _)⟩
    exact fun hempty => ⟨hempty.1, hnone hempty.2⟩

end Operation

/-! ## Sessions -/

/-- The project of a new process in the directory of another one: it has loaded the manifest. -/
def Project.reopened (p : Project) (data : String) : Project :=
  (Action.loadManifest.apply (.ofFiles p.settings p.files data)).2

namespace Session

/-- The answers of operations each of which is done by a process of its own, and the project that
the last one leaves. -/
def apart (data : String) : List Operation → Project →
    List (Except Failure (List Compilation)) × Project
  | [], p => ([], p)
  | o :: os, p =>
    let rest := apart data os (o.after (p.reopened data))
    (o.answer (p.reopened data) :: rest.1, rest.2)

variable {p : Project} {place : String} {os : List Operation}

lemma isRecorded_after (h : p.IsRecorded place) (hadmits : p.files.Admits place)
    (hos : Obeys (Operation.SparesManifest place) os p) :
    (after os p).IsRecorded place ∧ (after os p).files.Admits place :=
  obeys_induct (I := fun q => q.IsRecorded place ∧ q.files.Admits place)
    (fun _ _ hq ho => ⟨Operation.isRecorded_after hq.1 hq.2 ho, ho.admits⟩) ⟨h, hadmits⟩ hos

/-- Processes that follow each other answer as one does. -/
lemma apart_eq_answers {q : Project} (h : p.IsRecorded place) (hadmits : p.files.Admits place)
    (hos : Obeys (Operation.SparesManifest place) os p) (hm : p.Matches q) (data : String) :
    (apart data os q).1 = answers os p ∧ (after os p).Matches (apart data os q).2 := by
  induction os generalizing p q with
  | nil => exact ⟨rfl, hm⟩
  | cons o os ih =>
    -- the next process has loaded what the last one recorded
    have hopen : p.Matches (q.reopened data) := by
      obtain ⟨found, r, -, -, hload, hr⟩ := Action.loadManifest_of_isRecorded
        (q := .ofFiles q.settings q.files data) h hadmits hm.settings.symm hm.files.symm
      rw [Project.reopened, hload]
      exact hr
    obtain ⟨hanswer, hafter⟩ := o.agrees_run _ _ hopen
    obtain ⟨hrest, hend⟩ :=
      ih (Operation.isRecorded_after h hadmits hos.1) hos.1.admits hos.2 hafter
    refine ⟨?_, hend⟩
    rw [apart, answers, Operation.answer, Operation.answer, hanswer]
    exact congrArg _ hrest

end Session

/-- A project that has no manifest yet: there are no entries and no file, and the file can be
written. -/
structure Project.IsUnrecorded (p : Project) (place : String) : Prop where
  settings : p.settings = p.loaded
  recorded : p.loaded.manifest = .text place
  empty : p.manifest.entries = []
  missing : p.files.content? (location place) = none
  admits : p.files.Admits place

lemma Project.IsUnrecorded.isRecorded {p : Project} {place : String} (h : p.IsUnrecorded place) :
    p.IsRecorded place :=
  ⟨h.settings, h.recorded, by simp [h.empty], fun _ => .inl ⟨h.empty, h.missing⟩⟩

/-- After every session that starts without a manifest and leaves its file to it, there are neither
entries nor a file, or the file has the text of the manifest. The file gives the entries back. Any
project in the same directory that loads the manifest goes on as the session would: it gives the
same answers and leaves the same files. So processes that do one operation each answer as one
process does. -/
theorem session_isRecorded {p : Project} {place : String} {os : List Operation}
    (h : p.IsUnrecorded place)
    (hos : Session.Obeys (Operation.SparesManifest place) os p) :
    ((Session.after os p).manifest.entries = [] ∧
          (Session.after os p).files.contains place = false ∨
        (Session.after os p).files.readText place = .ok (Session.after os p).manifest.print) ∧
      (∃ found, Manifest.ofFile (Session.after os p).files (.text place) = .ok found ∧
        found.getD [] = (Session.after os p).manifest.entries) ∧
      (∀ q, q.settings = (Session.after os p).settings →
        q.files = (Session.after os p).files →
        ∃ r, Action.loadManifest.apply q = (.ok (), r) ∧ ∀ more,
          Session.answers more r = Session.answers more (Session.after os p) ∧
            (Session.after more r).manifest =
              (Session.after more (Session.after os p)).manifest ∧
            (Session.after more r).files = (Session.after more (Session.after os p)).files) ∧
      ∀ data, (Session.apart data os p).1 = Session.answers os p ∧
        (Session.apart data os p).2.manifest = (Session.after os p).manifest ∧
        (Session.apart data os p).2.files = (Session.after os p).files := by
  obtain ⟨hq, hadmits⟩ := Session.isRecorded_after h.isRecorded h.admits hos
  refine ⟨?_, ?_, fun q hsettings hfiles => ?_, fun data => ?_⟩
  · rcases hq.file hadmits with ⟨hempty, hnone⟩ | hread
    · exact .inl ⟨hempty, hadmits.contains_eq_false hnone⟩
    · exact .inr hread
  · obtain ⟨found, _, hfound, hentries, -, -⟩ :=
      Action.loadManifest_of_isRecorded hq hadmits rfl rfl
    exact ⟨found, hfound, hentries⟩
  · obtain ⟨_, r, -, -, hload, hm⟩ := Action.loadManifest_of_isRecorded hq hadmits hsettings hfiles
    refine ⟨r, hload, fun more => ?_⟩
    obtain ⟨hanswers, hend⟩ := Session.answers_of_matches hm more
    exact ⟨hanswers.symm, hend.manifest.symm, hend.files.symm⟩
  · obtain ⟨hanswers, hend⟩ :=
      Session.apart_eq_answers h.isRecorded h.admits hos (Project.Matches.refl p) data
    exact ⟨hanswers, hend.manifest.symm, hend.files.symm⟩

/-! ## A removal that fails -/

/-- What is recorded of a Convert table. -/
def colorTable : Compilation :=
  .ofTexts "Convert" "Color" "Color.xlsx" ["Dist/Convert/Color.py", "Resources/Color.json"]

/-- A project with a script and, in the place of the table's data file, a directory. -/
def colorProject : Project :=
  .ofFiles (.ofDirectories "Dist" "Resources")
    ⟨[(["Dist"], .directory), (["Dist", "Convert"], .directory),
      (["Dist", "Convert", "Color.py"], .file (.text "")), (["Resources"], .directory),
      (["Resources", "Color.json"], .directory)]⟩ "Resources"

/-- The table is recorded, and cannot be removed as a whole. -/
def colorSession : List Operation := [.record colorTable, .removeTables [colorTable]]

/-- The table stays in the manifest and in its file, though its script is gone. -/
theorem colorSession_isRecorded :
    colorProject.IsUnrecorded "Dist/ParseResult.json" ∧
      Session.Obeys (Operation.SparesManifest "Dist/ParseResult.json") colorSession colorProject ∧
      (Session.answers colorSession colorProject).map Except.isOk = [true, false] ∧
      (Session.after colorSession colorProject).files.contains "Dist/Convert/Color.py" = false ∧
      (Session.after colorSession colorProject).files.readText "Dist/ParseResult.json" =
        .ok (Session.after colorSession colorProject).manifest.print ∧
      (Session.apart "Resources" colorSession colorProject).1 =
        Session.answers colorSession colorProject := by
  have hstart : colorProject.IsUnrecorded "Dist/ParseResult.json" :=
    ⟨rfl, rfl, rfl, by decide, by decide +kernel⟩
  have htexts : colorTable.IsOfTexts := ⟨_, _, _, _, rfl⟩
  have hrecord : (Operation.record colorTable).SparesManifest "Dist/ParseResult.json"
      colorProject :=
    ⟨htexts, fun _ hx => (List.not_mem_nil hx).elim, nofun, by decide +kernel⟩
  have hremove : (Operation.removeTables [colorTable]).SparesManifest "Dist/ParseResult.json"
      ((Operation.record colorTable).after colorProject) :=
    ⟨fun _ hc => List.mem_singleton.1 hc ▸ htexts, fun _ hx => (List.not_mem_nil hx).elim, nofun,
      by decide +kernel⟩
  have hobeys : Session.Obeys (Operation.SparesManifest "Dist/ParseResult.json") colorSession
      colorProject := ⟨hrecord, hremove, trivial⟩
  have hanswers : (Session.answers colorSession colorProject).map Except.isOk = [true, false] := by
    decide +kernel
  have hscript : (Session.after colorSession colorProject).files.contains
      "Dist/Convert/Color.py" = false := by decide +kernel
  have hfile : (Session.after colorSession colorProject).files.contains
      "Dist/ParseResult.json" = true := by decide +kernel
  obtain ⟨hmanifest, -, -, hapart⟩ := session_isRecorded hstart hobeys
  refine ⟨hstart, hobeys, hanswers, hscript, ?_, (hapart "Resources").1⟩
  rcases hmanifest with ⟨-, hmissing⟩ | hread
  · rw [hfile] at hmissing
    cases hmissing
  · exact hread

end SheetCompiler
