import SheetCompiler.Proofs.Compile.Abort
import SheetCompiler.Proofs.Session.Operation
import Mathlib.Data.Set.Lattice
import Mathlib.Order.CompletePartialOrder

/-!
# The outputs that a manifest records

A session that compiles workbooks and removes tables that are recorded keeps the manifest exact
(`Project.IsExact`): every entry records the files of its table, which are there. No two entries
share a file, so what is done to one of them is done to no other.

Main statements:

* `removeTables_of_isExact`: removing tables that are recorded deletes their files and no others;
* `isExact_after`: what one operation preserves, and which files it changes;
* `session_outputs`: recorded outputs are exact after every operation.
-/

namespace SheetCompiler

open SheetCompiler.Stateful SheetCompiler.Path

/-! ## Where the files of a compilation lie -/

namespace Compilation

/-- The locations of the files of a compilation. -/
def locations (c : Compilation) : Set Location :=
  {l | ∃ output, .text output ∈ c.outputs ∧ location output = l}

/-- Whether a compilation records the table in a workbook under settings. -/
def IsExact (s : Settings) (c : Compilation) : Prop := ∃ kind source, c.Records s kind source

variable {s : Settings} {kind other : TableKind} {source workbook : String} {c d : Compilation}

lemma Records.outputs (h : c.Records s kind source) :
    c.outputs = (outputPlaces s kind (tableNameOf source)).map .text := by
  rw [h.eq]
  rfl

lemma Records.mem_outputs (h : c.Records s kind source) {output : String} :
    Json.text output ∈ c.outputs ↔ output ∈ outputPlaces s kind (tableNameOf source) := by
  rw [h.outputs, List.mem_map]
  constructor
  · rintro ⟨path, hp, he⟩
    cases he
    exact hp
  · exact fun ho => ⟨output, ho, rfl⟩

lemma Records.mem_locations (h : c.Records s kind source) {l : Location} :
    l ∈ c.locations ↔
      ∃ output ∈ outputPlaces s kind (tableNameOf source), location output = l := by
  show (∃ output, Json.text output ∈ c.outputs ∧ location output = l) ↔ _
  simp only [h.mem_outputs]

lemma Records.rank (h : c.Records s kind source) :
    c.rank = (Json.text (tableNameOf source)).rank := by
  rw [h.eq]
  rfl

/-- The files of a table are deleted with it. -/
lemma Records.filesOf (h : c.Records s kind source) : Action.filesOf s c = .ok c.outputs := by
  have hdata := h.data
  have houtputs := h.outputs
  obtain rfl := h.eq
  unfold Action.filesOf
  rw [isOf_ofTexts]
  by_cases hk : kind = .convert
  · subst hk
    obtain ⟨data, hd⟩ := Option.isSome_iff_exists.1 (hdata rfl)
    have hmem : data ∈ outputPlaces s .convert (tableNameOf source) :=
      mem_outputPlaces.2 (.inr ⟨rfl, hd⟩)
    have hdisplay : (ofTexts TableKind.convert.name (tableNameOf source) source
        (outputPlaces s .convert (tableNameOf source))).name.display = tableNameOf source := rfl
    have htexts : ((outputPlaces s .convert (tableNameOf source)).map Json.text).filterMap
        Json.text? = outputPlaces s .convert (tableNameOf source) := by
      rw [List.filterMap_map]
      exact List.filterMap_some
    have hfound : ((outputPlaces s .convert (tableNameOf source)).contains data) = true :=
      List.contains_iff_mem.2 hmem
    obtain ⟨directory, hdirectory, -⟩ := Settings.dataPath?_eq_some hd
    -- the data file is an output already, so it is not deleted once more
    rw [hdisplay, hd, houtputs, htexts, hdirectory, decide_eq_true rfl]
    dsimp only
    rw [if_pos hfound, ite_self]
  · have hname : decide (kind.name = TableKind.convert.name) = false :=
      decide_eq_false fun he => hk (TableKind.name_inj he)
    rw [hname]

/-- Tables of different names share no file. -/
lemma Records.disjoint (h : c.Records s kind source) (h' : d.Records s other workbook)
    (hne : c.rank ≠ d.rank) : Disjoint c.locations d.locations := by
  rw [Set.disjoint_left]
  intro l hl hl'
  obtain ⟨output, ho, rfl⟩ := h.mem_locations.1 hl
  obtain ⟨output', ho', heq⟩ := h'.mem_locations.1 hl'
  obtain ⟨-, htable, -⟩ := eq_of_location_eq h.named h'.named ho ho' heq.symm
  rw [h.rank, h'.rank, htable] at hne
  exact hne rfl

end Compilation

/-! ## Deleting the files of a table -/

namespace Action

variable {p : Project}

/-- The file at a place is deleted if there is one. -/
lemma deleteFile_of_isDeletable {path : String} (h : p.files.IsDeletable path) :
    ∃ files events, (deleteFile (.text path)).apply p = (.ok (), { p with files, events }) ∧
      p.files.ShrinksAt {location path} files ∧ files.node? (location path) = none := by
  unfold deleteFile
  rw [apply_bind, apply_get]
  dsimp only
  rcases h with hfile | hnone
  · obtain ⟨⟨content, hn⟩, hremove⟩ := FileTree.removeFile_of_isFile hfile
    have hfound : (ofExcept (p.files.containsAt (.text path))).apply p = (.ok true, p) := by
      rw [FileTree.containsAt, FileTree.contains_of_isFile hfile]
      rfl
    have hdone : (onFiles (FileTree.removeFile path)).apply p =
        (.ok (), { p with files := p.files.erase (location path) }) := by
      rw [apply_onFiles, hremove]
      rfl
    rw [apply_bind_of_ok hfound, if_pos rfl, apply_bind_of_ok hdone]
    exact ⟨_, _, rfl, FileTree.shrinksAt_erase hn, FileTree.node?_erase_file hn⟩
  · have hfound : (ofExcept (p.files.containsAt (.text path))).apply p = (.ok false, p) := by
      rw [FileTree.containsAt, FileTree.contains_of_node?_eq_none hnone]
      rfl
    rw [apply_bind_of_ok hfound, if_neg Bool.false_ne_true]
    exact ⟨p.files, p.events, rfl, FileTree.ShrinksAt.refl _ _, hnone⟩

/-- Files that can be deleted are, one after the other. -/
lemma forM_deleteFile {paths : List String} (h : ∀ path ∈ paths, p.files.IsDeletable path) :
    ∃ files events, ((paths.map Json.text).forM deleteFile).apply p =
        (.ok (), { p with files, events }) ∧
      p.files.ShrinksAt {l | ∃ path ∈ paths, location path = l} files ∧
      ∀ path ∈ paths, files.node? (location path) = none := by
  induction paths generalizing p with
  | nil => exact ⟨p.files, p.events, rfl, FileTree.ShrinksAt.refl _ _, nofun⟩
  | cons path paths ih =>
    obtain ⟨files, events, hfirst, hshrinks, hgone⟩ := deleteFile_of_isDeletable (h path (by simp))
    -- a path that is named twice leads to nothing the second time
    have hdeletable : ∀ other ∈ paths, files.IsDeletable other :=
      fun other ho => hshrinks.isDeletable (h other (by simp [ho]))
    obtain ⟨files', events', hrest, hshrinks', hgone'⟩ :=
      ih (p := { p with files, events }) hdeletable
    refine ⟨files', events', ?_, ?_, fun other ho => ?_⟩
    · show (deleteFile (.text path) >>= fun _ => (paths.map Json.text).forM deleteFile).apply p = _
      rw [apply_bind_of_ok hfirst, hrest]
    · refine (hshrinks.mono ?_).trans (hshrinks'.mono ?_)
      · rintro l rfl
        exact ⟨path, by simp, rfl⟩
      · rintro l ⟨other, ho, rfl⟩
        exact ⟨other, by simp [ho], rfl⟩
    · rcases List.mem_cons.1 ho with rfl | ho
      · exact hshrinks'.node?_eq_none hgone
      · exact hgone' other ho

/-- What removing tables with all of their files has done: the entries of their names are dropped
and their files are gone. -/
structure Removed (compilations : List Compilation) (p q : Project) : Prop where
  settings : q.settings = p.settings
  loaded : q.loaded = p.loaded
  entries : ∀ d, d ∈ q.manifest.entries ↔
    d ∈ p.manifest.entries ∧ ∀ c ∈ compilations, d.rank ≠ c.rank
  files : p.files.ShrinksAt {l | ∃ c ∈ compilations, l ∈ c.locations} q.files
  gone : ∀ c ∈ compilations, ∀ l ∈ c.locations, q.files.node? l = none

/-- A table whose files can be deleted is dropped. -/
lemma discard_of_isExact {c : Compilation} (h : c.IsExact p.loaded)
    (hdel : ∀ output, .text output ∈ c.outputs → p.files.IsDeletable output) :
    ∃ q, (discard c).apply p = (.ok (), q) ∧ Removed [c] p q := by
  obtain ⟨kind, source, hrecords⟩ := h
  have hkey : c.name.isKey = true := by
    rw [hrecords.eq]
    rfl
  obtain ⟨files, events, hdelete, hshrinks, hgone⟩ :=
    forM_deleteFile fun output ho => hdel output (hrecords.mem_outputs.2 ho)
  have hfiles : (ofExcept (filesOf p.loaded c)).apply p = (.ok c.outputs, p) := by
    rw [hrecords.filesOf]
    rfl
  rw [← hrecords.outputs] at hdelete
  refine ⟨{ p with files, events, manifest := p.manifest.erase c.name }, ?_, rfl, rfl,
    fun d => ?_, hshrinks.mono ?_, ?_⟩
  · unfold discard
    rw [apply_bind, apply_get]
    dsimp only
    rw [apply_bind_of_ok hfiles, apply_bind_of_ok hdelete, if_pos hkey]
    rfl
  · show d ∈ p.manifest.entries.filter _ ↔ _
    rw [List.mem_filter, List.forall_mem_singleton, decide_eq_true_eq]
    exact Iff.rfl
  · rintro l ⟨output, ho, rfl⟩
    exact ⟨c, by simp, hrecords.mem_locations.2 ⟨output, ho, rfl⟩⟩
  · rw [List.forall_mem_singleton]
    intro l hl
    obtain ⟨output, ho, rfl⟩ := hrecords.mem_locations.1 hl
    exact hgone output ho

/-- Tables whose files can be deleted are dropped one after the other. -/
lemma forM_discard {compilations : List Compilation} (h : ∀ c ∈ compilations, c.IsExact p.loaded)
    (hdel : ∀ c ∈ compilations, ∀ output, .text output ∈ c.outputs →
      p.files.IsDeletable output) :
    ∃ q, (compilations.forM discard).apply p = (.ok (), q) ∧ Removed compilations p q := by
  induction compilations generalizing p with
  | nil =>
    refine ⟨p, rfl, rfl, rfl, fun d => ?_, FileTree.ShrinksAt.refl _ _, nofun⟩
    simp
  | cons c compilations ih =>
    obtain ⟨q, hfirst, hremoved⟩ := discard_of_isExact (h c (by simp)) (hdel c (by simp))
    obtain ⟨r, hrest, hremoved'⟩ := ih (p := q)
      (fun d hd => hremoved.loaded ▸ h d (by simp [hd]))
      (fun d hd output ho => hremoved.files.isDeletable (hdel d (by simp [hd]) output ho))
    refine ⟨r, ?_, hremoved'.settings.trans hremoved.settings,
      hremoved'.loaded.trans hremoved.loaded, fun d => ?_, ?_, ?_⟩
    · show (discard c >>= fun _ => compilations.forM discard).apply p = _
      rw [apply_bind_of_ok hfirst, hrest]
    · rw [hremoved'.entries, hremoved.entries, List.forall_mem_singleton, List.forall_mem_cons,
        and_assoc]
    · refine (hremoved.files.mono ?_).trans (hremoved'.files.mono ?_)
      · rintro l ⟨d, hd, hl⟩
        exact ⟨d, by simp [List.mem_singleton.1 hd], hl⟩
      · rintro l ⟨d, hd, hl⟩
        exact ⟨d, by simp [hd], hl⟩
    · rw [List.forall_mem_cons]
      refine ⟨fun l hl => ?_, hremoved'.gone⟩
      exact hremoved'.files.node?_eq_none (hremoved.gone c (by simp) l hl)

end Action

/-! ## Exact manifests -/

/-- A project whose manifest is exact: every entry records the files of its table, which are
there. -/
structure Project.IsExact (p : Project) : Prop where
  entries : ∀ c ∈ p.manifest.entries, c.IsExact p.loaded
  files : ∀ c ∈ p.manifest.entries, ∀ output, .text output ∈ c.outputs → p.files.IsFile output

/-- Whether a workbook compiles under a label, but what it compiles to cannot be written. -/
def Attempt.IsBlocked (a : Attempt) (label : String) : Prop :=
  (∃ kind, TableKind.ofLabel? label = some kind ∧
    Compiles a.before.loaded kind a.path a.before.files) ∧ a.result? = none

/-- What an attempt that succeeds does: it records the table in its workbook, whose files are there
then. It takes nothing away, and changes these files and that of the manifest. -/
structure Adds (place : String) (kind : TableKind) (source : String) (c : Compilation)
    (p q : Project) : Prop where
  records : c.Records p.loaded kind source
  loaded : q.loaded = p.loaded
  manifest : q.manifest = p.manifest.insert c
  extended : p.files.Extends q.files
  changes : p.files.ChangesAt (insert (location place) c.locations) q.files
  files : ∀ output, .text output ∈ c.outputs → q.files.IsFile output

namespace Action

variable {p : Project} {place label path : String}

/-- An attempt that is not blocked changes nothing or records a table with its files. -/
theorem attempt_cases (hplace : p.loaded.manifest = .text place)
    (h : ¬ (attemptAt p.loaded label path p).IsBlocked label) :
    ((attemptAt p.loaded label path p).result? = none ∧
        p.Matches ((compileNext p.loaded label path).apply p).2) ∨
      ∃ kind c, TableKind.ofLabel? label = some kind ∧
        (attemptAt p.loaded label path p).result? = some c ∧
        Adds place kind path c p ((compileNext p.loaded label path).apply p).2 := by
  have hresult : (attemptAt p.loaded label path p).result? =
      ((compiling p.loaded label path).apply p.files).1.toOption := by
    rw [Attempt.result?, outcome_attemptAt]
  rcases compiling_cases p.loaded label path p.files with
    ⟨f, hc⟩ | ⟨kind, hkind, hcompiles, ⟨f, files, hc⟩ | ⟨c, files, hc, hrecords, hfiles⟩⟩
  · obtain ⟨_, _, hnext⟩ := compileNext_of_error hc
    rw [hc] at hresult
    rw [hnext]
    exact .inl ⟨hresult, ⟨rfl, rfl, rfl⟩, rfl⟩
  · -- what compiles and is not written is blocked
    rw [hc] at hresult
    exact absurd ⟨⟨kind, hkind, hcompiles⟩, hresult⟩ h
  · obtain ⟨_, _, hnext⟩ := compileNext_of_ok hc
    -- first the files of the table are written, and then that of the manifest
    have hextends := extends_compiling p.loaded label path p.files
    have hchanges : p.files.ChangesAt c.locations
        ((compiling p.loaded label path).apply p.files).2 := by
      refine changesAt_compiling (fun other hother _ output ho => ?_) p.files
      rw [hkind] at hother
      cases hother
      exact hrecords.mem_locations.2 ⟨output, ho, rfl⟩
    have hrecording := extends_recording p.loaded (p.manifest.insert c) files
    have hplaced := changesAt_recording hplace (p.manifest.insert c) files
    rw [hc] at hresult hextends hchanges
    rw [hnext]
    refine .inr ⟨kind, c, hkind, hresult, hrecords, rfl, rfl, hextends.trans _ _ _ hrecording,
      ?_, fun output ho => ?_⟩
    · exact (hchanges.mono (Set.subset_insert _ _)).trans _ _ _
        (hplaced.mono (Set.singleton_subset_iff.2 (Set.mem_insert _ _)))
    · exact hrecording.isFile (hfiles output (hrecords.mem_outputs.1 ho))

/-- A workbook that compiles, and whose files can be written, is not blocked. -/
lemma adds_of_compiles {kind : TableKind} (hplace : p.loaded.manifest = .text place)
    (hkind : TableKind.ofLabel? label = some kind)
    (hcompiles : Compiles p.loaded kind path p.files)
    (hadmits : p.files.AdmitsTable p.loaded kind (tableNameOf path)) :
    ¬ (attemptAt p.loaded label path p).IsBlocked label ∧
      ∃ c, Adds place kind path c p (attemptAt p.loaded label path p).after := by
  obtain ⟨c, files, hc⟩ := compiling_of_admits hkind hcompiles hadmits
  have hresult : (attemptAt p.loaded label path p).result? = some c := by
    rw [Attempt.result?, outcome_attemptAt, hc]
    rfl
  have hfree : ¬ (attemptAt p.loaded label path p).IsBlocked label := by
    rintro ⟨-, hnone⟩
    rw [hresult] at hnone
    cases hnone
  refine ⟨hfree, ?_⟩
  rcases attempt_cases hplace hfree with ⟨hnone, -⟩ | ⟨other, c, hother, -, hadds⟩
  · rw [hresult] at hnone
    cases hnone
  · rw [hkind] at hother
    cases hother
    exact ⟨c, hadds⟩

/-- What an attempt adds to an exact manifest keeps it exact. -/
lemma isExact_of_adds {q : Project} {kind : TableKind} {source : String} {c : Compilation}
    (hp : p.IsExact) (h : Adds place kind source c p q) : q.IsExact := by
  refine ⟨fun d hd => ?_, fun d hd output ho => ?_⟩
  · rw [h.manifest] at hd
    rw [h.loaded]
    rcases Manifest.mem_place hd with rfl | hd
    · exact ⟨kind, source, h.records⟩
    · exact hp.entries d hd
  · rw [h.manifest] at hd
    rcases Manifest.mem_place hd with rfl | hd
    · exact h.files output ho
    · exact h.extended.isFile (hp.files d hd output ho)

end Action

lemma Adds.of_matches {place source : String} {kind : TableKind} {c : Compilation}
    {p q r : Project} (h : Adds place kind source c p q) (hm : q.Matches r) :
    Adds place kind source c p r :=
  ⟨h.records, hm.loaded ▸ h.loaded, hm.manifest ▸ h.manifest, hm.files ▸ h.extended,
    hm.files ▸ h.changes, hm.files ▸ h.files⟩

lemma Project.IsExact.of_matches {p q : Project} (h : p.IsExact) (hm : p.Matches q) :
    q.IsExact := by
  refine ⟨?_, ?_⟩
  · rw [← hm.manifest, ← hm.loaded]
    exact h.entries
  · rw [← hm.manifest, ← hm.files]
    exact h.files

/-- A manifest without entries is exact. -/
lemma Project.isExact_of_empty {p : Project} (h : p.manifest.entries = []) : p.IsExact := by
  refine ⟨fun c hc => ?_, fun c hc => ?_⟩ <;>
  · rw [h] at hc
    exact absurd hc List.not_mem_nil

namespace Manifest

variable {m : Manifest} {c d : Compilation}

/-- An entry of a manifest with a compilation more is this one or has another name. -/
lemma mem_insert : d ∈ (m.insert c).entries ↔ d = c ∨ d ∈ m.entries ∧ d.rank ≠ c.rank := by
  rw [← get?_eq_some_iff, get?_insert]
  by_cases h : c.rank = d.name.rank
  · rw [if_pos h]
    have hrank : d.rank = c.rank := h.symm
    simp [hrank, eq_comm]
  · rw [if_neg h, get?_eq_some_iff]
    have hrank : d.rank ≠ c.rank := Ne.symm h
    have hne : d ≠ c := fun he => hrank (congrArg Compilation.rank he)
    simp [hrank, hne]

/-- Entries of one name are one entry. -/
lemma eq_of_rank_eq (hc : c ∈ m.entries) (hd : d ∈ m.entries) (h : c.rank = d.rank) : c = d := by
  have hsame : m.get? c.name = m.get? d.name := by
    have hnames : c.name.rank = d.name.rank := h
    unfold get?
    rw [hnames]
  rw [get?_of_mem hc, get?_of_mem hd, Option.some.injEq] at hsame
  exact hsame

/-- Different entries have different names. -/
lemma rank_ne (hc : c ∈ m.entries) (hd : d ∈ m.entries) (hne : c ≠ d) : c.rank ≠ d.rank :=
  fun h => hne (eq_of_rank_eq hc hd h)

lemma nodup_entries (m : Manifest) : m.entries.Nodup := by
  refine m.sorted.imp fun {a b} hlt => ?_
  rintro rfl
  exact Json.Rank.lt_irrefl _ hlt

/-- Manifests with the same entries are the same. -/
lemma eq_of_mem_iff {m' : Manifest} (h : ∀ c, c ∈ m.entries ↔ c ∈ m'.entries) : m = m' := by
  have hperm := (List.perm_ext_iff_of_nodup m.nodup_entries m'.nodup_entries).2 h
  have hentries : m.entries = m'.entries :=
    hperm.eq_of_pairwise (fun a b _ _ hab hba =>
      absurd (Json.Rank.lt_trans hab hba) (Json.Rank.lt_irrefl _)) m.sorted m'.sorted
  cases m
  cases m'
  cases hentries
  rfl

/-- An entry that is put in again changes nothing. -/
lemma insert_of_mem (hc : c ∈ m.entries) : m.insert c = m := by
  refine eq_of_mem_iff fun d => ?_
  rw [mem_insert]
  constructor
  · rintro (rfl | ⟨hd, -⟩)
    · exact hc
    · exact hd
  · intro hd
    by_cases hrank : d.rank = c.rank
    · exact .inl (eq_of_rank_eq hd hc hrank)
    · exact .inr ⟨hd, hrank⟩

end Manifest

/-- Removing tables that are recorded drops their entries with their files, and records the
manifest. -/
theorem removeTables_of_isExact {p : Project} {compilations : List Compilation} (h : p.IsExact)
    (hall : ∀ c ∈ compilations, c ∈ p.manifest.entries) :
    ∃ q, Action.Removed compilations p q ∧
      ((Operation.removeTables compilations).after p).Matches
        { q with files := ((recording q.loaded q.manifest).apply q.files).2 } := by
  obtain ⟨q, hq, hremoved⟩ := Action.forM_discard (fun c hc => h.entries c (hall c hc))
    fun c hc output ho => .inl (h.files c (hall c hc) output ho)
  refine ⟨q, hremoved, ?_⟩
  have hmatches := (Operation.after_removeTables compilations p).symm
  rw [Operation.after_remove, hq, Action.apply_persist] at hmatches
  exact hmatches

/-- What is left of an exact manifest is exact. -/
lemma Action.Removed.isExact {p q : Project} {compilations : List Compilation} (h : p.IsExact)
    (hall : ∀ c ∈ compilations, c ∈ p.manifest.entries) (hq : Removed compilations p q) :
    q.IsExact := by
  refine ⟨fun d hd => ?_, fun d hd output ho => ?_⟩
  · rw [hq.loaded]
    exact h.entries d ((hq.entries d).1 hd).1
  · obtain ⟨hd, hranks⟩ := (hq.entries d).1 hd
    obtain ⟨content, hread⟩ := h.files d hd output ho
    refine ⟨content, hq.files.changesAt.read ?_ hread⟩
    -- no table that is removed has a file in the same place
    rintro ⟨c, hc, hl⟩
    obtain ⟨kind, source, hrecords⟩ := h.entries d hd
    obtain ⟨other, workbook, hother⟩ := h.entries c (hall c hc)
    exact Set.disjoint_left.1 (hrecords.disjoint hother (hranks c hc)) ⟨output, ho, rfl⟩ hl

/-! ## Operations on entries -/

/-- Others may change files, but none where a table has its files. -/
def Project.SparesOutputs (p : Project) (files : FileTree) : Prop :=
  ∀ kind table, Text.isIdentifier table = true → ∀ output ∈ outputPlaces p.loaded kind table,
    (∀ content, p.files.read output = .ok content → files.read output = .ok content) ∧
      files.content? (location output) = p.files.content? (location output)

namespace Operation

/-- Whether an operation compiles workbooks, or compiles or removes tables that are recorded; in
between others may change files that are no table's. -/
def IsOnEntries : Operation → Project → Prop
  | .compile _ _, _ => True
  | .recompile compilations, p | .removeTables compilations, p =>
    ∀ c ∈ compilations, c ∈ p.manifest.entries
  | .replaceFiles files, p => p.SparesOutputs files
  | _, _ => False

/-- Whether an operation is on entries and no write of an output is blocked. -/
structure IsUnblocked (o : Operation) (p : Project) : Prop where
  onEntries : o.IsOnEntries p
  unblocked : ∀ x ∈ o.attempts p, ¬ x.2.IsBlocked x.1

/-- What the attempts of an operation record. -/
def added (o : Operation) (p : Project) : List Compilation :=
  (o.attempts p).filterMap fun x => x.2.result?

/-- What an operation removes. -/
def removed : Operation → List Compilation
  | .removeTables compilations => compilations
  | _ => []

/-- The locations of the manifest's file and of the files of tables that are added or removed. -/
def touched (place : String) (o : Operation) (p : Project) : Set Location :=
  {l | l = location place ∨ ∃ c, (c ∈ o.added p ∨ c ∈ o.removed) ∧ l ∈ c.locations}

end Operation

/-! ## What operations preserve -/

lemma Project.IsExact.isOfTexts {p : Project} {compilations : List Compilation} (h : p.IsExact)
    (hall : ∀ c ∈ compilations, c ∈ p.manifest.entries) : ∀ c ∈ compilations, c.IsOfTexts := by
  intro c hc
  obtain ⟨kind, source, hrecords⟩ := h.entries c (hall c hc)
  exact ⟨_, _, _, _, hrecords.eq⟩

/-- Attempts that are not blocked keep the manifest exact. -/
lemma Action.Attempted.isExact {p q : Project} {place : String} {xs : List (String × Attempt)}
    (h : Attempted xs p q) (hp : p.IsExact) (hplace : p.loaded.manifest = .text place)
    (hfree : ∀ x ∈ xs, ¬ x.2.IsBlocked x.1) : q.IsExact ∧ q.loaded = p.loaded := by
  refine h.induct (I := fun q => q.IsExact ∧ q.loaded = p.loaded)
    (C := fun label a => ¬ a.IsBlocked label) (fun q r hm hq => ?_)
    (fun label path q hq hC => ?_) ⟨hp, rfl⟩ hfree
  · exact ⟨hq.1.of_matches hm, hm.loaded ▸ hq.2⟩
  · rw [← hq.2] at hplace
    rcases attempt_cases hplace hC with ⟨-, hm⟩ | ⟨kind, c, -, -, hadds⟩
    · exact ⟨hq.1.of_matches hm, hm.loaded ▸ hq.2⟩
    · exact ⟨isExact_of_adds hq.1 hadds, hadds.loaded.trans hq.2⟩

/-- What an operation on entries keeps: the manifest is exact under the same settings, its entries
were there or have been added, and files have changed where tables were added or removed. -/
structure Operation.Keeps (place : String) (o : Operation) (p q : Project) : Prop where
  exact : q.IsExact
  loaded : q.loaded = p.loaded
  entries : ∀ c ∈ q.manifest.entries, c ∈ o.added p ∨ c ∈ p.manifest.entries ∧ c ∉ o.removed
  files : p.files.ChangesAt (o.touched place p) q.files

namespace Operation

variable {p q r : Project} {place : String} {o : Operation}

lemma Keeps.of_matches (h : Keeps place o p q) (hm : q.Matches r) : Keeps place o p r :=
  ⟨h.exact.of_matches hm, hm.loaded ▸ h.loaded, hm.manifest ▸ h.entries, hm.files ▸ h.files⟩

/-- What an attempt of an operation adds, it keeps. -/
lemma Keeps.adds {kind : TableKind} {source : String} {c : Compilation} (h : Keeps place o p q)
    (hadds : Adds place kind source c q r) (hc : c ∈ o.added p) : Keeps place o p r := by
  refine ⟨Action.isExact_of_adds h.exact hadds, hadds.loaded.trans h.loaded, fun d hd => ?_, ?_⟩
  · rw [hadds.manifest] at hd
    rcases Manifest.mem_place hd with rfl | hd
    · exact .inl hc
    · exact h.entries d hd
  · have htouched : insert (location place) c.locations ⊆ o.touched place p := by
      rintro l (rfl | hl)
      · exact .inl rfl
      · exact .inr ⟨c, .inl hc, hl⟩
    exact h.files.trans _ _ _ (hadds.changes.mono htouched)

/-- Batches keep the manifest exact, for each of their attempts does. -/
lemma keeps_compileBatches (hp : p.IsExact) (hplace : p.loaded.manifest = .text place)
    (hremoved : o.removed = []) (hfree : ∀ x ∈ o.attempts p, ¬ x.2.IsBlocked x.1) :
    Keeps place o p ((Action.compileBatches o.batches).apply p).2 := by
  have hstart : Keeps place o p p := by
    refine ⟨hp, rfl, fun c hc => .inr ⟨hc, ?_⟩, FileTree.ChangesAt.refl _ _⟩
    rw [hremoved]
    exact List.not_mem_nil
  have hadded : ∀ x ∈ o.attempts p, ∀ c, x.2.result? = some c → c ∈ o.added p :=
    fun x hx c hc => List.mem_filterMap.2 ⟨x, hx, hc⟩
  -- by induction on the attempts: each of them adds what is among all that is added
  refine Action.Attempted.induct (I := Keeps place o p)
    (C := fun label a => ¬ a.IsBlocked label ∧ ∀ c, a.result? = some c → c ∈ o.added p)
    (fun q r hm hq => hq.of_matches hm) (fun label path q hq hC => ?_)
    (Action.attempted_compileBatches o.batches p) hstart fun x hx => ⟨hfree x hx, hadded x hx⟩
  rcases Action.attempt_cases (hq.loaded ▸ hplace) hC.1 with
    ⟨-, hm⟩ | ⟨kind, c, -, hresult, hadds⟩
  · exact hq.of_matches hm
  · exact hq.adds hadds (hC.2 c hresult)

/-- Removing tables that are recorded keeps the manifest exact. -/
lemma keeps_removeTables {compilations : List Compilation} (hp : p.IsExact)
    (hplace : p.loaded.manifest = .text place)
    (hall : ∀ c ∈ compilations, c ∈ p.manifest.entries) :
    Keeps place (removeTables compilations) p ((removeTables compilations).after p) := by
  obtain ⟨q, hq, hm⟩ := removeTables_of_isExact hp hall
  have hexact := hq.isExact hp hall
  -- what is left is recorded, which takes no file of a table away
  have hextends := extends_recording q.loaded q.manifest q.files
  have hrecording := changesAt_recording (hq.loaded ▸ hplace) q.manifest q.files
  have hremoved : {l | ∃ c ∈ compilations, l ∈ c.locations} ⊆
      (removeTables compilations).touched place p := by
    rintro l ⟨c, hc, hl⟩
    exact .inr ⟨c, .inr hc, hl⟩
  have hplaced : {location place} ⊆ (removeTables compilations).touched place p := by
    rintro l rfl
    exact .inl rfl
  have hkept : Keeps place (removeTables compilations) p
      { q with files := ((recording q.loaded q.manifest).apply q.files).2 } := by
    refine ⟨⟨hexact.entries, fun c hc output ho => ?_⟩, hq.loaded, fun c hc => ?_, ?_⟩
    · exact hextends.isFile (hexact.files c hc output ho)
    · obtain ⟨hmem, hranks⟩ := (hq.entries c).1 hc
      exact .inr ⟨hmem, fun hc => hranks c hc rfl⟩
    · exact (hq.files.changesAt.mono hremoved).trans _ _ _ (hrecording.mono hplaced)
  exact hkept.of_matches hm.symm

/-- An operation that is not blocked keeps the manifest exact, and changes files where it adds or
removes tables. -/
theorem keeps_after (hp : p.IsExact) (hplace : p.loaded.manifest = .text place)
    (ho : o.IsUnblocked p) (hours : ∀ files, o ≠ .replaceFiles files) :
    Keeps place o p (o.after p) := by
  cases o with
  | compile paths label =>
    rw [after_compile]
    exact keeps_compileBatches hp hplace rfl ho.unblocked
  | recompile compilations =>
    have htexts : ∀ c ∈ compilations, c.IsOfTexts := hp.isOfTexts ho.onEntries
    rw [after_recompile htexts]
    exact keeps_compileBatches hp hplace rfl ho.unblocked
  | removeTables compilations => exact keeps_removeTables hp hplace ho.onEntries
  | replaceFiles files => exact absurd rfl (hours files)
  | _ => exact ho.onEntries.elim

/-- An exact manifest stays exact, whatever else happens to other files. -/
theorem isExact_after (hp : p.IsExact) (hplace : p.loaded.manifest = .text place)
    (ho : o.IsUnblocked p) : (o.after p).IsExact ∧ (o.after p).loaded = p.loaded := by
  by_cases hours : ∃ files, o = .replaceFiles files
  · obtain ⟨files, rfl⟩ := hours
    -- others leave the files of tables where they are
    have hspares : p.SparesOutputs files := ho.onEntries
    refine ⟨⟨hp.entries, fun c hc output hout => ?_⟩, rfl⟩
    obtain ⟨kind, source, hrecords⟩ := hp.entries c hc
    obtain ⟨content, hread⟩ := hp.files c hc output hout
    obtain ⟨hkept, -⟩ := hspares kind _ hrecords.named output (hrecords.mem_outputs.1 hout)
    exact ⟨content, hkept content hread⟩
  · have hkeeps := keeps_after hp hplace ho fun files hf => hours ⟨files, hf⟩
    exact ⟨hkeeps.exact, hkeeps.loaded⟩

end Operation

/-- A session that starts without entries keeps the manifest exact. -/
lemma Session.isExact_after {p : Project} {place : String} {os : List Operation}
    (hempty : p.manifest.entries = []) (hplace : p.loaded.manifest = .text place)
    (hos : Session.Obeys Operation.IsUnblocked os p) :
    (Session.after os p).IsExact ∧ (Session.after os p).loaded = p.loaded := by
  have hstart := Project.isExact_of_empty hempty
  refine Session.obeys_induct (I := fun q => q.IsExact ∧ q.loaded = p.loaded)
    (fun o q hq ho => ?_) ⟨hstart, rfl⟩ hos
  have hplace' : q.loaded.manifest = .text place := by rw [hq.2, hplace]
  obtain ⟨hexact, hloaded⟩ := Operation.isExact_after hq.1 hplace' ho
  exact ⟨hexact, hloaded.trans hq.2⟩

/-- The outputs that a manifest at a place records are exact: they are files, entries share neither
outputs nor the places of files, and whatever is done next, files change at the manifest's place and
at those of tables that are added or removed. Entries that are not removed keep their files as they
are. -/
structure Project.HasExactOutputs (place : String) (p : Project) : Prop where
  files : ∀ c ∈ p.manifest.entries, ∀ output ∈ c.outputs,
    ∃ path, output = .text path ∧ p.files.IsFile path
  disjoint : ∀ c ∈ p.manifest.entries, ∀ d ∈ p.manifest.entries, c ≠ d →
    (∀ output ∈ c.outputs, output ∉ d.outputs) ∧ Disjoint c.locations d.locations
  entries : ∀ o : Operation, o.IsUnblocked p → (∀ files, o ≠ .replaceFiles files) →
    ∀ c ∈ (o.after p).manifest.entries, c ∈ o.added p ∨ c ∈ p.manifest.entries ∧ c ∉ o.removed
  changes : ∀ o : Operation, o.IsUnblocked p → (∀ files, o ≠ .replaceFiles files) →
    ∀ l, (o.after p).files.content? l ≠ p.files.content? l →
      l = location place ∨ ∃ c : Compilation, (c ∈ o.added p ∨ c ∈ o.removed) ∧ l ∈ c.locations
  removal : ∀ compilations, (∀ c ∈ compilations, c ∈ p.manifest.entries) →
    ∀ d ∈ p.manifest.entries, d ∉ compilations →
      d ∈ ((Operation.removeTables compilations).after p).manifest.entries ∧
      ∀ path content, .text path ∈ d.outputs → p.files.read path = .ok content →
        ((Operation.removeTables compilations).after p).files.read path = .ok content

namespace Project.IsExact

variable {p : Project} {place : String}

lemma disjoint (h : p.IsExact) {c d : Compilation} (hc : c ∈ p.manifest.entries)
    (hd : d ∈ p.manifest.entries) (hne : c ≠ d) : Disjoint c.locations d.locations := by
  obtain ⟨kind, source, hrecords⟩ := h.entries c hc
  obtain ⟨other, workbook, hother⟩ := h.entries d hd
  exact hrecords.disjoint hother (Manifest.rank_ne hc hd hne)

/-- Every output of an entry is a path to a file. -/
lemma exists_isFile (h : p.IsExact) {c : Compilation} (hc : c ∈ p.manifest.entries) {output : Json}
    (ho : output ∈ c.outputs) : ∃ path, output = .text path ∧ p.files.IsFile path := by
  obtain ⟨kind, source, hrecords⟩ := h.entries c hc
  rw [hrecords.outputs] at ho
  obtain ⟨path, hpath, rfl⟩ := List.mem_map.1 ho
  exact ⟨path, rfl, h.files c hc path (hrecords.mem_outputs.2 hpath)⟩

/-- Entries that are not removed keep their files, which the manifest does not lie among. -/
lemma read_of_removeTables (h : p.IsExact) (hplace : p.loaded.manifest = .text place)
    (hapart : p.loaded.IsApart place) {compilations : List Compilation}
    (hall : ∀ c ∈ compilations, c ∈ p.manifest.entries) {d : Compilation}
    (hd : d ∈ p.manifest.entries) (hnot : d ∉ compilations) {path : String} {content : Content}
    (ho : .text path ∈ d.outputs) (hread : p.files.read path = .ok content) :
    ((Operation.removeTables compilations).after p).files.read path = .ok content := by
  have hkeeps := Operation.keeps_removeTables h hplace hall
  refine hkeeps.files.read ?_ hread
  rintro (hmanifest | ⟨c, hc | hc, hl⟩)
  · obtain ⟨kind, source, hrecords⟩ := h.entries d hd
    exact hapart kind _ hrecords.named path (hrecords.mem_outputs.1 ho) hmanifest
  · exact List.not_mem_nil hc
  · have hne : d ≠ c := fun he => hnot (he ▸ hc)
    exact Set.disjoint_left.1 (h.disjoint hd (hall c hc) hne) ⟨path, ho, rfl⟩ hl

/-- The outputs of an exact manifest are. -/
lemma hasExactOutputs (h : p.IsExact) (hplace : p.loaded.manifest = .text place)
    (hapart : p.loaded.IsApart place) : p.HasExactOutputs place := by
  refine ⟨fun c hc output ho => h.exists_isFile hc ho, fun c hc d hd hne => ?_,
    fun o ho hours => (Operation.keeps_after h hplace ho hours).entries, fun o ho hours l hl => ?_,
    fun compilations hall d hd hnot => ?_⟩
  · have hdisjoint := h.disjoint hc hd hne
    refine ⟨fun output ho ho' => ?_, hdisjoint⟩
    obtain ⟨path, rfl, -⟩ := h.exists_isFile hc ho
    exact Set.disjoint_left.1 hdisjoint ⟨path, ho, rfl⟩ ⟨path, ho', rfl⟩
  · by_contra hnot
    exact hl ((Operation.keeps_after h hplace ho hours).files.files l hnot)
  · refine ⟨?_, fun path content ho hread =>
      h.read_of_removeTables hplace hapart hall hd hnot ho hread⟩
    obtain ⟨q, hq, hm⟩ := removeTables_of_isExact h hall
    rw [hm.manifest, hq.entries]
    refine ⟨hd, fun c hc => Manifest.rank_ne hd (hall c hc) ?_⟩
    rintro rfl
    exact hnot hc

end Project.IsExact

/-- Recorded outputs are exact after every session that starts without entries, in which no write
of an output is blocked and others leave the files of tables alone. -/
theorem session_outputs {p : Project} {place : String} {os : List Operation}
    (hempty : p.manifest.entries = []) (hplace : p.loaded.manifest = .text place)
    (hapart : p.loaded.IsApart place) (hos : Session.Obeys Operation.IsUnblocked os p) :
    (Session.after os p).HasExactOutputs place := by
  obtain ⟨hexact, hloaded⟩ := Session.isExact_after hempty hplace hos
  rw [← hloaded] at hplace hapart
  exact hexact.hasExactOutputs hplace hapart

/-! ## A table that changes its kind -/

/-- A workbook that compiles as a Convert table and as an Enum table. -/
def elementCells : List (List CellValue) := [[.text "ID"], [.text "string"], [.text "Fire"]]

/-- A project with this workbook alone. -/
def elementProject : Project :=
  .ofFiles (.ofDirectories "Dist" "Resources")
    ⟨[(["Element.xlsx"], .file (.workbook elementCells))]⟩ "Resources"

/-- What is recorded of the table in the workbook. -/
def elementTable (kind : TableKind) : Compilation :=
  .ofTexts kind.name "Element" "Element.xlsx" (outputPlaces elementProject.loaded kind "Element")

/-- The project after the workbook has been compiled as a Convert table. -/
def elementConverted : Project :=
  (Operation.compile ["Element.xlsx"] "Convert").after elementProject

/-- The project after the workbook has then been compiled as an Enum table. -/
def elementRevised : Project :=
  (Operation.compile ["Element.xlsx"] "Enum").after elementConverted

/-- The table is compiled as a Convert table and then as an Enum table, which is removed. -/
def elementSession : List Operation :=
  [.compile ["Element.xlsx"] "Convert", .compile ["Element.xlsx"] "Enum",
    .removeTables [elementTable .enum]]

/-- A workbook with these cells compiles wherever it can be read. -/
lemma compiles_elementCells {kind : TableKind} {path : String} {files : FileTree}
    (hk : kind ≠ .variable)
    (hformat : workbookFormats.contains (Text.lower (splitExtension (base path)).2) = true)
    (hident : Text.isIdentifier (tableNameOf path) = true)
    (hread : files.read path = .ok (.workbook elementCells)) :
    Compiles elementProject.loaded kind path files := by
  have hcells : Sheet.ofCells elementCells = ⟨[["ID"], ["string"], ["Fire"]]⟩ := rfl
  have hsheet : sheetAt path files = .ok ⟨[["ID"], ["string"], ["Fire"]]⟩ := by
    unfold sheetAt
    dsimp only
    rw [hread, ← hcells, hformat]
    rfl
  have hcompiled : ∃ c, compiledIn elementProject.loaded kind (tableNameOf path)
      ⟨[["ID"], ["string"], ["Fire"]]⟩ files = .ok c := by
    cases kind with
    | convert =>
      have hcolumns : readColumns ⟨[["ID"], ["string"], ["Fire"]]⟩
          (.ofFiles elementProject.loaded files (some (tableNameOf path))) = .ok [] := rfl
      have hrows : readRows ⟨[["ID"], ["string"], ["Fire"]]⟩ []
          (.ofFiles elementProject.loaded files (some (tableNameOf path))) =
            .ok [⟨"Fire", [("ID", .text "Fire")]⟩] := rfl
      exact ⟨_, compiledIn_convert rfl rfl hident hcolumns hrows⟩
    | enum => exact ⟨_, compiledIn_enum rfl rfl hident rfl⟩
    | «variable» => exact absurd rfl hk
  obtain ⟨c, hc⟩ := hcompiled
  exact ⟨_, c, hsheet, hc⟩

/-- Compiling the workbook where it can be read adds the table, if the files of the table can be
written. -/
lemma adds_element {p : Project} {kind : TableKind} {label : String} (hk : kind ≠ .variable)
    (hkind : TableKind.ofLabel? label = some kind) (hloaded : p.loaded = elementProject.loaded)
    (hread : p.files.read "Element.xlsx" = .ok (.workbook elementCells))
    (hadmits : p.files.AdmitsTable elementProject.loaded kind "Element") :
    (Operation.compile ["Element.xlsx"] label).IsUnblocked p ∧
      Adds "Dist/ParseResult.json" kind "Element.xlsx" (elementTable kind) p
        ((Operation.compile ["Element.xlsx"] label).after p) := by
  have htable : isTableFile "Element.xlsx" = true := by decide
  have hname : tableNameOf "Element.xlsx" = "Element" := by decide
  have hcompiles := compiles_elementCells hk (by decide) (by decide) hread
  have hplace : p.loaded.manifest = .text "Dist/ParseResult.json" := by
    rw [hloaded]
    rfl
  rw [← hloaded] at hcompiles hadmits
  obtain ⟨hfree, c, hadds⟩ :=
    Action.adds_of_compiles hplace hkind hcompiles (hname.symm ▸ hadmits)
  have hc : c = elementTable kind := by
    rw [hadds.records.eq, hname, hloaded]
    rfl
  refine ⟨⟨trivial, fun x hx => ?_⟩, ?_⟩
  · rw [Operation.attempts_compile_single htable] at hx
    rw [List.mem_singleton.1 hx]
    exact hfree
  · rw [← hc]
    exact hadds.of_matches (Operation.matches_compile_single htable label p)

/-- The table is added as one of each kind. -/
lemma adds_elementSession :
    ((Operation.compile ["Element.xlsx"] "Convert").IsUnblocked elementProject ∧
        Adds "Dist/ParseResult.json" .convert "Element.xlsx" (elementTable .convert) elementProject
          elementConverted) ∧
      (Operation.compile ["Element.xlsx"] "Enum").IsUnblocked elementConverted ∧
        Adds "Dist/ParseResult.json" .enum "Element.xlsx" (elementTable .enum) elementConverted
          elementRevised := by
  have htable : isTableFile "Element.xlsx" = true := by decide
  have hlabel : TableKind.ofLabel? "Convert" = some .convert := by decide
  have hlabel' : TableKind.ofLabel? "Enum" = some .enum := by decide
  have hconvert : outputPlaces elementProject.loaded .convert (tableNameOf "Element.xlsx") =
      ["Dist/Convert/Element.py", "Resources/Element.json"] := by decide
  have henum : outputPlaces elementProject.loaded .enum "Element" = ["Dist/Enum/Element.py"] := by
    decide
  have hread : elementProject.files.read "Element.xlsx" = .ok (.workbook elementCells) := rfl
  have hadmits : elementProject.files.AdmitsTable elementProject.loaded .convert "Element" := by
    refine ⟨rfl, fun _ => rfl, by decide +kernel, ?_⟩
    decide +kernel
  obtain ⟨hfirst, hadds⟩ := adds_element (by decide) hlabel rfl hread hadmits
  refine ⟨⟨hfirst, hadds⟩, ?_⟩
  -- neither the files of the Convert table nor the manifest are in the way of the Enum table
  have hspares : Spares "Dist/Enum/Element.py" elementProject.files elementConverted.files := by
    have hfiles := (Operation.matches_compile_single htable "Convert" elementProject).files
    rw [elementConverted, ← hfiles, Action.after_attemptAt]
    refine Action.spares_compileNext (fun kind hk => ?_) fun manifest hm => ?_
    · rw [hlabel] at hk
      cases hk
      rw [hconvert]
      decide
    · cases hm
      decide
  have hadmits' : elementConverted.files.AdmitsTable
      elementProject.loaded .enum "Element" := by
    refine ⟨rfl, nofun, ?_, ?_⟩ <;> rw [henum]
    · rw [List.forall_mem_singleton]
      exact hspares.admits (by decide +kernel)
    · intro output ho other ho' hne
      exact absurd ((List.mem_singleton.1 ho).trans (List.mem_singleton.1 ho').symm) hne
  have hread' : elementConverted.files.read "Element.xlsx" =
      .ok (.workbook elementCells) := by
    have hapart : ∀ output ∈ ["Dist/Convert/Element.py", "Resources/Element.json"],
        location output ≠ location "Element.xlsx" := by decide
    refine hadds.changes.read ?_ hread
    rintro (hmanifest | ⟨output, ho, hl⟩)
    · exact absurd hmanifest (by decide)
    · rw [hadds.records.mem_outputs, hconvert] at ho
      exact hapart output ho hl
  exact adds_element (by decide) hlabel' hadds.loaded hread' hadmits'

/-- The entry is replaced as the kind changes. -/
lemma entries_elementRevised : elementRevised.manifest.entries = [elementTable .enum] := by
  obtain ⟨⟨-, hfirst⟩, -, hsecond⟩ := adds_elementSession
  rw [hsecond.manifest, hfirst.manifest]
  rfl

lemma obeys_elementSession :
    Session.Obeys Operation.IsUnblocked elementSession elementProject := by
  obtain ⟨⟨hfirst, -⟩, hsecond, -⟩ := adds_elementSession
  have hremoval : (Operation.removeTables [elementTable .enum]).IsUnblocked elementRevised := by
    refine ⟨fun c hc => ?_, fun _ hx => (List.not_mem_nil hx).elim⟩
    rw [entries_elementRevised]
    exact hc
  exact Session.obeys_cons.2 ⟨hfirst, Session.obeys_cons.2 ⟨hsecond,
    Session.obeys_cons.2 ⟨hremoval, trivial⟩⟩⟩

lemma after_elementSession : Session.after elementSession elementProject =
    (Operation.removeTables [elementTable .enum]).after elementRevised := by
  rw [elementSession, Session.after_cons, Session.after_cons, Session.after_cons,
    Session.after_nil]
  rfl

lemma after_take_elementSession :
    Session.after (elementSession.take 2) elementProject = elementRevised := by
  rw [elementSession, List.take_succ_cons, List.take_succ_cons, List.take_zero,
    Session.after_cons, Session.after_cons, Session.after_nil]
  rfl

/-- A table changes its kind and is removed; its outputs are exact before and after that. -/
theorem elementSession_outputs :
    Session.Obeys Operation.IsUnblocked elementSession elementProject ∧
      (Session.after elementSession elementProject).HasExactOutputs "Dist/ParseResult.json" ∧
      (Session.after (elementSession.take 2) elementProject).manifest.entries =
        [elementTable .enum] ∧
      (Session.after (elementSession.take 2) elementProject).HasExactOutputs
        "Dist/ParseResult.json" := by
  have hobeys := obeys_elementSession
  obtain ⟨⟨hfirst, -⟩, hsecond, -⟩ := adds_elementSession
  have hobeys' : Session.Obeys Operation.IsUnblocked (elementSession.take 2) elementProject :=
    Session.obeys_cons.2 ⟨hfirst, Session.obeys_cons.2 ⟨hsecond, trivial⟩⟩
  refine ⟨hobeys, session_outputs rfl rfl isApart_manifest hobeys, ?_,
    session_outputs rfl rfl isApart_manifest hobeys'⟩
  rw [after_take_elementSession]
  exact entries_elementRevised

end SheetCompiler
