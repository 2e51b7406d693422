import SheetCompiler.Proofs.Compile.Members
import SheetCompiler.Proofs.Session.Passes

/-!
# Compiling everything again

Compiling all entries of a manifest again is a pass over their tables, kind by kind. Tables of the
kind that comes first in the manifest are visited first, so a Convert table may be checked against
the old script of an Enum table whose workbook has changed too. One more pass sees the new scripts
of all Enum tables, and there are no others that a verdict depends on.

Main statements:

* `pass_recompile`: compiling all entries again is a pass;
* `Operation.isPrepared_after`: what an operation on workbooks leaves can be compiled again;
* `session_isSettled`: two passes bring everything up to date, and one does if no Enum table comes
  after a Convert table;
* `armorSession_unsettled`: one pass does not suffice otherwise.
-/

namespace SheetCompiler

open SheetCompiler.Stateful SheetCompiler.Path

/-! ## Compiling entries again is a pass -/

/-- The visits of a batch. -/
def Batch.visits (b : Batch) : List Visit :=
  match TableKind.ofLabel? b.label with
  | some kind => (b.paths.filter isTableFile).map (Visit.mk kind)
  | none => []

/-- The visits in which recorded tables are compiled again. -/
def visitsOf (entries : List Compilation) : List Visit :=
  (Action.batchesOf entries).flatMap Batch.visits

section

variable {s : Settings} {m : Manifest} {place : String} {p : Project}

/-- What an action makes of a project in a pass over visits: it ends in a failure just if the pass
does. -/
def Action.Passes {α : Type} (s : Settings) (m : Manifest) (place : String) (visits : List Visit)
    (a : Action α) (p : Project) : Prop :=
  ∃ r q, a.apply p = (r, q) ∧ q.IsUnder s m ∧
    Pass s m place visits p.files q.files (!r.isOk)

/-- A visit that does not end the pass is followed by the others. -/
lemma Action.Passes.compileEach_cons {label path : String} {paths : List Json}
    {visits : List Visit} {v : Visit} {q : Project} {x : Option Compilation}
    (htable : isTableFile path = true)
    (hnext : (Action.compileNext s label path).apply p = (.ok x, q))
    (hrest : Action.Passes s m place visits (Action.compileEach s label paths) q)
    (hv : ∀ u stopped, Pass s m place visits q.files u stopped →
      Pass s m place (v :: visits) p.files u stopped) :
    Action.Passes s m place (v :: visits) (Action.compileEach s label (.text path :: paths)) p := by
  obtain ⟨r, q', hrun, hq', hpass⟩ := hrest
  have heach := Action.compileEach_cons htable s label paths p
  rw [hnext] at heach
  dsimp only at heach
  rw [hrun] at heach
  cases r with
  | ok out => exact ⟨_, _, heach, hq', hv _ _ hpass⟩
  | error f => exact ⟨_, _, heach, hq', hv _ _ hpass⟩

/-- Workbooks are compiled again in a pass. -/
lemma passes_compileEach {kind : TableKind} {paths : List String} (hp : p.IsUnder s m)
    (hplace : s.manifest = .text place) (hwritable : m.isWritable = true)
    (ht : Pass.Comes s m place ((paths.filter isTableFile).map (Visit.mk kind)) p.files) :
    Action.Passes s m place ((paths.filter isTableFile).map (Visit.mk kind))
      (Action.compileEach s kind.name (paths.map .text)) p := by
  induction paths generalizing p with
  | nil => exact ⟨_, p, rfl, hp, .done p.files⟩
  | cons path paths ih =>
    cases htable : isTableFile path with
    | false =>
      rw [List.filter_cons_of_neg (by rw [htable]; decide)] at ht ⊢
      obtain ⟨r, q, hrun, hq, hpass⟩ := ih hp ht
      rw [← Action.compileEach_cons_of_not htable] at hrun
      exact ⟨r, q, hrun, hq, hpass⟩
    | true =>
      rw [List.filter_cons_of_pos htable, List.map_cons] at ht ⊢
      rw [List.map_cons]
      obtain ⟨r, q, hnext, hq, hcases⟩ := compileNext_of_verdict hp hplace hwritable ht.ready
        (ht.recorded _ List.mem_cons_self)
      rcases hcases with ⟨c, x, hv, rfl, hwrites⟩ | ⟨hv, ⟨x, rfl⟩, hfiles⟩ |
        ⟨hv, ⟨f, rfl⟩, hfiles⟩
      · have hcomes := Pass.preserves_comes.accepted _ _ _ _ _ ht hv hwrites
        exact .compileEach_cons htable hnext (ih hq hcomes) fun u stopped hpass =>
          .accepted hv hwrites hpass
      · have hcomes := Pass.preserves_comes.refused _ _ _ ht hv
        exact .compileEach_cons htable hnext (ih hq (hfiles ▸ hcomes)) fun u stopped hpass =>
          .refused hv (hfiles ▸ hpass)
      · have heach := Action.compileEach_cons htable s kind.name (paths.map .text) p
        rw [hnext] at heach
        refine ⟨_, _, heach, hq, ?_⟩
        rw [hfiles]
        exact .ended hv

/-- The visits of a batch of one kind are to the workbooks among its paths. -/
lemma Batch.visits_eq {b : Batch} {kind : TableKind} (h : b.label = kind.name) :
    b.visits = (b.paths.filter isTableFile).map (Visit.mk kind) := by
  rw [Batch.visits, h, TableKind.ofLabel?_name]

/-- A batch is compiled again in a pass. -/
lemma passes_compileTables {b : Batch} {kind : TableKind} (hlabel : b.label = kind.name)
    (hp : p.IsUnder s m) (hplace : s.manifest = .text place) (hwritable : m.isWritable = true)
    (ht : Pass.Comes s m place b.visits p.files) :
    Action.Passes s m place b.visits (Action.compileTables b.paths b.label) p := by
  rw [Batch.visits_eq hlabel] at ht ⊢
  obtain ⟨r, q, hrun, hq, hpass⟩ := passes_compileEach hp hplace hwritable ht
  have htables := Action.apply_compileTables b.paths b.label p
  rw [hp.loaded, hlabel, hrun] at htables
  rw [hlabel]
  cases r with
  | ok out => exact ⟨_, _, htables, ⟨hq.loaded, hq.manifest⟩, hpass⟩
  | error f => exact ⟨_, _, htables, ⟨hq.loaded, hq.manifest⟩, hpass⟩

/-- Batches are compiled again in one pass. -/
lemma passes_compileBatches {batches : List Batch}
    (hlabels : ∀ b ∈ batches, ∃ kind : TableKind, b.label = kind.name)
    (hp : p.IsUnder s m) (hplace : s.manifest = .text place) (hwritable : m.isWritable = true)
    (ht : Pass.Comes s m place (batches.flatMap Batch.visits) p.files) :
    Action.Passes s m place (batches.flatMap Batch.visits) (Action.compileBatches batches) p := by
  induction batches generalizing p with
  | nil => exact ⟨_, p, rfl, hp, .done p.files⟩
  | cons b batches ih =>
    rw [List.forall_mem_cons] at hlabels
    obtain ⟨⟨kind, hlabel⟩, hlabels⟩ := hlabels
    rw [List.flatMap_cons] at ht ⊢
    have hfirst : Pass.Comes s m place b.visits p.files :=
      ⟨fun v hv => ht.recorded v (List.mem_append_left _ hv), ht.ready⟩
    obtain ⟨r, q, hrun, hq, hpass⟩ := passes_compileTables hlabel hp hplace hwritable hfirst
    cases r with
    | error f =>
      exact ⟨_, q, apply_bind_of_error hrun _, hq, hpass.append_of_ended _⟩
    | ok out =>
      have hrest : Pass.Comes s m place (batches.flatMap Batch.visits) q.files :=
        ⟨fun v hv => ht.recorded v (List.mem_append_right _ hv), (hpass.visited hfirst).2⟩
      obtain ⟨r', q', hrun', hq', hpass'⟩ := ih hlabels hq hrest
      have hboth : (Action.compileBatches (b :: batches)).apply p =
          (Action.compileBatches batches >>= fun more => pure (out ++ more)).apply q :=
        apply_bind_of_ok hrun _
      cases r' with
      | ok more => exact ⟨_, q', hboth.trans (apply_bind_of_ok hrun' _), hq', hpass.append hpass'⟩
      | error f =>
        exact ⟨_, q', hboth.trans (apply_bind_of_error hrun' _), hq', hpass.append hpass'⟩

end

namespace Action

/-- The kinds of compilations are theirs. -/
lemma mem_of_mem_kindsOf {compilations : List Compilation} {kind : Json}
    (h : kind ∈ kindsOf compilations) : ∃ c ∈ compilations, c.kind = kind := by
  have hfold {kinds found : List Json} (hk : kind ∈ kinds.foldl addKind found) :
      kind ∈ found ∨ kind ∈ kinds := by
    induction kinds generalizing found with
    | nil => exact .inl hk
    | cons other kinds ih =>
      rcases ih hk with hfound | hkinds
      · unfold addKind at hfound
        split at hfound
        · exact .inl hfound
        · rcases List.mem_append.1 hfound with hfound | hone
          · exact .inl hfound
          · exact .inr (List.mem_singleton.1 hone ▸ List.mem_cons_self)
      · exact .inr (List.mem_cons_of_mem _ hkinds)
  rcases hfold h with hnone | hkinds
  · exact absurd hnone List.not_mem_nil
  · exact List.mem_map.1 hkinds

/-- The labels of batches in which recorded tables are compiled again are names of kinds. -/
lemma exists_label_of_mem_batchesOf {s : Settings} {compilations : List Compilation}
    (hall : ∀ c ∈ compilations, c.IsExact s) {b : Batch} (hb : b ∈ batchesOf compilations) :
    ∃ kind : TableKind, b.label = kind.name := by
  obtain ⟨_, hmem, rfl⟩ := List.mem_map.1 hb
  obtain ⟨c, hc, rfl⟩ := mem_of_mem_kindsOf hmem
  obtain ⟨kind, source, hrecords⟩ := hall c hc
  refine ⟨kind, ?_⟩
  show c.kind.display = kind.name
  rw [hrecords.kind_eq]
  rfl

end Action

/-- Recorded tables are visited. -/
lemma isRecorded_of_mem_visitsOf {s : Settings} {m : Manifest}
    (hall : ∀ c ∈ m.entries, c.IsExact s) {v : Visit} (hv : v ∈ visitsOf m.entries) :
    v.IsRecorded s m := by
  obtain ⟨b, hb, hv⟩ := List.mem_flatMap.1 hv
  obtain ⟨kind, hlabel⟩ := Action.exists_label_of_mem_batchesOf hall hb
  rw [Batch.visits_eq hlabel] at hv
  obtain ⟨path, hpath, rfl⟩ := List.mem_map.1 hv
  obtain ⟨hpath, htable⟩ := List.mem_filter.1 hpath
  obtain ⟨c, hc, hkind, hsource⟩ := Action.exists_of_mem_batchesOf hall hb hpath
  obtain ⟨other, source, hrecords⟩ := hall c hc
  refine ⟨htable, c, hc, ?_⟩
  rw [hrecords.kind_eq, hlabel, Json.text.injEq] at hkind
  obtain rfl := TableKind.name_inj hkind
  rw [hrecords.eq] at hsource
  obtain rfl : source = path := Json.text.inj hsource
  exact hrecords

/-- Compiling all entries of a manifest again is a pass. -/
theorem pass_recompile {p : Project} {place : String} (hp : p.IsExact)
    (hplace : p.loaded.manifest = .text place)
    (hready : p.files.IsReady p.loaded p.manifest place) :
    ((Operation.recompile p.manifest.entries).after p).IsUnder p.loaded p.manifest ∧
      ∃ stopped, Pass p.loaded p.manifest place (visitsOf p.manifest.entries) p.files
        ((Operation.recompile p.manifest.entries).after p).files stopped := by
  have htexts : ∀ c ∈ p.manifest.entries, c.IsOfTexts := hp.isOfTexts fun _ hc => hc
  have hwritable : p.manifest.isWritable = true :=
    Manifest.isWritable_of_isListable fun c hc => (htexts c hc).isListable
  have hcomes : Pass.Comes p.loaded p.manifest place (visitsOf p.manifest.entries) p.files :=
    ⟨fun _ hv => isRecorded_of_mem_visitsOf hp.entries hv, hready⟩
  obtain ⟨r, q, hrun, hq, hpass⟩ := passes_compileBatches
    (fun b hb => Action.exists_label_of_mem_batchesOf hp.entries hb) ⟨rfl, rfl⟩ hplace hwritable
    hcomes
  rw [Operation.after_recompile htexts]
  have hafter : ((Action.compileBatches
      (Operation.recompile p.manifest.entries).batches).apply p).2 = q := by
    rw [Operation.batches, hrun]
  rw [hafter]
  exact ⟨hq, _, hpass⟩

/-! ## Projects whose entries can be compiled again -/

/-- A project with an exact manifest at a place. If it has entries, visits to them come to its
files. -/
structure Project.IsPrepared (place : String) (p : Project) : Prop where
  recorded : p.loaded.manifest = .text place
  exact : p.IsExact
  ready : p.manifest.entries ≠ [] → p.files.IsReady p.loaded p.manifest place

namespace Project.IsPrepared

variable {p q : Project} {place : String}

lemma of_matches (h : p.IsPrepared place) (hm : p.Matches q) : q.IsPrepared place :=
  ⟨hm.loaded ▸ h.recorded, h.exact.of_matches hm,
    hm.loaded ▸ hm.manifest ▸ hm.files ▸ h.ready⟩

/-- The outputs of an exact manifest are files. -/
lemma isFile_of_isExact (h : p.IsExact) {v : Visit} (hv : v.IsRecorded p.loaded p.manifest)
    {output : String} (ho : output ∈ outputPlaces p.loaded v.kind v.table) :
    p.files.IsFile output := by
  obtain ⟨-, a, ha, hrecords⟩ := hv
  exact h.files a ha output (hrecords.mem_outputs.2 ho)

/-- An exact manifest that is in its file can be compiled again. -/
lemma of_read (hplace : p.loaded.manifest = .text place) (h : p.IsExact)
    (hread : p.files.read place = .ok (.text p.manifest.print)) : p.IsPrepared place := by
  refine ⟨hplace, h, fun _ => ⟨fun v hv output ho => isFile_of_isExact h hv ho,
    FileTree.admits_of_isFile ⟨_, hread⟩, fun l hl => ?_, fun _ => hread⟩⟩
  exact (FileTree.locate_eq_ok_iff.1 (FileTree.read_eq_ok_iff.1 hread).1).2.1 l hl

end Project.IsPrepared

/-- What is done before everything is compiled again: workbooks are compiled, and others change
workbooks in between. No write is blocked. -/
structure Operation.IsOnWorkbooks (place : String) (o : Operation) (p : Project) : Prop where
  form : (∃ paths label, o = .compile paths label) ∨
    ∃ files, o = .replaceFiles files ∧ p.files.ChangesAt workbookLocations files
  unblocked : ∀ x ∈ o.attempts p, ¬ x.2.IsBlocked x.1
  admits : (o.after p).files.Admits place

section

variable {p q : Project} {place : String}

/-- A workbook that compiles is compiled, if its files and that of the manifest can be written. -/
lemma isOnWorkbooks_compile {label path : String} {kind : TableKind} {sheet : Sheet} {c : Compiled}
    (hm : p.Matches q) (htable : isTableFile path = true)
    (hc : CompilesTo p.loaded label path p.files kind sheet c)
    (hw : ((writing p.loaded kind (tableNameOf path) c).apply p.files).1.isOk = true)
    (hadmits : (p.filed kind path c).files.Admits place) :
    (Operation.compile [path] label).IsOnWorkbooks place q ∧
      (p.filed kind path c).Matches ((Operation.compile [path] label).after q) := by
  have hafter : (p.filed kind path c).Matches ((Operation.compile [path] label).after q) :=
    (Operation.matches_compile_of_compilesTo htable hc hw).trans
      (Session.answers_of_matches hm [.compile [path] label]).2
  refine ⟨⟨.inl ⟨_, _, rfl⟩, fun x hx => ?_, hafter.files ▸ hadmits⟩, hafter⟩
  rw [Operation.attempts_compile_single htable] at hx
  rw [List.mem_singleton.1 hx]
  rintro ⟨-, hnone⟩
  rw [Attempt.result?, Action.outcome_attemptAt, ← hm.loaded, ← hm.files,
    hc.apply_compiling] at hnone
  rcases hrun : (writing p.loaded kind (tableNameOf path) c).apply p.files with ⟨f | outputs, u⟩
  · rw [hrun] at hw
    cases hw
  · rw [apply_bind_of_ok hrun] at hnone
    cases hnone

lemma isOnWorkbooks_replaceFiles {files : FileTree}
    (h : p.files.ChangesAt workbookLocations files) (hadmits : files.Admits place) :
    (Operation.replaceFiles files).IsOnWorkbooks place p :=
  ⟨.inr ⟨files, rfl, h⟩, fun _ hx => absurd hx List.not_mem_nil, hadmits⟩

/-- An attempt takes nothing away. -/
lemma extends_compileNext (s : Settings) (label path : String) (p : Project) :
    p.files.Extends ((Action.compileNext s label path).apply p).2.files := by
  have hcompiling := extends_compiling s label path p.files
  rcases hc : (compiling s label path).apply p.files with ⟨f | c, files⟩
  · obtain ⟨_, _, hnext⟩ := Action.compileNext_of_error hc
    rw [hc] at hcompiling
    rw [hnext]
    exact hcompiling
  · obtain ⟨_, _, hnext⟩ := Action.compileNext_of_ok hc
    rw [hc] at hcompiling
    rw [hnext]
    exact hcompiling.trans _ _ _ (extends_recording _ _ files)

lemma Action.Attempted.extends_files {xs : List (String × Attempt)} (h : Attempted xs p q) :
    p.files.Extends q.files :=
  h.induct (I := fun r => p.files.Extends r.files) (C := fun _ _ => True)
    (fun _ _ hm hr => hm.files ▸ hr)
    (fun label path r hr _ => hr.trans _ _ _ (extends_compileNext r.loaded label path r))
    (.refl _) fun _ _ => trivial

/-- What an attempt has added stands in the file of the manifest, if that can be written. -/
lemma read_of_compileNext {s : Settings} {label path : String} {c : Compilation}
    (hplace : p.loaded.manifest = .text place)
    (hresult : (Action.attemptAt s label path p).result? = some c)
    (hwritable : ((Action.compileNext s label path).apply p).2.manifest.isWritable = true)
    (hadmits : ((Action.compileNext s label path).apply p).2.files.Admits place) :
    ((Action.compileNext s label path).apply p).2.files.read place =
      .ok (.text ((Action.compileNext s label path).apply p).2.manifest.print) := by
  rw [Attempt.result?, Action.outcome_attemptAt] at hresult
  rcases hc : (compiling s label path).apply p.files with ⟨f | a, files⟩
  · rw [hc] at hresult
    cases hresult
  · obtain ⟨_, _, hnext⟩ := Action.compileNext_of_ok hc
    rw [hnext] at hwritable hadmits ⊢
    dsimp only at hwritable hadmits ⊢
    rcases recording_cases hplace hwritable files with ⟨u, hrecording, -⟩ | ⟨f, u, hrecording, hnot⟩
    · obtain ⟨other, hother, hread, -⟩ := exists_place_of_recording hrecording
      rw [hplace, Json.text.injEq] at hother
      subst hother
      rw [hrecording]
      exact hread
    · rw [hrecording] at hadmits
      exact absurd hadmits hnot

/-- An attempt that is not blocked leaves a project whose entries can be compiled again. -/
lemma isPrepared_compileNext {label path : String} (h : p.IsPrepared place)
    (hfree : ¬ (Action.attemptAt p.loaded label path p).IsBlocked label)
    (hadmits : (Action.attemptAt p.loaded label path p).after.files.Admits place) :
    ((Action.compileNext p.loaded label path).apply p).2.IsPrepared place := by
  rcases Action.attempt_cases h.recorded hfree with ⟨-, hm⟩ | ⟨kind, c, -, hresult, hadds⟩
  · exact h.of_matches hm
  · have hexact := Action.isExact_of_adds h.exact hadds
    have hwritable := Manifest.isWritable_of_isListable fun d hd =>
      (hexact.isOfTexts (fun _ hc => hc) d hd).isListable
    have hplace : ((Action.compileNext p.loaded label path).apply p).2.loaded.manifest =
        .text place := by rw [hadds.loaded, h.recorded]
    exact .of_read hplace hexact (read_of_compileNext h.recorded hresult hwritable hadmits)

/-- The entries can be compiled again after each operation on workbooks. -/
theorem Operation.isPrepared_after {o : Operation} (h : p.IsPrepared place)
    (ho : o.IsOnWorkbooks place p) :
    (o.after p).IsPrepared place ∧ (o.after p).loaded = p.loaded := by
  rcases ho.form with ⟨paths, label, rfl⟩ | ⟨files, rfl, hchanges⟩
  · have hran := Operation.attempted_compile paths label p
    have hadmits : ∀ x ∈ (Operation.compile paths label).attempts p,
        x.2.after.files.Admits place := by
      intro x hx
      obtain ⟨before, after, -, -, -, hafter⟩ := hran.split hx
      exact ho.admits.of_extends hafter.extends_files
    refine hran.induct (I := fun q => q.IsPrepared place ∧ q.loaded = p.loaded)
      (C := fun label a => ¬ a.IsBlocked label ∧ a.after.files.Admits place)
      (fun q r hm hq => ⟨hq.1.of_matches hm, hm.loaded ▸ hq.2⟩) (fun label path q hq hC => ?_)
      ⟨h, rfl⟩ fun x hx => ⟨ho.unblocked x hx, hadmits x hx⟩
    exact ⟨isPrepared_compileNext hq.1 hC.1 hC.2,
      (Action.matches_of_compileNext q.loaded label path q).1.trans hq.2⟩
  · have hkept {output : String} {kind : TableKind} {table : String}
        (hident : Text.isIdentifier table = true)
        (hout : output ∈ outputPlaces p.loaded kind table) (hfile : p.files.IsFile output) :
        files.IsFile output := by
      obtain ⟨content, hread⟩ := hfile
      exact ⟨content, hchanges.read (location_notMem_workbookLocations hident hout) hread⟩
    refine ⟨⟨h.recorded, ⟨h.exact.entries, fun c hc output hout => ?_⟩, fun hne => ?_⟩, rfl⟩
    · obtain ⟨kind, source, hrecords⟩ := h.exact.entries c hc
      exact hkept hrecords.named (hrecords.mem_outputs.1 hout) (h.exact.files c hc output hout)
    · have hready := h.ready hne
      exact ⟨fun v hv output hout => hkept hv.named hout (hready.outputs v hv output hout),
        ho.admits, fun l hl => hchanges.directories l (hready.directories l hl),
        fun hl => hchanges.read hl (hready.manifest hl)⟩

/-! ## Settled projects -/

/-- A project after all entries of its manifest have been compiled again. -/
def Project.recompiled (p : Project) : Project :=
  (Operation.recompile p.manifest.entries).after p

/-- A project that is settled: compiling all entries again changes neither the manifest nor
anything in the file tree, and every table that is accepted when it is visited is up to date with
its workbook. -/
structure Project.IsSettled (place : String) (p : Project) : Prop where
  manifest : p.recompiled.manifest = p.manifest
  files : ∀ l, p.recompiled.files.node? l = p.files.node? l
  current : AreSettled p.loaded place (fun _ => True) (visitsOf p.manifest.entries) p.files

/-- Without entries nothing is compiled again. -/
lemma Project.recompiled_of_empty (h : p.manifest.entries = []) : p.recompiled = p := by
  rw [Project.recompiled, h]
  rfl

lemma Project.isSettled_of_empty (h : p.manifest.entries = []) : p.IsSettled place := by
  refine ⟨by rw [recompiled_of_empty h], fun l => by rw [recompiled_of_empty h], ?_⟩
  rw [h]
  exact fun v hv => absurd hv List.not_mem_nil

namespace Project.IsPrepared

variable (h : p.IsPrepared place) (hne : p.manifest.entries ≠ [])
include h hne

/-- Compiling all entries again is a pass, and it can be done again. -/
lemma pass_recompiled :
    Pass.Comes p.loaded p.manifest place (visitsOf p.manifest.entries) p.files ∧
      p.recompiled.IsUnder p.loaded p.manifest ∧ p.recompiled.IsPrepared place ∧
      ∃ stopped, Pass p.loaded p.manifest place (visitsOf p.manifest.entries) p.files
        p.recompiled.files stopped := by
  have hcomes : Pass.Comes p.loaded p.manifest place (visitsOf p.manifest.entries) p.files :=
    ⟨fun _ hv => isRecorded_of_mem_visitsOf h.exact.entries hv, h.ready hne⟩
  obtain ⟨hunder, stopped, hpass⟩ := pass_recompile h.exact h.recorded (h.ready hne)
  replace hunder : p.recompiled.IsUnder p.loaded p.manifest := hunder
  replace hpass : Pass p.loaded p.manifest place (visitsOf p.manifest.entries) p.files
    p.recompiled.files stopped := hpass
  obtain ⟨hvisited, hready⟩ := hpass.visited hcomes
  refine ⟨hcomes, hunder, ⟨?_, ⟨?_, ?_⟩, fun _ => ?_⟩, stopped, hpass⟩
  · rw [hunder.loaded, h.recorded]
  · rw [hunder.manifest, hunder.loaded]
    exact h.exact.entries
  · rw [hunder.manifest]
    exact fun c hc output ho => hvisited.extended.isFile (h.exact.files c hc output ho)
  · rw [hunder.loaded, hunder.manifest]
    exact hready

/-- Where nothing is accepted, everything is settled. -/
lemma isSettled_of_acceptsNone
    (hnone : AcceptsNone p.loaded (visitsOf p.manifest.entries) p.files) : p.IsSettled place := by
  obtain ⟨-, hunder, -, stopped, hpass⟩ := h.pass_recompiled hne
  exact ⟨hunder.manifest, fun l => by rw [hpass.eq_of_acceptsNone hnone], hnone.areSettled⟩

/-- Where everything that is accepted is up to date, everything is settled. -/
lemma isSettled_of_areSettled (htemplates : p.loaded.templates = none)
    (hread : p.files.read place = .ok (.text p.manifest.print))
    (hsettled : AreSettled p.loaded place (fun _ => True) (visitsOf p.manifest.entries) p.files) :
    p.IsSettled place := by
  obtain ⟨hcomes, hunder, -, stopped, hpass⟩ := h.pass_recompiled hne
  exact ⟨hunder.manifest, hpass.node?_eq_of_settled hcomes htemplates hread hsettled, hsettled⟩

end Project.IsPrepared

/-- Compiling all entries again brings everything but Convert tables up to date, and doing it twice
settles a project. Once does if no Enum table is compiled again after a Convert table. -/
theorem Project.IsPrepared.isSettled (h : p.IsPrepared place)
    (htemplates : p.loaded.templates = none) :
    p.recompiled.manifest = p.manifest ∧
      AreSettled p.loaded place (· ≠ .convert) (visitsOf p.manifest.entries)
        p.recompiled.files ∧
      p.recompiled.recompiled.IsSettled place ∧
      (EnumsFirst (visitsOf p.manifest.entries) → p.recompiled.IsSettled place) := by
  by_cases hne : p.manifest.entries = []
  · rw [Project.recompiled_of_empty hne, Project.recompiled_of_empty hne, hne]
    exact ⟨rfl, fun v hv => absurd hv List.not_mem_nil, Project.isSettled_of_empty hne,
      fun _ => Project.isSettled_of_empty hne⟩
  obtain ⟨hcomes, hunder, h₁, stopped, hpass⟩ := h.pass_recompiled hne
  have hne₁ : p.recompiled.manifest.entries ≠ [] := by rwa [hunder.manifest]
  obtain ⟨hcomes₁, hunder₁, h₂, stopped₁, hpass₁⟩ := h₁.pass_recompiled hne₁
  have hne₂ : p.recompiled.recompiled.manifest.entries ≠ [] := by
    rwa [hunder₁.manifest, hunder.manifest]
  rw [hunder.loaded, hunder.manifest] at hcomes₁ hunder₁ hpass₁
  refine ⟨hunder.manifest, hpass.settled_others hcomes htemplates, ?_⟩
  rcases hpass.read_or_acceptsNone with hread | ⟨hfiles, hnone⟩
  · have hread₁ : p.recompiled.files.read place = .ok (.text p.recompiled.manifest.print) := by
      rw [hunder.manifest]
      exact hread
    have hread₂ : p.recompiled.recompiled.files.read place =
        .ok (.text p.recompiled.recompiled.manifest.print) := by
      rw [hunder₁.manifest]
      rcases hpass₁.read_or_acceptsNone with hagain | ⟨hsame, -⟩
      · exact hagain
      · rw [hsame]
        exact hread
    constructor
    · refine h₂.isSettled_of_areSettled hne₂ (by rw [hunder₁.loaded, htemplates]) hread₂ ?_
      rw [hunder₁.loaded, hunder₁.manifest]
      exact hpass₁.settled_of_settled hcomes₁ htemplates hread
        (hpass.settled_others hcomes htemplates)
    · intro hfirst
      refine h₁.isSettled_of_areSettled hne₁ (by rw [hunder.loaded, htemplates]) hread₁ ?_
      rw [hunder.loaded, hunder.manifest]
      exact hpass.settled_of_enumsFirst hcomes htemplates hfirst
  · -- nothing was accepted, and nothing is by further visits to the same files
    rw [hfiles] at hpass₁
    have hfiles₁ := hpass₁.eq_of_acceptsNone hnone
    constructor
    · refine h₂.isSettled_of_acceptsNone hne₂ ?_
      rw [hunder₁.loaded, hunder₁.manifest, hfiles₁]
      exact hnone
    · intro _
      refine h₁.isSettled_of_acceptsNone hne₁ ?_
      rw [hunder.loaded, hunder.manifest, hfiles]
      exact hnone

/-- The entries can be compiled again after operations on workbooks. -/
lemma Session.isPrepared_after {os : List Operation} (hempty : p.manifest.entries = [])
    (hplace : p.loaded.manifest = .text place)
    (hos : Session.Obeys (Operation.IsOnWorkbooks place) os p) :
    (Session.after os p).IsPrepared place ∧ (Session.after os p).loaded = p.loaded := by
  have hstart : p.IsPrepared place :=
    ⟨hplace, Project.isExact_of_empty hempty, fun hne => absurd hempty hne⟩
  refine Session.obeys_induct (I := fun q => q.IsPrepared place ∧ q.loaded = p.loaded)
    (fun o q hq ho => ?_) ⟨hstart, rfl⟩ hos
  obtain ⟨hafter, hsame⟩ := Operation.isPrepared_after hq.1 ho
  exact ⟨hafter, hsame.trans hq.2⟩

/-- After workbooks have been compiled and changed, compiling all entries again brings everything
but Convert tables up to date, and doing it twice settles the project. Once does if no Enum table is
compiled again after a Convert table. -/
theorem session_isSettled {os : List Operation} (hempty : p.manifest.entries = [])
    (hplace : p.loaded.manifest = .text place) (htemplates : p.loaded.templates = none)
    (hos : Session.Obeys (Operation.IsOnWorkbooks place) os p) :
    (Session.after os p).recompiled.manifest = (Session.after os p).manifest ∧
      AreSettled p.loaded place (· ≠ .convert) (visitsOf (Session.after os p).manifest.entries)
        (Session.after os p).recompiled.files ∧
      (Session.after os p).recompiled.recompiled.IsSettled place ∧
      (EnumsFirst (visitsOf (Session.after os p).manifest.entries) →
        (Session.after os p).recompiled.IsSettled place) := by
  obtain ⟨hend, hloaded⟩ := Session.isPrepared_after hempty hplace hos
  rw [← hloaded]
  exact hend.isSettled (by rw [hloaded, htemplates])

end

/-! ## A table that needs two passes -/

/-- A project with two workbooks. The table that is compiled as a Convert table comes first. -/
def armorProject : Project :=
  .ofFiles elementProject.loaded
    ⟨[(["Armor.xlsx"], .file (.workbook elementCells)),
      (["Grade.xlsx"], .file (.workbook elementCells))]⟩ "Resources"

/-- What others make of the workbook of the Enum table. -/
def gradeCells : List (List CellValue) := [[.text "Rank"], [.text "Gold"]]

/-- What they make of the workbook of the Convert table, which now refers to the other one. -/
def armorCells : List (List CellValue) :=
  [[.text "ID", .text "Rank"], [.text "string", .text "EmGrade.Rank"],
    [.text "Plate", .text "Gold"]]

/-- What is read of the workbooks before they are changed. -/
def elementRow : Row := ⟨"Fire", [("ID", .text "Fire")]⟩

def elementEnum : EnumDeclaration := ⟨"ID", ["string", "Fire"]⟩

/-- What is read of them afterwards. -/
def rankColumn : Column := ⟨1, "Rank", "EmGrade.Rank", false⟩

def armorRow : Row := ⟨"Plate", [("ID", .text "Plate"), ("Rank", .text "Gold")]⟩

def rankEnum : EnumDeclaration := ⟨"Rank", ["Gold"]⟩

/-- What the Convert table compiles to. -/
def armorCompiled (columns : List Column) (row : Row) : Compiled :=
  ⟨Template.lines (Template.convertScriptTexts "Armor" columns), some [row],
    .convertParsed "Armor" columns.length 1⟩

/-- What the Enum table compiles to. -/
def gradeCompiled (e : EnumDeclaration) : Compiled :=
  ⟨Template.lines (Template.enumScriptTexts "Grade" [e]), none, .enumParsed "Grade" 1⟩

/-- The project after the Convert table. -/
def armorFiled : Project := armorProject.filed .convert "Armor.xlsx" (armorCompiled [] elementRow)

/-- The project after both tables. -/
def gradeFiled : Project := armorFiled.filed .enum "Grade.xlsx" (gradeCompiled elementEnum)

/-- The files with the changed workbooks. -/
def revisedFiles : FileTree :=
  (gradeFiled.files.put (location "Armor.xlsx") (.file (.workbook armorCells))).put
    (location "Grade.xlsx") (.file (.workbook gradeCells))

/-- The project with the changed workbooks. -/
def armorRevised : Project := { gradeFiled with files := revisedFiles }

/-- Both workbooks are compiled, and then changed. -/
def armorSession : List Operation :=
  [.compile ["Armor.xlsx"] "Convert", .compile ["Grade.xlsx"] "Enum", .replaceFiles revisedFiles]

/-- The first workbook can be written, and the second one be read after it. -/
lemma written_armorFiled :
    ((writing armorProject.loaded .convert (tableNameOf "Armor.xlsx")
        (armorCompiled [] elementRow)).apply armorProject.files).1.isOk = true ∧
      armorFiled.files.Admits "Dist/ParseResult.json" ∧
      (sheetAt "Grade.xlsx" armorFiled.files).toOption = some (.ofCells elementCells) := by
  decide +kernel

/-- The second workbook can be written, and both are still there. -/
lemma written_gradeFiled :
    ((writing armorFiled.loaded .enum (tableNameOf "Grade.xlsx")
        (gradeCompiled elementEnum)).apply armorFiled.files).1.isOk = true ∧
      gradeFiled.files.Admits "Dist/ParseResult.json" ∧
      (sheetAt "Armor.xlsx" gradeFiled.files).toOption = some (.ofCells elementCells) ∧
      (sheetAt "Grade.xlsx" gradeFiled.files).toOption = some (.ofCells elementCells) := by
  decide +kernel

/-- With the changed workbooks there still are the files of the old ones. -/
lemma written_revisedFiles :
    revisedFiles.Admits "Dist/ParseResult.json" ∧
      (sheetAt "Armor.xlsx" revisedFiles).toOption = some (.ofCells armorCells) ∧
      (sheetAt "Grade.xlsx" revisedFiles).toOption = some (.ofCells gradeCells) ∧
      (revisedFiles.readText "Dist/Enum/Grade.py").toOption =
        some (Template.lines (Template.enumScriptTexts "Grade" [elementEnum])) ∧
      (revisedFiles.readText "Resources/Armor.json").toOption =
        some (printRecords [elementRow.cells]) := by
  decide +kernel

lemma obeys_armorSession :
    Session.Obeys (Operation.IsOnWorkbooks "Dist/ParseResult.json") armorSession armorProject ∧
      armorFiled.Matches (Session.after (armorSession.take 1) armorProject) ∧
      armorRevised.Matches (Session.after armorSession armorProject) := by
  obtain ⟨harmor, hadmits, hgrade⟩ := written_armorFiled
  obtain ⟨hwritten, hadmits', harmorSheet, hgradeSheet⟩ := written_gradeFiled
  obtain ⟨hrevisedAdmits, -⟩ := written_revisedFiles
  have harmorCompiled : compiledIn armorProject.loaded .convert (tableNameOf "Armor.xlsx")
      (.ofCells elementCells) armorProject.files = .ok (armorCompiled [] elementRow) :=
    compiledIn_convert rfl rfl (by decide) rfl rfl
  have hgradeCompiled : compiledIn armorFiled.loaded .enum (tableNameOf "Grade.xlsx")
      (.ofCells elementCells) armorFiled.files = .ok (gradeCompiled elementEnum) :=
    compiledIn_enum rfl rfl (by decide) rfl
  have hsheet : sheetAt "Armor.xlsx" armorProject.files = .ok (.ofCells elementCells) := rfl
  have hcompiles : CompilesTo armorProject.loaded "Convert" "Armor.xlsx" armorProject.files .convert
      (.ofCells elementCells) (armorCompiled [] elementRow) := ⟨by decide, hsheet, harmorCompiled⟩
  have hcompiles' : CompilesTo armorFiled.loaded "Enum" "Grade.xlsx" armorFiled.files .enum
      (.ofCells elementCells) (gradeCompiled elementEnum) :=
    ⟨by decide, eq_ok_of_toOption hgrade, hgradeCompiled⟩
  obtain ⟨hfirst, hmatches⟩ := isOnWorkbooks_compile (.refl armorProject) (by decide) hcompiles
    harmor hadmits
  obtain ⟨hsecond, hmatches'⟩ := isOnWorkbooks_compile hmatches (by decide) hcompiles' hwritten
    hadmits'
  -- the workbooks are changed, and nothing else is
  have hchanges : gradeFiled.files.ChangesAt workbookLocations revisedFiles := by
    obtain ⟨cells, hfile, -⟩ := read_of_sheetAt (eq_ok_of_toOption harmorSheet)
    obtain ⟨cells', hfile', -⟩ := read_of_sheetAt (eq_ok_of_toOption hgradeSheet)
    have hput := FileTree.changesAt_put ⟨_, hfile⟩ (.workbook armorCells)
    have hother : location "Grade.xlsx" ∉ ({location "Armor.xlsx"} : Set Location) := by decide
    have hput' := FileTree.changesAt_put ⟨_, hput.read hother hfile'⟩ (.workbook gradeCells)
    have harmorPlace : location "Armor.xlsx" ∈ workbookLocations :=
      ⟨"Armor.xlsx", by decide, rfl⟩
    have hgradePlace : location "Grade.xlsx" ∈ workbookLocations :=
      ⟨"Grade.xlsx", by decide, rfl⟩
    unfold revisedFiles
    exact (hput.mono (Set.singleton_subset_iff.2 harmorPlace)).trans _ _ _
      (hput'.mono (Set.singleton_subset_iff.2 hgradePlace))
  have hthird := isOnWorkbooks_replaceFiles (hmatches'.files ▸ hchanges) hrevisedAdmits
  have hafter := (Session.answers_of_matches hmatches' [.replaceFiles revisedFiles]).2
  have hrevised : armorRevised.Matches
      (Session.after [.replaceFiles revisedFiles] gradeFiled) := .refl _
  rw [armorSession, Session.after_cons, Session.after_cons, List.take_succ_cons, List.take_zero,
    Session.after_cons, Session.after_nil]
  exact ⟨⟨hfirst, hsecond, hthird, trivial⟩, hmatches, hrevised.trans hafter⟩

/-- The visit to the Convert table. -/
abbrev armorVisit : Visit := ⟨.convert, "Armor.xlsx"⟩

/-- The visit to the Enum table. -/
abbrev gradeVisit : Visit := ⟨.enum, "Grade.xlsx"⟩

/-- The Convert table is visited first. -/
lemma visitsOf_armorSession :
    visitsOf armorFiled.manifest.entries = [armorVisit] ∧
      visitsOf armorRevised.manifest.entries = [armorVisit, gradeVisit] := ⟨rfl, rfl⟩

/-- Compiling all entries again twice settles the session. After the first workbook there is no Enum
table, and once is enough. -/
theorem armorSession_isSettled :
    Session.Obeys (Operation.IsOnWorkbooks "Dist/ParseResult.json") armorSession armorProject ∧
      (Session.after armorSession armorProject).recompiled.recompiled.IsSettled
        "Dist/ParseResult.json" ∧
      (Session.after (armorSession.take 1) armorProject).recompiled.IsSettled
        "Dist/ParseResult.json" := by
  obtain ⟨hobeys, hfirst, -⟩ := obeys_armorSession
  have hobeys' : Session.Obeys (Operation.IsOnWorkbooks "Dist/ParseResult.json")
      (armorSession.take 1) armorProject := ⟨hobeys.1, trivial⟩
  have henums : EnumsFirst
      (visitsOf (Session.after (armorSession.take 1) armorProject).manifest.entries) := by
    rw [← hfirst.manifest, visitsOf_armorSession.1]
    exact List.pairwise_singleton _ _
  obtain ⟨-, -, htwice, -⟩ := session_isSettled rfl rfl rfl hobeys
  obtain ⟨-, -, -, honce⟩ := session_isSettled rfl rfl rfl hobeys'
  exact ⟨hobeys, htwice, honce henums⟩

section

variable {u : FileTree}

/-- The Convert table is accepted where the type of its column is found. -/
lemma accepted_armorVisit (hsheet : sheetAt "Armor.xlsx" u = .ok (.ofCells armorCells))
    (hmembers : enumMembers? elementProject.loaded u rankColumn.type = some rankEnum.members) :
    armorVisit.verdict elementProject.loaded u =
      .accepted (armorCompiled [rankColumn] armorRow) := by
  have hbelow := Resolver.below_of_knowing hmembers (some "Armor")
  have hcolumns : readColumns (.ofCells armorCells) (.knowing rankColumn.type rankEnum.members) =
      .ok [rankColumn] := rfl
  have hrows : readRowsAt (.ofCells armorCells) [rankColumn]
      (.knowing rankColumn.type rankEnum.members) [2] [] = .ok [armorRow] := rfl
  have hcompiled : compiledIn elementProject.loaded .convert "Armor" (.ofCells armorCells)
      u = .ok (armorCompiled [rankColumn] armorRow) :=
    compiledIn_convert rfl rfl (by decide) (readColumns_of_below hbelow hcolumns)
      (readRowsAt_of_below hbelow hrows)
  exact Visit.accepted_of_compiledIn hsheet (by decide) hcompiled

/-- The fault of its header where that is not found. -/
lemma readColumns_armorCells {r : Resolver} (hmembers : r.members? rankColumn.type = none) :
    readColumns (.ofCells armorCells) r =
      .error (.schema (.columnType rankColumn.type rankColumn.name)) := by
  have hexists : rankColumn.typeExists r = false := by
    have hkind : rankColumn.kind = .enumeration := by decide
    rw [Column.typeExists, hkind]
    show (r.members? rankColumn.type).isSome = false
    rw [hmembers]
    rfl
  have hcolumn : visitColumn (.ofCells armorCells) r 1 rankColumn.name =
      .error (.schema (.columnType rankColumn.type rankColumn.name)) := by
    have hheader : Column.ofHeader 1 ((Sheet.ofCells armorCells).cell 0 1)
        ((Sheet.ofCells armorCells).cell 1 1) = rankColumn := rfl
    rw [visitColumn, hheader, hexists]
    rfl
  -- there is no column but this one
  have hindices : List.range' 1 ((Sheet.ofCells armorCells).rowWidth 0 - 1) = [1] := rfl
  have hname : normalize ((Sheet.ofCells armorCells).cell 0 1) = rankColumn.name := rfl
  have hcheck : checkName columnName [idName] rankColumn.name = .ok () := rfl
  rw [readColumns, scanColumns, if_pos (by decide), scanHeader, hindices, scanCells, hname,
    if_neg (by decide), if_neg (by decide), hcheck]
  dsimp only
  rw [hcolumn]
  rfl

/-- The Convert table is refused there. -/
lemma refused_armorVisit (hsheet : sheetAt "Armor.xlsx" u = .ok (.ofCells armorCells))
    (hmembers : enumMembers? elementProject.loaded u rankColumn.type = none) :
    armorVisit.verdict elementProject.loaded u = .refused := by
  have hmembers' : (Resolver.ofFiles elementProject.loaded u (some "Armor")).members?
      rankColumn.type = none := by rw [members?_ofFiles, hmembers]
  have hcompiled : compiledIn elementProject.loaded .convert "Armor" (.ofCells armorCells) u =
      .error (.table "Armor" (.schema (.columnType rankColumn.type rankColumn.name))) := by
    rw [compiledIn, if_pos (by decide), lookedUpIn_eq_ok rfl]
    simp only [bind, Except.bind, compile, compileConvert, readColumns_armorCells hmembers',
      Except.mapError]
  exact Visit.refused_of_compiledIn hsheet (by decide) hcompiled rfl

/-- The Enum table is always accepted. -/
lemma accepted_gradeVisit (hsheet : sheetAt "Grade.xlsx" u = .ok (.ofCells gradeCells)) :
    gradeVisit.verdict elementProject.loaded u = .accepted (gradeCompiled rankEnum) := by
  have hcompiled : compiledIn elementProject.loaded .enum "Grade" (.ofCells gradeCells) u =
      .ok (gradeCompiled rankEnum) := compiledIn_enum rfl rfl (by decide) rfl
  exact Visit.accepted_of_compiledIn hsheet (by decide) hcompiled

/-- What the Convert table finds in the script of the Enum table. -/
lemma enumMembers?_rankColumn {e : EnumDeclaration} {cells : List (List CellValue)}
    (he : readEnums (.ofCells cells) = .ok [e])
    (hread : u.readText "Dist/Enum/Grade.py" =
      .ok (Template.lines (Template.enumScriptTexts "Grade" [e]))) :
    enumMembers? elementProject.loaded u rankColumn.type = foundMembers? "Grade" [e] "Rank" := by
  have hpath : elementProject.loaded.scriptPath? TableKind.enum.name "Grade" =
      some "Dist/Enum/Grade.py" := by decide
  have htype : rankColumn.type = enumType "Grade" "Rank" := by decide
  have hident : Text.isIdentifier "Grade" = true := by decide
  have hname : Text.isIdentifier "Rank" = true := by decide
  obtain ⟨haccepted, -⟩ := isAccepted_of_readEnums he
  rw [htype]
  exact enumMembers?_enumScript hident haccepted hpath hread hname

end

/-- The visit to the Enum table leaves the workbook and the data file of the Convert table. -/
lemma outside_gradeVisit : ∀ path ∈ ["Armor.xlsx", "Resources/Armor.json"],
    location path ∉ insert (location "Dist/ParseResult.json")
      (gradeVisit.places elementProject.loaded) := by
  have hplaces : outputPlaces elementProject.loaded gradeVisit.kind gradeVisit.table =
      ["Dist/Enum/Grade.py"] := by decide
  have hne : ∀ path ∈ ["Armor.xlsx", "Resources/Armor.json"],
      location path ≠ location "Dist/ParseResult.json" ∧
        location "Dist/Enum/Grade.py" ≠ location path := by decide
  rintro path hpath (hl | ⟨output, ho, hl⟩)
  · exact (hne path hpath).1 hl
  · rw [hplaces, List.mem_singleton] at ho
    exact (hne path hpath).2 (ho ▸ hl)

/-- After workbooks have been compiled and changed, compiling all entries again twice leaves another
data file than compiling them again once. -/
theorem armorSession_unsettled :
    armorProject.manifest.entries = [] ∧
      armorProject.loaded.manifest = .text "Dist/ParseResult.json" ∧
      armorProject.loaded.templates = none ∧
      Session.Obeys (Operation.IsOnWorkbooks "Dist/ParseResult.json") armorSession armorProject ∧
      (Session.after armorSession armorProject).recompiled.recompiled.files.readText
          "Resources/Armor.json" ≠
        (Session.after armorSession armorProject).recompiled.files.readText
          "Resources/Armor.json" := by
  obtain ⟨hobeys, -, hmatches⟩ := obeys_armorSession
  refine ⟨rfl, rfl, rfl, hobeys, ?_⟩
  obtain ⟨hprepared, hloaded⟩ := Session.isPrepared_after rfl rfl hobeys
  generalize Session.after armorSession armorProject = r at hmatches hprepared hloaded ⊢
  replace hloaded : r.loaded = elementProject.loaded := hloaded
  have hfiles : revisedFiles = r.files := hmatches.files
  have hvisits : visitsOf r.manifest.entries = [armorVisit, gradeVisit] := by
    rw [← hmatches.manifest]
    exact visitsOf_armorSession.2
  have hne : r.manifest.entries ≠ [] := by
    rw [← hmatches.manifest]
    exact List.cons_ne_nil _ _
  obtain ⟨-, harmor, hgrade, hscript, hdata⟩ := written_revisedFiles
  rw [hfiles] at harmor hgrade hscript hdata
  have hbefore : readEnums (.ofCells elementCells) = .ok [elementEnum] := rfl
  have hafter : readEnums (.ofCells gradeCells) = .ok [rankEnum] := rfl
  -- the first pass refuses the Convert table, and then writes the script of the Enum table
  obtain ⟨hcomes, hunder, hprepared₁, stopped, hpass⟩ := hprepared.pass_recompiled hne
  obtain ⟨-, -, -, stopped₁, hpass₁⟩ := hprepared₁.pass_recompiled (by rwa [hunder.manifest])
  rw [hvisits, hloaded] at hpass hcomes
  rw [hunder.loaded, hunder.manifest, hvisits, hloaded] at hpass₁
  have hnone : enumMembers? elementProject.loaded r.files rankColumn.type = none := by
    rw [enumMembers?_rankColumn hbefore (eq_ok_of_toOption hscript)]
    decide +kernel
  have hrefused := hpass.tail_of_refused (refused_armorVisit (eq_ok_of_toOption harmor) hnone)
  obtain ⟨u, hwrites, hrest⟩ :=
    hrefused.tail_of_accepted (accepted_gradeVisit (eq_ok_of_toOption hgrade))
  cases hrest
  -- the second pass accepts the Convert table, whose data file is still the old one
  have hscript₁ := FileTree.readText_of_read
    (hwrites.stands.script "Dist/Enum/Grade.py" (by decide) (by decide))
  have hmembers : enumMembers? elementProject.loaded r.recompiled.files rankColumn.type =
      some rankEnum.members := by
    rw [enumMembers?_rankColumn hafter hscript₁]
    decide +kernel
  have htable : isTableFile "Armor.xlsx" = true := by decide
  have harmor₁ : sheetAt "Armor.xlsx" r.recompiled.files = .ok (.ofCells armorCells) := by
    obtain ⟨cells, hread, hcells⟩ :=
      (Visit.sheetAt_eq_ok_iff htable).1 (eq_ok_of_toOption harmor)
    have hread₁ := hwrites.changesAt.read (outside_gradeVisit _ (by decide)) hread
    exact (Visit.sheetAt_eq_ok_iff htable).2 ⟨cells, hread₁, hcells⟩
  have hdata₁ := hwrites.changesAt.readText (outside_gradeVisit _ (by decide))
    (eq_ok_of_toOption hdata)
  obtain ⟨w, hwrites₁, hrest₁⟩ := hpass₁.tail_of_accepted (accepted_armorVisit harmor₁ hmembers)
  have hstands : armorVisit.Stands elementProject.loaded "Dist/ParseResult.json"
      (armorCompiled [rankColumn] armorRow) r.recompiled.recompiled.files := by
    have hv := hcomes.recorded armorVisit List.mem_cons_self
    have hw := hcomes.recorded gradeVisit (List.mem_cons_of_mem _ List.mem_cons_self)
    cases hrest₁ with
    | accepted _ hother hdone =>
      cases hdone
      exact hv.stands_of_writes hw nofun hwrites₁.stands hother
    | refused _ hdone =>
      cases hdone
      exact hwrites₁.stands
    | ended _ => exact hwrites₁.stands
  obtain ⟨rows, hrows, hread⟩ :=
    hstands.data rfl "Resources/Armor.json" (by decide) (by decide)
  cases hrows
  rw [hdata₁, FileTree.readText_of_read hread, Ne, Except.ok.injEq]
  decide +kernel

end SheetCompiler
