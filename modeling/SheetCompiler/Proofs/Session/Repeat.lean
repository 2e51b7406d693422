import SheetCompiler.Proofs.Compile.Sources
import SheetCompiler.Proofs.Session.Orphans
import SheetCompiler.Proofs.Session.Recorded

/-!
# Compiling recorded tables again

While workbooks and templates stay as they are, the files of every entry hold what its workbook
compiles to (`Project.IsCurrent`), through tables that are replaced, change their kind, fail or are
removed. A recorded table that is compiled again is then either compiled to what is there already,
or not compiled, which writes nothing. So neither files nor the manifest change.

Main statements:

* `isCurrent_after`: what one operation preserves;
* `recompile_of_isCurrent`: what compiling entries again leaves;
* `session_recompile`: it changes nothing after any session.
-/

namespace SheetCompiler

open SheetCompiler.Stateful SheetCompiler.Path

/-! ## The file of the manifest -/

/-- A manifest does not print as a workbook is shown to readers of texts. -/
lemma Manifest.print_ne_workbookMark (m : Manifest) : m.print ≠ FileTree.workbookMark := by
  have hlast : m.print.toList.getLast? = some '\n' := by
    rw [Manifest.print, Json.print, String.toList_ofList, List.getLast?_append]
    rfl
  have hmark : FileTree.workbookMark.toList.getLast? = some 'K' := rfl
  intro h
  rw [h, hmark] at hlast
  exact absurd hlast (by decide)

/-- Where there was no file before, the text of a manifest is what a text file holds. -/
lemma FileTree.read_of_readText_print {s : Settings} {t u : FileTree} {place : String}
    {m : Manifest} (hkept : t.KeepsSources s u) (hnone : t.content? (location place) = none)
    (h : u.readText place = .ok m.print) : u.read place = .ok (.text m.print) := by
  unfold FileTree.readText at h
  split at h
  · rename_i text hread
    rw [hread, Except.ok.inj h]
  · -- no container is new
    rename_i text fault hread
    have hnode := hkept.workbooks _ (.container text fault) nofun (read_eq_ok_iff.1 hread).2.1
    rw [content?_eq_some_iff.2 hnode] at hnone
    cases hnone
  · exact absurd (Except.ok.inj h).symm m.print_ne_workbookMark
  · cases h

/-! ## Projects with current entries -/

/-- A project under settings whose sources are those of a tree: every entry records the table in
its workbook, and the files of the table hold what the workbook compiles to. -/
structure Project.IsCurrent (s : Settings) (base : FileTree) (p : Project) : Prop where
  loaded : p.loaded = s
  sources : base.KeepsSources s p.files
  entries : ∀ d ∈ p.manifest.entries, ∃ kind source, ∃ c : Compiled, d.Records s kind source ∧
    c.IsFrom s kind source base ∧ c.StandsIn s kind (tableNameOf source) p.files

variable {p q : Project} {s : Settings} {base : FileTree} {place : String}

namespace Project.IsCurrent

lemma of_matches (h : p.IsCurrent s base) (hm : p.Matches q) : q.IsCurrent s base :=
  ⟨hm.loaded ▸ h.loaded, hm.files ▸ h.sources, hm.files ▸ hm.manifest ▸ h.entries⟩

lemma isExact (h : p.IsCurrent s base) : p.IsExact := by
  constructor
  case entries =>
    intro d hd
    obtain ⟨kind, source, -, hrecords, -, -⟩ := h.entries d hd
    rw [h.loaded]
    exact ⟨kind, source, hrecords⟩
  case files =>
    intro d hd output ho
    obtain ⟨kind, source, c, hrecords, -, hstands⟩ := h.entries d hd
    rcases mem_outputPlaces.1 (hrecords.mem_outputs.1 ho) with hp | ⟨hkind, hp⟩
    · exact ⟨_, hstands.script output hp⟩
    · obtain ⟨rows, -, hread⟩ := hstands.data hkind output hp
      exact ⟨_, hread⟩

/-- What stands in the files of an entry stands there while files change in other places. -/
lemma standsIn_of_changesAt {kind : TableKind} {source : String} {c : Compiled} {d : Compilation}
    {t u : FileTree} {locs : Set Location} (hd : d.Records s kind source)
    (h : c.StandsIn s kind (tableNameOf source) t) (hchanges : t.ChangesAt locs u)
    (hdisjoint : Disjoint d.locations locs) : c.StandsIn s kind (tableNameOf source) u := by
  refine h.of_changesAt hchanges fun output ho hl => ?_
  exact Set.disjoint_left.1 hdisjoint (hd.mem_locations.2 ⟨output, ho, rfl⟩) hl

end Project.IsCurrent

/-- The files of a table lie apart from the manifest. -/
lemma Compilation.Records.notMem_place {kind : TableKind} {source : String} {d : Compilation}
    (h : d.Records s kind source) (hapart : s.IsApart place) :
    Disjoint d.locations {location place} := by
  rw [Set.disjoint_singleton_right]
  intro hl
  obtain ⟨output, ho, hlocation⟩ := h.mem_locations.1 hl
  exact hapart kind _ h.named output ho hlocation

/-! ## What operations preserve -/

namespace Operation

/-- An attempt that is not blocked keeps entries current: one that it adds is, and the others have
their files elsewhere. -/
lemma isCurrent_compileNext {label path : String} (hplace : s.manifest = .text place)
    (hapart : s.IsApart place) (hfixed : location place ∉ s.templateLocations)
    (h : p.IsCurrent s base)
    (hfree : ¬ (Action.attemptAt p.loaded label path p).IsBlocked label) :
    ((Action.compileNext p.loaded label path).apply p).2.IsCurrent s base := by
  obtain rfl := h.loaded
  rcases Action.attempt_cases hplace hfree with ⟨-, hm⟩ | ⟨kind, a, hkind, hresult, hadds⟩
  · exact h.of_matches hm
  have hrecords := hadds.records
  -- what the workbook compiles to stands in its files when the manifest is recorded
  have hstands : ∃ c : Compiled, c.IsFrom p.loaded kind path base ∧
      c.StandsIn p.loaded kind (tableNameOf path)
        ((Action.compileNext p.loaded label path).apply p).2.files := by
    rw [Attempt.result?, Action.outcome_attemptAt] at hresult
    rcases hc : (compiling p.loaded label path).apply p.files with ⟨f | b, files⟩
    · rw [hc] at hresult
      cases hresult
    · obtain ⟨_, _, hnext⟩ := Action.compileNext_of_ok hc
      obtain ⟨other, c, hother, -, hfrom, hstands, -⟩ := compiling_stands hc
      rw [hkind, Option.some.injEq] at hother
      obtain rfl := hother
      have hrecording := changesAt_recording hplace (p.manifest.insert b) files
      have hthere := Project.IsCurrent.standsIn_of_changesAt hrecords hstands hrecording
        (hrecords.notMem_place hapart)
      refine ⟨c, hfrom.of_keepsSources h.sources, ?_⟩
      rw [hnext]
      exact hthere
  constructor
  case loaded => exact hadds.loaded
  case sources => exact h.sources.trans _ _ _ (keepsSources_compileNext hplace hfixed)
  case entries =>
    intro d hd
    rw [hadds.manifest, Manifest.mem_insert] at hd
    rcases hd with rfl | ⟨hd, hrank⟩
    · obtain ⟨c, hfrom, hthere⟩ := hstands
      exact ⟨kind, path, c, hrecords, hfrom, hthere⟩
    · obtain ⟨other, source, c, hother, hfrom, hthere⟩ := h.entries d hd
      -- an entry of another name has its files elsewhere
      have hdisjoint : Disjoint d.locations (insert (location place) a.locations) := by
        rw [Set.disjoint_insert_right, ← Set.disjoint_singleton_right]
        exact ⟨hother.notMem_place hapart, hother.disjoint hrecords hrank⟩
      exact ⟨other, source, c, hother, hfrom,
        Project.IsCurrent.standsIn_of_changesAt hother hthere hadds.changes hdisjoint⟩

/-- Entries that are not removed stay current. -/
lemma isCurrent_removeTables {compilations : List Compilation} (hplace : s.manifest = .text place)
    (hapart : s.IsApart place) (hfixed : location place ∉ s.templateLocations)
    (h : p.IsCurrent s base) (hall : ∀ c ∈ compilations, c ∈ p.manifest.entries) :
    ((removeTables compilations).after p).IsCurrent s base := by
  obtain ⟨q, hq, hm⟩ := removeTables_of_isExact h.isExact hall
  have hloaded : q.loaded = s := hq.loaded.trans h.loaded
  have hrecording := changesAt_recording (hloaded ▸ hplace) q.manifest q.files
  refine Project.IsCurrent.of_matches ?_ hm.symm
  constructor
  case loaded => exact hloaded
  case sources =>
    have hkept : p.files.KeepsSources s q.files := by
      refine hq.files.keepsSources fun l hl hgone => ?_
      obtain ⟨c, hc, hlocation⟩ := hgone
      obtain ⟨kind, source, -, hrecords, -, -⟩ := h.entries c (hall c hc)
      obtain ⟨output, ho, rfl⟩ := hrecords.mem_locations.1 hlocation
      exact output_notMem_templateLocations hrecords.named ho hl
    have hrecorded : q.files.KeepsSources s
        ((recording q.loaded q.manifest).apply q.files).2 := by
      rw [hloaded]
      exact keepsSources_recording hplace hfixed q.manifest q.files
    exact h.sources.trans _ _ _ (hkept.trans _ _ _ hrecorded)
  case entries =>
    intro d hd
    obtain ⟨hmem, hranks⟩ := (hq.entries d).1 hd
    obtain ⟨kind, source, c, hrecords, hfrom, hstands⟩ := h.entries d hmem
    -- entries that are kept have other names than those that are removed, and so other files
    have hdisjoint : Disjoint d.locations {l | ∃ c ∈ compilations, l ∈ c.locations} := by
      rw [Set.disjoint_left]
      rintro l hl ⟨e, he, hl'⟩
      obtain ⟨other, workbook, -, hother, -, -⟩ := h.entries e (hall e he)
      exact Set.disjoint_left.1 (hrecords.disjoint hother (hranks e he)) hl hl'
    have hkept := Project.IsCurrent.standsIn_of_changesAt hrecords hstands hq.files.changesAt
      hdisjoint
    exact ⟨kind, source, c, hrecords, hfrom,
      Project.IsCurrent.standsIn_of_changesAt hrecords hkept hrecording
        (hrecords.notMem_place hapart)⟩

/-- Attempts that are not blocked keep entries current. -/
lemma isCurrent_of_attempted {xs : List (String × Attempt)} (hplace : s.manifest = .text place)
    (hapart : s.IsApart place) (hfixed : location place ∉ s.templateLocations)
    (h : p.IsCurrent s base) (hxs : Action.Attempted xs p q)
    (hfree : ∀ x ∈ xs, ¬ x.2.IsBlocked x.1) : q.IsCurrent s base :=
  hxs.induct (I := Project.IsCurrent s base) (C := fun label a => ¬ a.IsBlocked label)
    (fun _ _ hm hp => hp.of_matches hm)
    (fun _ _ _ hp hC => isCurrent_compileNext hplace hapart hfixed hp hC) h hfree

/-- Entries stay current as workbooks are compiled and tables are compiled again or removed, unless
a write is blocked or others change files. -/
theorem isCurrent_after {o : Operation} (hplace : s.manifest = .text place)
    (hapart : s.IsApart place) (hfixed : location place ∉ s.templateLocations)
    (h : p.IsCurrent s base) (hours : ∀ files, o ≠ .replaceFiles files) (ho : o.IsUnblocked p) :
    (o.after p).IsCurrent s base := by
  cases o with
  | compile paths label =>
    exact isCurrent_of_attempted hplace hapart hfixed h (attempted_compile paths label p)
      ho.unblocked
  | recompile compilations =>
    have htexts : ∀ c ∈ compilations, c.IsOfTexts := h.isExact.isOfTexts ho.onEntries
    exact isCurrent_of_attempted hplace hapart hfixed h (attempted_recompile htexts p) ho.unblocked
  | removeTables compilations => exact isCurrent_removeTables hplace hapart hfixed h ho.onEntries
  | replaceFiles files => exact absurd rfl (hours files)
  | _ => exact ho.onEntries.elim

/-- Whether an operation is on entries, no write is blocked, and no one else changes a file. -/
structure IsFree (place : String) (o : Operation) (p : Project) : Prop where
  unblocked : o.IsUnblocked p
  ours : ∀ files, o ≠ .replaceFiles files
  admits : (o.after p).files.Admits place

/-- Such an operation leaves the file of the manifest to the manifest. -/
lemma IsFree.sparesManifest {o : Operation} (h : o.IsFree place p) (hp : p.IsExact)
    (hapart : p.loaded.IsApart place) : o.SparesManifest place p := by
  constructor
  case texts =>
    cases o with
    | recompile compilations => exact hp.isOfTexts h.unblocked.onEntries
    | removeTables compilations => exact hp.isOfTexts h.unblocked.onEntries
    | record c => exact h.unblocked.onEntries.elim
    | remove compilations => exact h.unblocked.onEntries.elim
    | _ => trivial
  case outputs => exact fun _ _ kind _ hident output ho => hapart kind _ hident output ho
  case outside => exact fun files hf => absurd hf (h.ours files)
  case admits => exact h.admits

/-! ## Compiling entries again -/

/-- A project with the manifest and the files of another one. -/
structure Repeats (p q : Project) : Prop where
  loaded : q.loaded = p.loaded
  manifest : q.manifest = p.manifest
  files : p.files.ChangesAt ∅ q.files

/-- An attempt at the workbook of an entry changes neither the manifest nor a file. -/
lemma repeats_compileNext {label path : String} {compilations : List Compilation}
    (hplace : s.manifest = .text place) (h : p.IsCurrent s base)
    (hread : p.manifest.entries ≠ [] → p.files.read place = .ok (.text p.manifest.print))
    (hall : ∀ c ∈ compilations, c ∈ p.manifest.entries) (hq : Repeats p q)
    (hentry : (Action.attemptAt q.loaded label path q).IsAtEntry compilations label) :
    Repeats p ((Action.compileNext q.loaded label path).apply q).2 := by
  obtain ⟨d, hd, hlabel, hsource⟩ := hentry
  have hmem := hall d hd
  have hloaded : q.loaded = s := hq.loaded.trans h.loaded
  obtain ⟨kind, source, c, hrecords, hfrom, hstands⟩ := h.entries d hmem
  have hkind : TableKind.ofLabel? label = some kind := by
    rw [hrecords.kind_eq, Json.text.injEq] at hlabel
    rw [← hlabel, TableKind.ofLabel?_name]
  obtain rfl : source = path := by
    rw [hrecords.eq] at hsource
    exact Json.text.inj hsource
  -- what the entry compiles to stands in its files, where it is written again if at all
  have hstill : c.StandsIn s kind (tableNameOf source) q.files :=
    hstands.of_changesAt hq.files fun _ _ => Set.notMem_empty _
  have hsources : base.KeepsSources s q.files :=
    h.sources.trans _ _ _ hq.files.keepsSources
  have hagain := compiling_again hsources hkind hfrom hstill
  rcases hc : (compiling q.loaded label source).apply q.files with ⟨f | a, files⟩
  · obtain ⟨_, _, hnext⟩ := Action.compileNext_of_error hc
    rw [hloaded] at hc
    rw [hc] at hagain
    rw [hnext]
    exact ⟨hq.loaded, hq.manifest, hq.files.trans _ _ _ hagain⟩
  · obtain ⟨_, _, hnext⟩ := Action.compileNext_of_ok hc
    rw [hloaded] at hc
    rw [hc] at hagain
    -- what is recorded is the entry, which is in the manifest and its file
    obtain rfl : a = d := by
      obtain ⟨other, hother, hadded, -⟩ := compiling_eq_ok hc
      rw [hkind, Option.some.injEq] at hother
      rw [hadded.eq, hrecords.eq, hother]
    have hsame : q.manifest.insert a = q.manifest :=
      Manifest.insert_of_mem (hq.manifest.symm ▸ hmem)
    have hfiles : p.files.ChangesAt ∅ files := hq.files.trans _ _ _ hagain
    have hrecorded : files.read place = .ok (.text q.manifest.print) := by
      rw [hq.manifest]
      exact hfiles.read (Set.notMem_empty _) (hread (List.ne_nil_of_mem hmem))
    rw [hnext, hsame]
    refine ⟨hq.loaded, hq.manifest, hfiles.trans _ _ _ ?_⟩
    exact recording_again (hloaded.symm ▸ hplace) hrecorded

/-- Entries that are compiled again, whether or not they are accepted, leave the manifest and every
file as they are. -/
theorem recompile_of_isCurrent {compilations : List Compilation}
    (hplace : s.manifest = .text place) (h : p.IsCurrent s base)
    (hread : p.manifest.entries ≠ [] → p.files.read place = .ok (.text p.manifest.print))
    (hall : ∀ c ∈ compilations, c ∈ p.manifest.entries) :
    Repeats p ((recompile compilations).after p) := by
  have htexts : ∀ c ∈ compilations, c.IsOfTexts := h.isExact.isOfTexts hall
  have hentry : ∀ x ∈ (recompile compilations).attempts p, x.2.IsAtEntry compilations x.1 := by
    intro x hx
    obtain ⟨b, hb, hlabel, hpath⟩ := Action.exists_batch_of_mem hx
    rw [hlabel]
    exact Action.exists_of_mem_batchesOf (fun c hc => h.isExact.entries c (hall c hc)) hb hpath
  refine (attempted_recompile htexts p).induct (I := Repeats p)
    (C := fun label a => a.IsAtEntry compilations label) (fun q r hm hq => ?_)
    (fun label path q hq hC => ?_) ⟨rfl, rfl, FileTree.ChangesAt.refl _ _⟩ hentry
  · exact ⟨hm.loaded ▸ hq.loaded, hm.manifest ▸ hq.manifest, hm.files ▸ hq.files⟩
  · exact repeats_compileNext hplace h hread hall hq hC

end Operation

/-! ## Sessions -/

/-- Compiling entries again, in any order and with repeats, changes neither the manifest nor a file
after any session that starts without a manifest, in which no write is blocked and no one else
changes files. Neither the files of a table nor templates lie in the manifest's place. -/
theorem session_recompile {os : List Operation} (h : p.IsUnrecorded place)
    (hapart : p.loaded.IsApart place) (hfixed : location place ∉ p.loaded.templateLocations)
    (hos : Session.Obeys (Operation.IsFree place) os p) {compilations : List Compilation}
    (hall : ∀ c ∈ compilations, c ∈ (Session.after os p).manifest.entries) :
    ((Operation.recompile compilations).after (Session.after os p)).manifest =
        (Session.after os p).manifest ∧
      ∀ l, ((Operation.recompile compilations).after (Session.after os p)).files.content? l =
        (Session.after os p).files.content? l := by
  have hcurrent : p.IsCurrent p.loaded p.files := by
    refine ⟨rfl, .refl _ _, fun d hd => ?_⟩
    rw [h.empty] at hd
    exact absurd hd List.not_mem_nil
  have hplace := h.recorded
  -- entries stay current, and the manifest is in its file
  obtain ⟨hend, hrecorded, hadmits⟩ := Session.obeys_induct
    (I := fun q => q.IsCurrent p.loaded p.files ∧ q.IsRecorded place ∧ q.files.Admits place)
    (fun o q ⟨hq, hrecorded, hadmits⟩ ho => by
      have hspares := ho.sparesManifest hq.isExact (hq.loaded ▸ hapart)
      exact ⟨Operation.isCurrent_after hplace hapart hfixed hq ho.ours ho.unblocked,
        Operation.isRecorded_after hrecorded hadmits hspares, ho.admits⟩)
    ⟨hcurrent, h.isRecorded, h.admits⟩ hos
  have hread : (Session.after os p).manifest.entries ≠ [] →
      (Session.after os p).files.read place = .ok (.text (Session.after os p).manifest.print) := by
    intro hne
    rcases hrecorded.file hadmits with ⟨hempty, -⟩ | hprint
    · exact absurd hempty hne
    · exact FileTree.read_of_readText_print hend.sources h.missing hprint
  have hrepeats := Operation.recompile_of_isCurrent hplace hend hread hall
  exact ⟨hrepeats.manifest, fun l => hrepeats.files.files l (Set.notMem_empty _)⟩

/-! ## A table that is compiled twice more -/

/-- Compiling the workbook of the element table leaves the manifest's file to be written. -/
lemma admits_compile_element {label : String} (hloaded : p.loaded = elementProject.loaded)
    (hadmits : p.files.Admits "Dist/ParseResult.json") :
    ((Operation.compile ["Element.xlsx"] label).after p).files.Admits "Dist/ParseResult.json" := by
  have htable : isTableFile "Element.xlsx" = true := by decide
  have houtputs : ∀ kind, ∀ output ∈ outputPlaces elementProject.loaded kind
      (tableNameOf "Element.xlsx"), Apart "Dist/ParseResult.json" output := by
    intro kind
    cases kind <;> decide
  have hfiles := (Operation.matches_compile_single htable label p).files
  have hspares : Spares "Dist/ParseResult.json" p.files
      ((Operation.compile ["Element.xlsx"] label).after p).files := by
    rw [← hfiles, Action.after_attemptAt]
    refine Action.spares_compileNext (fun kind _ => ?_) fun manifest hm => ?_
    · rw [hloaded]
      exact houtputs kind
    · rw [hloaded] at hm
      cases hm
      decide
  exact hspares.admits hadmits

/-- A table that has changed its kind is compiled again twice, and nothing changes. -/
theorem elementRevised_recompile :
    elementProject.IsUnrecorded "Dist/ParseResult.json" ∧
      Session.Obeys (Operation.IsFree "Dist/ParseResult.json") (elementSession.take 2)
        elementProject ∧
      ∀ l, ((Operation.recompile [elementTable .enum, elementTable .enum]).after
          elementRevised).files.content? l = elementRevised.files.content? l := by
  have hstart : elementProject.IsUnrecorded "Dist/ParseResult.json" :=
    ⟨rfl, rfl, rfl, by decide, by decide +kernel⟩
  obtain ⟨⟨hfirst, hconvert⟩, hsecond, -⟩ := adds_elementSession
  have hadmits : elementConverted.files.Admits "Dist/ParseResult.json" :=
    admits_compile_element rfl hstart.admits
  have hadmits' : elementRevised.files.Admits "Dist/ParseResult.json" :=
    admits_compile_element hconvert.loaded hadmits
  have hobeys : Session.Obeys (Operation.IsFree "Dist/ParseResult.json") (elementSession.take 2)
      elementProject :=
    ⟨⟨hfirst, nofun, hadmits⟩, ⟨hsecond, nofun, hadmits'⟩, trivial⟩
  have hfixed : location "Dist/ParseResult.json" ∉ elementProject.loaded.templateLocations := by
    rintro ⟨directory, kind, name, htemplates, -, -⟩
    cases htemplates
  have hall : ∀ c ∈ [elementTable .enum, elementTable .enum],
      c ∈ (Session.after (elementSession.take 2) elementProject).manifest.entries := by
    rw [after_take_elementSession, entries_elementRevised]
    intro c hc
    rcases List.mem_cons.1 hc with rfl | hc
    · exact List.mem_singleton_self _
    · exact hc
  obtain ⟨-, hsame⟩ := session_recompile hstart isApart_manifest hfixed hobeys hall
  rw [after_take_elementSession] at hsame
  exact ⟨hstart, hobeys, hsame⟩

end SheetCompiler
