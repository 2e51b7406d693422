import SheetCompiler.Proofs.Session.Outputs

/-!
# Files that no entry records

The manifest knows a table by its name, but where the files of a table lie depends on its kind too.
A table that is compiled again as one of another kind takes the place of its entry, and the files of
the old kind stay where they are: no entry records them any more (`Project.IsOrphan`), and nothing
deletes them.

Main statements:

* `Operation.result_of_recompile`: compiling a recorded table again records it as it was;
* `Operation.hasNoOrphans_after_iff`: an operation leaves an orphan just if it changes a kind;
* `session_orphans`: so does a session, and what follows from there being no orphans.
-/

namespace SheetCompiler

open SheetCompiler.Stateful SheetCompiler.Path

/-! ## Orphans -/

/-- A file in the place of an output of a table that no entry records. -/
structure Project.IsOrphan (p : Project) (kind : TableKind) (table output : String) : Prop where
  named : Text.isIdentifier table = true
  place : output ∈ outputPlaces p.loaded kind table
  present : p.files.content? (location output) ≠ none
  unlisted : ∀ c ∈ p.manifest.entries, .text output ∉ c.outputs

/-- Whether every file in the place of an output of a table is recorded by an entry. -/
def Project.HasNoOrphans (p : Project) : Prop :=
  ∀ kind table output, ¬ p.IsOrphan kind table output

/-- Whether an attempt records a table under a name that stands for one of another kind. -/
def Attempt.ChangesKind (a : Attempt) : Prop :=
  ∃ c d, a.result? = some c ∧ a.before.manifest.get? c.name = some d ∧ d.kind ≠ c.kind

variable {p q : Project} {place source : String} {kind other : TableKind} {table output : String}
  {c d : Compilation}

namespace Compilation

variable {s : Settings}

lemma Records.name_eq (h : c.Records s kind source) : c.name = .text (tableNameOf source) := by
  rw [h.eq]
  rfl

lemma Records.kind_eq (h : c.Records s kind source) : c.kind = .text kind.name := by
  rw [h.eq]
  rfl

/-- A place of a table is listed by the compilation of this table only. -/
lemma Records.of_mem_outputs {workbook : String} (h : d.Records s other workbook)
    (hident : Text.isIdentifier table = true) (hplace : output ∈ outputPlaces s kind table)
    (ho : .text output ∈ d.outputs) : kind = other ∧ table = tableNameOf workbook := by
  obtain ⟨hkind, htable, -⟩ :=
    eq_of_location_eq hident h.named hplace (h.mem_outputs.1 ho) rfl
  exact ⟨hkind, htable⟩

/-- Compilations of one name and one kind have the same outputs. -/
lemma Records.outputs_eq {workbook : String} (h : c.Records s kind source)
    (h' : d.Records s other workbook) (hrank : d.rank = c.rank) (hkind : d.kind = c.kind) :
    d.outputs = c.outputs := by
  rw [h.rank, h'.rank, Json.rank_text_inj] at hrank
  rw [h.kind_eq, h'.kind_eq, Json.text.injEq] at hkind
  rw [h.outputs, h'.outputs, hrank, TableKind.name_inj hkind]

end Compilation

namespace Project

lemma IsOrphan.of_matches (h : p.IsOrphan kind table output) (hm : p.Matches q) :
    q.IsOrphan kind table output :=
  ⟨h.named, hm.loaded ▸ h.place, hm.files ▸ h.present, hm.manifest ▸ h.unlisted⟩

lemma HasNoOrphans.of_matches (h : p.HasNoOrphans) (hm : p.Matches q) : q.HasNoOrphans :=
  fun kind table output ho => h kind table output (ho.of_matches hm.symm)

/-- Without orphans an entry records what is in the place of an output. -/
lemma HasNoOrphans.exists_entry (h : p.HasNoOrphans) (hident : Text.isIdentifier table = true)
    (hplace : output ∈ outputPlaces p.loaded kind table)
    (hpresent : p.files.content? (location output) ≠ none) :
    ∃ c ∈ p.manifest.entries, .text output ∈ c.outputs := by
  by_contra hnone
  push Not at hnone
  exact h kind table output ⟨hident, hplace, hpresent, hnone⟩

/-- Without orphans what is in the place of an output is that of an entry of the same table. -/
lemma HasNoOrphans.exists_table (h : p.HasNoOrphans) (hp : p.IsExact)
    (hident : Text.isIdentifier table = true)
    (hplace : output ∈ outputPlaces p.loaded kind table)
    (hpresent : p.files.content? (location output) ≠ none) :
    ∃ c ∈ p.manifest.entries, c.name = .text table ∧ c.kind = .text kind.name := by
  obtain ⟨c, hc, ho⟩ := h.exists_entry hident hplace hpresent
  obtain ⟨other, source, hrecords⟩ := hp.entries c hc
  obtain ⟨rfl, rfl⟩ := hrecords.of_mem_outputs hident hplace ho
  exact ⟨c, hc, hrecords.name_eq, hrecords.kind_eq⟩

end Project

/-! ## What an attempt does about orphans -/

namespace Adds

/-- Where no kind changes, a table that is added makes no orphan. -/
lemma hasNoOrphans (h : Adds place kind source c p q) (hp : p.IsExact)
    (hapart : p.loaded.IsApart place) (hno : p.HasNoOrphans)
    (hsame : ∀ d, p.manifest.get? c.name = some d → d.kind = c.kind) : q.HasNoOrphans := by
  intro other table output ho
  have hplace : output ∈ outputPlaces p.loaded other table := h.loaded ▸ ho.place
  have hadded : c ∈ q.manifest.entries := by
    rw [h.manifest]
    exact Manifest.mem_insert.2 (.inl rfl)
  by_cases hl : location output ∈ insert (location place) c.locations
  · rcases hl with hmanifest | hl
    · exact hapart other table ho.named output hplace hmanifest
    · -- what has been written is recorded
      obtain ⟨written, hw, hlocation⟩ := h.records.mem_locations.1 hl
      obtain ⟨-, -, rfl⟩ := eq_of_location_eq h.records.named ho.named hw hplace hlocation
      exact ho.unlisted c hadded (h.records.mem_outputs.2 hw)
  · have hpresent := ho.present
    rw [h.changes.files _ hl] at hpresent
    obtain ⟨d, hd, hlisted⟩ := hno.exists_entry ho.named hplace hpresent
    by_cases hrank : d.rank = c.rank
    · -- the kind is the same, so an entry that is replaced has the outputs of the new one
      obtain ⟨kind', workbook, hrecords⟩ := hp.entries d hd
      have hget : p.manifest.get? c.name = some d := by
        rw [h.records.rank, hrecords.rank, Json.rank_text_inj] at hrank
        rw [h.records.name_eq, ← hrank, ← hrecords.name_eq]
        exact Manifest.get?_of_mem hd
      rw [h.records.outputs_eq hrecords hrank (hsame d hget)] at hlisted
      exact ho.unlisted c hadded hlisted
    · refine ho.unlisted d ?_ hlisted
      rw [h.manifest]
      exact Manifest.mem_insert.2 (.inr ⟨hd, hrank⟩)

/-- A table that takes the place of one of another kind leaves the script of this kind as an
orphan. -/
lemma exists_isOrphan (h : Adds place kind source c p q) (hp : p.IsExact)
    (hget : p.manifest.get? c.name = some d) (hne : d.kind ≠ c.kind) :
    ∃ other table output, other ≠ kind ∧ q.IsOrphan other table output := by
  have hd := Manifest.mem_of_get? hget
  obtain ⟨other, workbook, hrecords⟩ := hp.entries d hd
  obtain ⟨script, hscript⟩ := Option.isSome_iff_exists.1 hrecords.script
  have hplace : script ∈ outputPlaces p.loaded other (tableNameOf workbook) :=
    mem_outputPlaces.2 (.inl hscript)
  -- the kind is part of the place of a script
  have hother : other ≠ kind := by
    rintro rfl
    exact hne (hrecords.kind_eq.trans h.records.kind_eq.symm)
  have hfile := hp.files d hd script (hrecords.mem_outputs.2 hplace)
  refine ⟨other, _, script, hother, hrecords.named, h.loaded ▸ hplace,
    (h.extended.isFile hfile).content?_ne_none, fun e he hlisted => ?_⟩
  rw [h.manifest] at he
  rcases Manifest.mem_insert.1 he with rfl | ⟨he, hrank⟩
  · exact hother (h.records.of_mem_outputs hrecords.named hplace hlisted).1
  · -- an entry that lists the script has the name of the one that is replaced
    obtain ⟨kind', workbook', hentry⟩ := hp.entries e he
    obtain ⟨-, htable⟩ := hentry.of_mem_outputs hrecords.named hplace hlisted
    have hdrank : d.rank = c.rank := Manifest.rank_of_get? hget
    rw [hentry.rank, ← htable, ← hrecords.rank] at hrank
    exact hrank hdrank

/-- An orphan stays one while tables of other kinds are added. -/
lemma isOrphan (h : Adds place kind source c p q) (ho : p.IsOrphan other table output)
    (hne : other ≠ kind) : q.IsOrphan other table output := by
  refine ⟨ho.named, h.loaded ▸ ho.place, h.extended.files _ ho.present, fun d hd hlisted => ?_⟩
  rw [h.manifest] at hd
  rcases Manifest.mem_place hd with rfl | hd
  · exact hne (h.records.of_mem_outputs ho.named ho.place hlisted).1
  · exact ho.unlisted d hd hlisted

end Adds

/-! ## Compiling tables again -/

lemma TableKind.ofLabel?_name (kind : TableKind) : TableKind.ofLabel? kind.name = some kind := by
  cases kind <;> decide

lemma Json.eq_text_of_equal {text : String} {value : Json}
    (h : (Json.text text).equal value = true) : value = .text text := by
  cases value with
  | text other =>
    rw [Json.equal_text, decide_eq_true_eq] at h
    rw [h]
  | _ =>
    unfold Json.equal Json.equalScalar at h
    split at h <;> simp_all [Json.integer?]

/-- Tables that are recorded are compiled again from their workbooks as tables of their kinds. -/
lemma Action.exists_of_mem_batchesOf {s : Settings} {compilations : List Compilation}
    (hall : ∀ c ∈ compilations, c.IsExact s) {b : Batch} (hb : b ∈ batchesOf compilations)
    {path : String} (hpath : path ∈ b.paths) :
    ∃ c ∈ compilations, c.kind = .text b.label ∧ c.source = .text path := by
  obtain ⟨label, -, rfl⟩ := List.mem_map.1 hb
  obtain ⟨workbook, hw, htext⟩ := List.mem_filterMap.1 hpath
  obtain ⟨c, hc, rfl⟩ := List.mem_map.1 hw
  obtain ⟨hmem, hequal⟩ := List.mem_filter.1 hc
  obtain ⟨kind, source, hrecords⟩ := hall c hmem
  rw [hrecords.kind_eq] at hequal
  obtain rfl := Json.eq_text_of_equal hequal
  refine ⟨c, hmem, hrecords.kind_eq, ?_⟩
  rw [hrecords.eq] at htext ⊢
  exact congrArg Json.text (Option.some.inj htext)

/-- A table that is compiled from the workbook of an entry as one of its kind is the entry. -/
lemma Adds.eq_entry {label : String} (h : Adds place kind source c p q) (hd : d.IsExact p.loaded)
    (hlabel : TableKind.ofLabel? label = some kind) (hkind : d.kind = .text label)
    (hsource : d.source = .text source) : c = d := by
  obtain ⟨other, workbook, hrecords⟩ := hd
  rw [hrecords.kind_eq, Json.text.injEq] at hkind
  obtain rfl : other = kind := by
    rw [← hkind, TableKind.ofLabel?_name] at hlabel
    exact Option.some.inj hlabel
  rw [hrecords.eq] at hsource
  obtain rfl : workbook = source := Json.text.inj hsource
  rw [h.records.eq, hrecords.eq]

/-- An exact project under settings with entries that stay. -/
structure Project.Holds (s : Settings) (compilations : List Compilation) (p : Project) : Prop where
  exact : p.IsExact
  loaded : p.loaded = s
  entries : ∀ c ∈ compilations, c ∈ p.manifest.entries

lemma Project.Holds.of_matches {s : Settings} {compilations : List Compilation}
    (h : p.Holds s compilations) (hm : p.Matches q) : q.Holds s compilations :=
  ⟨h.exact.of_matches hm, hm.loaded ▸ h.loaded, hm.manifest ▸ h.entries⟩

/-- Whether an attempt is at the workbook of a compilation, as a table of its kind. -/
def Attempt.IsAtEntry (compilations : List Compilation) (label : String) (a : Attempt) : Prop :=
  ∃ c ∈ compilations, c.kind = .text label ∧ c.source = .text a.path

/-- An attempt at the workbook of an entry records nothing or the entry, which stays. -/
lemma Action.holds_of_isAtEntry {s : Settings} {label path : String}
    {compilations : List Compilation} (hplace : s.manifest = .text place)
    (h : p.Holds s compilations) (hfree : ¬ (attemptAt p.loaded label path p).IsBlocked label)
    (hentry : (attemptAt p.loaded label path p).IsAtEntry compilations label) :
    (∀ c, (attemptAt p.loaded label path p).result? = some c → c ∈ compilations) ∧
      ((compileNext p.loaded label path).apply p).2.Holds s compilations := by
  obtain ⟨d, hd, hkind, hsource⟩ := hentry
  rw [← h.loaded] at hplace
  rcases attempt_cases hplace hfree with ⟨hnone, hm⟩ | ⟨kind, c, hlabel, hsome, hadds⟩
  · refine ⟨fun c hc => ?_, h.of_matches hm⟩
    rw [hnone] at hc
    cases hc
  · obtain rfl : c = d := hadds.eq_entry (h.exact.entries d (h.entries d hd)) hlabel hkind hsource
    refine ⟨fun e he => ?_, isExact_of_adds h.exact hadds, hadds.loaded.trans h.loaded,
      fun e he => ?_⟩
    · rw [hsome, Option.some.injEq] at he
      rwa [← he]
    · rw [hadds.manifest, Manifest.mem_insert]
      by_cases hrank : e.rank = c.rank
      · exact .inl (Manifest.eq_of_rank_eq (h.entries e he) (h.entries c hd) hrank)
      · exact .inr ⟨h.entries e he, hrank⟩

namespace Operation

/-- Compiling entries again records them as they were. -/
theorem result_of_recompile {compilations : List Compilation} (hp : p.IsExact)
    (hplace : p.loaded.manifest = .text place) (ho : (recompile compilations).IsUnblocked p)
    {x : String × Attempt} (hx : x ∈ (recompile compilations).attempts p)
    (hresult : x.2.result? = some c) : c ∈ x.2.before.manifest.entries := by
  have hall : ∀ c ∈ compilations, c ∈ p.manifest.entries := ho.onEntries
  have hentry : ∀ y ∈ (recompile compilations).attempts p, y.2.IsAtEntry compilations y.1 := by
    intro y hy
    obtain ⟨b, hb, hlabel, hpath⟩ := Action.exists_batch_of_mem hy
    rw [hlabel]
    exact Action.exists_of_mem_batchesOf (fun c hc => hp.entries c (hall c hc)) hb hpath
  obtain ⟨before, after, hsplit, hbefore, heq, -⟩ :=
    (attempted_recompile (hp.isOfTexts hall) p).split hx
  -- the entries are there when it comes to the attempt
  have hholds : x.2.before.Holds p.loaded compilations := by
    refine hbefore.induct (I := Project.Holds p.loaded compilations)
      (C := fun label a => ¬ a.IsBlocked label ∧ a.IsAtEntry compilations label)
      (fun q r hm hq => hq.of_matches hm) (fun label path q hq hC => ?_) ⟨hp, rfl, hall⟩
      fun y hy => ?_
    · exact (Action.holds_of_isAtEntry hplace hq hC.1 hC.2).2
    · have hmem : y ∈ (recompile compilations).attempts p := by
        rw [hsplit]
        exact List.mem_append_left _ hy
      exact ⟨ho.unblocked y hmem, hentry y hmem⟩
  have hfree := ho.unblocked x hx
  have hatEntry := hentry x hx
  rw [heq] at hfree hatEntry hresult
  exact hholds.entries c ((Action.holds_of_isAtEntry hplace hholds hfree hatEntry).1 c hresult)

/-! ## What an operation does about orphans -/

/-- Attempts that change no kind make no orphan. -/
lemma hasNoOrphans_of_attempted {xs : List (String × Attempt)} (h : Action.Attempted xs p q)
    (hp : p.IsExact) (hplace : p.loaded.manifest = .text place) (hapart : p.loaded.IsApart place)
    (hno : p.HasNoOrphans) (hfree : ∀ x ∈ xs, ¬ x.2.IsBlocked x.1)
    (hsame : ∀ x ∈ xs, ¬ x.2.ChangesKind) : q.HasNoOrphans := by
  have hkept : q.IsExact ∧ q.loaded = p.loaded ∧ q.HasNoOrphans := by
    refine h.induct (I := fun q => q.IsExact ∧ q.loaded = p.loaded ∧ q.HasNoOrphans)
      (C := fun label a => ¬ a.IsBlocked label ∧ ¬ a.ChangesKind) (fun q r hm hq => ?_)
      (fun label path q hq hC => ?_) ⟨hp, rfl, hno⟩ fun x hx => ⟨hfree x hx, hsame x hx⟩
    · exact ⟨hq.1.of_matches hm, hm.loaded ▸ hq.2.1, hq.2.2.of_matches hm⟩
    · obtain ⟨hexact, hloaded, hclean⟩ := hq
      rw [← hloaded] at hplace hapart
      rcases Action.attempt_cases hplace hC.1 with ⟨-, hm⟩ | ⟨kind, c, -, hsome, hadds⟩
      · exact ⟨hexact.of_matches hm, hm.loaded ▸ hloaded, hclean.of_matches hm⟩
      · refine ⟨Action.isExact_of_adds hexact hadds, hadds.loaded.trans hloaded,
          hadds.hasNoOrphans hexact hapart hclean fun d hget => ?_⟩
        by_contra hne
        exact hC.2 ⟨c, d, hsome, hget, hne⟩
  exact hkept.2.2

/-- Tables that are removed leave no orphan. -/
lemma hasNoOrphans_removeTables {compilations : List Compilation} (hp : p.IsExact)
    (hplace : p.loaded.manifest = .text place) (hapart : p.loaded.IsApart place)
    (hno : p.HasNoOrphans) (hall : ∀ c ∈ compilations, c ∈ p.manifest.entries) :
    ((removeTables compilations).after p).HasNoOrphans := by
  obtain ⟨q, hq, hm⟩ := removeTables_of_isExact hp hall
  refine Project.HasNoOrphans.of_matches (fun kind table output ho => ?_) hm.symm
  have hplace' : output ∈ outputPlaces p.loaded kind table := hq.loaded ▸ ho.place
  have hrecorded : location output ∉ ({location place} : Set Location) :=
    hapart kind table ho.named output hplace'
  have hpresent := ho.present
  dsimp only at hpresent
  rw [(changesAt_recording (hq.loaded ▸ hplace) q.manifest q.files).files _ hrecorded] at hpresent
  -- the file was there before, and so an entry lists it
  have hwas : p.files.content? (location output) ≠ none := by
    intro hnone
    rcases hq.files (location output) with hsame | ⟨-, -, hgone⟩
    · exact hpresent ((FileTree.content?_of_node? hsame).trans hnone)
    · rw [FileTree.content?, hgone] at hpresent
      exact hpresent rfl
  obtain ⟨d, hd, hlisted⟩ := hno.exists_entry ho.named hplace' hwas
  refine ho.unlisted d ((hq.entries d).2 ⟨hd, fun c hc hrank => ?_⟩) hlisted
  obtain rfl := Manifest.eq_of_rank_eq hd (hall c hc) hrank
  have hgone := hq.gone d hc (location output) ⟨output, hlisted, rfl⟩
  rw [FileTree.content?, hgone] at hpresent
  exact hpresent rfl

/-- Attempts at tables of one kind leave orphans of other kinds. -/
lemma isOrphan_of_attempted {xs : List (String × Attempt)} {label : String}
    (h : Action.Attempted xs p q) (hplace : p.loaded.manifest = .text place)
    (hfree : ∀ x ∈ xs, x.1 = label ∧ ¬ x.2.IsBlocked x.1)
    (hkind : TableKind.ofLabel? label = some kind) (hne : other ≠ kind)
    (ho : p.IsOrphan other table output) : q.IsOrphan other table output := by
  have hkept : q.loaded = p.loaded ∧ q.IsOrphan other table output := by
    refine h.induct (I := fun q => q.loaded = p.loaded ∧ q.IsOrphan other table output)
      (C := fun l a => l = label ∧ ¬ a.IsBlocked l) (fun q r hm hq => ?_)
      (fun l path q hq hC => ?_) ⟨rfl, ho⟩ hfree
    · exact ⟨hm.loaded ▸ hq.1, hq.2.of_matches hm⟩
    · obtain ⟨rfl, hunblocked⟩ := hC
      rw [← hq.1] at hplace
      rcases Action.attempt_cases hplace hunblocked with ⟨-, hm⟩ | ⟨kind', c, hl, -, hadds⟩
      · exact ⟨hm.loaded ▸ hq.1, hq.2.of_matches hm⟩
      · rw [hkind, Option.some.injEq] at hl
        exact ⟨hadds.loaded.trans hq.1, hadds.isOrphan hq.2 (hl ▸ hne)⟩
  exact hkept.2

/-- A table that changes its kind leaves an orphan when its batch ends. -/
lemma exists_isOrphan_of_changesKind {paths : List String} {label : String} (hp : p.IsExact)
    (hplace : p.loaded.manifest = .text place) (ho : (compile paths label).IsUnblocked p)
    {x : String × Attempt} (hx : x ∈ (compile paths label).attempts p) (hc : x.2.ChangesKind) :
    ∃ kind table output, ((compile paths label).after p).IsOrphan kind table output := by
  have hlabel : ∀ y ∈ (compile paths label).attempts p, y.1 = label ∧ ¬ y.2.IsBlocked y.1 := by
    intro y hy
    obtain ⟨b, hb, hlabel, -⟩ := Action.exists_batch_of_mem hy
    rw [List.mem_singleton.1 hb] at hlabel
    exact ⟨hlabel, ho.unblocked y hy⟩
  obtain ⟨before, after, hsplit, hbefore, heq, hafter⟩ := (attempted_compile paths label p).split hx
  rw [hsplit, List.forall_mem_append, List.forall_mem_cons] at hlabel
  obtain ⟨hfirst, ⟨hl, hfree⟩, hrest⟩ := hlabel
  obtain ⟨hexact, hloaded⟩ := hbefore.isExact hp hplace fun y hy => (hfirst y hy).2
  rw [← hloaded] at hplace
  -- the attempt makes an orphan, which the rest of the batch leaves
  obtain ⟨c, d, hresult, hget, hne⟩ := hc
  rw [heq] at hfree hresult hafter
  rcases Action.attempt_cases hplace hfree with ⟨hnone, -⟩ | ⟨kind, c', hkind, hsome, hadds⟩
  · rw [hresult] at hnone
    cases hnone
  · rw [hresult, Option.some.injEq] at hsome
    subst hsome
    obtain ⟨other, table, output, hother, horphan⟩ := hadds.exists_isOrphan hexact hget hne
    rw [hl] at hkind
    exact ⟨other, table, output,
      isOrphan_of_attempted hafter (hadds.loaded ▸ hplace) hrest hkind hother horphan⟩

/-- An operation that finds no orphans leaves none just if none of its attempts changes the kind of
a table. Only compiling by labels can: a table that is compiled again keeps its kind. -/
theorem hasNoOrphans_after_iff {o : Operation} (hp : p.IsExact)
    (hplace : p.loaded.manifest = .text place) (hapart : p.loaded.IsApart place)
    (hno : p.HasNoOrphans) (ho : o.IsUnblocked p) :
    (o.after p).HasNoOrphans ↔ ∀ x ∈ o.attempts p, ¬ x.2.ChangesKind := by
  cases o with
  | compile paths label =>
    constructor
    · intro hclean x hx hc
      obtain ⟨kind, table, output, horphan⟩ := exists_isOrphan_of_changesKind hp hplace ho hx hc
      exact hclean kind table output horphan
    · exact hasNoOrphans_of_attempted (attempted_compile paths label p) hp hplace hapart hno
        ho.unblocked
  | recompile compilations =>
    have hsame : ∀ x ∈ (recompile compilations).attempts p, ¬ x.2.ChangesKind := by
      rintro x hx ⟨c, d, hresult, hget, hne⟩
      have hentry := result_of_recompile hp hplace ho hx hresult
      rw [Manifest.get?_of_mem hentry, Option.some.injEq] at hget
      exact hne (congrArg Compilation.kind hget.symm)
    have htexts := hp.isOfTexts ho.onEntries
    have hclean := hasNoOrphans_of_attempted (attempted_recompile htexts p) hp hplace hapart hno
      ho.unblocked hsame
    exact ⟨fun _ => hsame, fun _ => hclean⟩
  | removeTables compilations =>
    have hnone : (removeTables compilations).attempts p = [] := rfl
    rw [hnone]
    exact ⟨fun _ _ hx => (List.not_mem_nil hx).elim,
      fun _ => hasNoOrphans_removeTables hp hplace hapart hno ho.onEntries⟩
  | replaceFiles files =>
    have hnone : (replaceFiles files).attempts p = [] := rfl
    have hspares : p.SparesOutputs files := ho.onEntries
    rw [hnone]
    refine ⟨fun _ _ hx => (List.not_mem_nil hx).elim, fun _ kind table output horphan => ?_⟩
    have hpresent := horphan.present
    have hplace' : output ∈ outputPlaces p.loaded kind table := horphan.place
    have hsame : ((replaceFiles files).after p).files = files := rfl
    rw [hsame, (hspares kind table horphan.named output hplace').2] at hpresent
    exact hno kind table output ⟨horphan.named, hplace', hpresent, horphan.unlisted⟩
  | _ => exact ho.onEntries.elim

end Operation

/-! ## What types resolve -/

/-- A reference to another table exists just if a path to its script leads to something. -/
lemma tableExists_iff {s : Settings} {files : FileTree} {table : Option String}
    {type script : String} (hnamed : TypeToken.referencedTable type ≠ "")
    (hother : table ≠ some (TypeToken.referencedTable type))
    (hscript : s.scriptPath? TableKind.convert.name (TypeToken.referencedTable type) =
      some script) :
    (Resolver.ofFiles s files table).tableExists type = true ↔ files.contains script = true := by
  show (referenceExists s files table type).toOption.getD false = true ↔ _
  unfold referenceExists
  dsimp only
  rw [if_neg hnamed, if_neg hother, hscript]
  rfl

/-- An enumeration that is found is in a script that is there. -/
lemma isFile_of_members? {s : Settings} {files : FileTree} {type : String} {members : List String}
    (h : enumMembers? s files type = some members) :
    ∃ script, s.scriptPath? TableKind.enum.name
        (TypeToken.unmarked (TypeToken.splitContainer type).1) = some script ∧
      files.IsFile script := by
  unfold enumMembers? at h
  split at h
  · rename_i declared hpresent
    unfold enumScript at hpresent
    dsimp only at hpresent
    split at hpresent
    · cases hpresent
    · split at hpresent
      · rename_i script hscript
        refine ⟨script, hscript, ?_⟩
        rw [Except.ok.injEq] at hpresent
        unfold enumScriptAt at hpresent
        split at hpresent
        · cases hpresent
        · split at hpresent
          · cases hpresent
          · rename_i text hread
            exact FileTree.isFile_of_readText hread
      · cases hpresent
  · cases h

/-- The types of other tables and the files of tables follow the manifest: a reference exists for
the Convert tables among the entries, or where there is a directory in the place of a script; an
enumeration is found for the Enum tables among the entries; and when every entry has been removed,
no file of a table is left. -/
structure Project.FollowsManifest (p : Project) : Prop where
  references : ∀ table type script, Text.isIdentifier (TypeToken.referencedTable type) = true →
    table ≠ some (TypeToken.referencedTable type) →
    p.loaded.scriptPath? TableKind.convert.name (TypeToken.referencedTable type) = some script →
    ((Resolver.ofFiles p.loaded p.files table).tableExists type = true ↔
      (∃ c ∈ p.manifest.entries, c.name = .text (TypeToken.referencedTable type) ∧
        c.kind = .text TableKind.convert.name) ∨
      p.files.lookup script = .ok (location script, .directory))
  enumerations : ∀ table type members,
    Text.isIdentifier (TypeToken.unmarked (TypeToken.splitContainer type).1) = true →
    (Resolver.ofFiles p.loaded p.files table).members? type = some members →
    ∃ c ∈ p.manifest.entries,
      c.name = .text (TypeToken.unmarked (TypeToken.splitContainer type).1) ∧
        c.kind = .text TableKind.enum.name
  removal : ((Operation.removeTables p.manifest.entries).after p).manifest.entries = [] ∧
    ∀ kind table, Text.isIdentifier table = true → ∀ output ∈ outputPlaces p.loaded kind table,
      ((Operation.removeTables p.manifest.entries).after p).files.content? (location output) = none

/-- Without orphans types and files follow the manifest. -/
theorem Project.HasNoOrphans.followsManifest (h : p.HasNoOrphans) (hp : p.IsExact)
    (hplace : p.loaded.manifest = .text place) (hapart : p.loaded.IsApart place) :
    p.FollowsManifest := by
  refine ⟨fun table type script hident hother hscript => ?_,
    fun table type members hident hmembers => ?_, ?_⟩
  · have hnamed : TypeToken.referencedTable type ≠ "" := by
      intro hempty
      rw [hempty] at hident
      exact absurd hident (by decide)
    rw [tableExists_iff hnamed hother hscript]
    have hplaces : script ∈ outputPlaces p.loaded .convert (TypeToken.referencedTable type) :=
      mem_outputPlaces.2 (.inl hscript)
    constructor
    · intro hcontains
      -- what the path leads to is a file, which an entry records, or a directory
      rcases FileTree.contains_cases hcontains with ⟨content, -, hfile⟩ | ⟨hdirectory, -⟩
      · refine .inl (h.exists_table hp hident hplaces ?_)
        rw [FileTree.content?_eq_some_iff.2 hfile]
        exact Option.some_ne_none _
      · exact .inr hdirectory
    · rintro (⟨c, hc, hname, hkind⟩ | hdirectory)
      · obtain ⟨kind, source, hrecords⟩ := hp.entries c hc
        rw [hrecords.name_eq, Json.text.injEq] at hname
        rw [hrecords.kind_eq, Json.text.injEq] at hkind
        obtain rfl := TableKind.name_inj hkind
        rw [← hname] at hplaces
        exact FileTree.contains_of_isFile
          (hp.files c hc script (hrecords.mem_outputs.2 hplaces))
      · rw [FileTree.contains, hdirectory]
        rfl
  · rw [members?_ofFiles] at hmembers
    obtain ⟨script, hscript, hfile⟩ := isFile_of_members? hmembers
    have hplaces : script ∈ outputPlaces p.loaded .enum
        (TypeToken.unmarked (TypeToken.splitContainer type).1) := mem_outputPlaces.2 (.inl hscript)
    exact h.exists_table hp hident hplaces hfile.content?_ne_none
  · have hall : ∀ c ∈ p.manifest.entries, c ∈ p.manifest.entries := fun _ hc => hc
    obtain ⟨q, hq, hm⟩ := removeTables_of_isExact hp hall
    have hempty : ((Operation.removeTables p.manifest.entries).after p).manifest.entries = [] := by
      rw [hm.manifest, List.eq_nil_iff_forall_not_mem]
      intro c hc
      obtain ⟨hmem, hranks⟩ := (hq.entries c).1 hc
      exact hranks c hmem rfl
    -- no orphan is left, and there is no entry to record a file
    have hclean := Operation.hasNoOrphans_removeTables hp hplace hapart h hall
    refine ⟨hempty, fun kind table hident output ho => ?_⟩
    by_contra hpresent
    have hplaces : output ∈ outputPlaces
        ((Operation.removeTables p.manifest.entries).after p).loaded kind table := by
      rw [hm.loaded, hq.loaded]
      exact ho
    obtain ⟨c, hc, -⟩ := hclean.exists_entry hident hplaces hpresent
    rw [hempty] at hc
    exact List.not_mem_nil hc

/-! ## Sessions -/

namespace Session

/-- The projects that operations one after the other come to and leave. -/
def states : List Operation → Project → List Project
  | [], p => [p]
  | o :: os, p => p :: states os (o.after p)

/-- The attempts of operations one after the other. -/
def attempts : List Operation → Project → List Attempt
  | [], _ => []
  | o :: os, p => (o.attempts p).map Prod.snd ++ attempts os (o.after p)

/-- The projects of a session that starts with an exact manifest have one. -/
lemma isExact_of_mem_states {os : List Operation} (hp : p.IsExact)
    (hplace : p.loaded.manifest = .text place) (hos : Obeys Operation.IsUnblocked os p)
    (hq : q ∈ states os p) : q.IsExact ∧ q.loaded = p.loaded := by
  induction os generalizing p with
  | nil =>
    rw [List.mem_singleton.1 hq]
    exact ⟨hp, rfl⟩
  | cons o os ih =>
    rcases List.mem_cons.1 hq with rfl | hq
    · exact ⟨hp, rfl⟩
    · obtain ⟨hexact, hloaded⟩ := Operation.isExact_after hp hplace hos.1
      obtain ⟨hexact', hloaded'⟩ := ih hexact (hloaded ▸ hplace) hos.2 hq
      exact ⟨hexact', hloaded'.trans hloaded⟩

/-- A session that starts without orphans never has one just if it changes no kind. -/
lemma hasNoOrphans_iff {os : List Operation} (hp : p.IsExact)
    (hplace : p.loaded.manifest = .text place) (hapart : p.loaded.IsApart place)
    (hno : p.HasNoOrphans) (hos : Obeys Operation.IsUnblocked os p) :
    (∀ q ∈ states os p, q.HasNoOrphans) ↔ ∀ a ∈ attempts os p, ¬ a.ChangesKind := by
  induction os generalizing p with
  | nil =>
    constructor
    · exact fun _ a ha => (List.not_mem_nil ha).elim
    · intro _ q hq
      rw [List.mem_singleton.1 hq]
      exact hno
  | cons o os ih =>
    have hstep := Operation.hasNoOrphans_after_iff hp hplace hapart hno hos.1
    obtain ⟨hexact, hloaded⟩ := Operation.isExact_after hp hplace hos.1
    have hrest (hclean : (o.after p).HasNoOrphans) :=
      ih hexact (hloaded ▸ hplace) (hloaded ▸ hapart) hclean hos.2
    have hfirst : o.after p ∈ states os (o.after p) := by
      cases os <;> exact List.mem_cons_self
    rw [states, attempts, List.forall_mem_cons, List.forall_mem_append, List.forall_mem_map]
    constructor
    · rintro ⟨-, hall⟩
      have hclean := hall _ hfirst
      exact ⟨hstep.1 hclean, (hrest hclean).1 hall⟩
    · rintro ⟨hsame, hall⟩
      exact ⟨hno, (hrest (hstep.2 hsame)).2 hall⟩

end Session

/-- Whether no table has a file. -/
def Project.HasNoOutputs (p : Project) : Prop :=
  ∀ kind table, Text.isIdentifier table = true → ∀ output ∈ outputPlaces p.loaded kind table,
    p.files.content? (location output) = none

/-- A session that starts without entries and without files of tables, in which no write of an
output is blocked and others leave the files of tables alone, never has a file of a table that no
entry records just if it never compiles a table as one of another kind than its entry. As long as
every file of a table is recorded, types and files follow the manifest. -/
theorem session_orphans {os : List Operation} (hempty : p.manifest.entries = [])
    (hplace : p.loaded.manifest = .text place) (hapart : p.loaded.IsApart place)
    (hclear : p.HasNoOutputs) (hos : Session.Obeys Operation.IsUnblocked os p) :
    ((∀ q ∈ Session.states os p, q.HasNoOrphans) ↔
        ∀ a ∈ Session.attempts os p, ¬ a.ChangesKind) ∧
      ∀ q ∈ Session.states os p, q.HasNoOrphans → q.FollowsManifest := by
  have hexact : p.IsExact := Project.isExact_of_empty hempty
  have hno : p.HasNoOrphans := fun kind table output horphan =>
    horphan.present (hclear kind table horphan.named output horphan.place)
  refine ⟨Session.hasNoOrphans_iff hexact hplace hapart hno hos, fun q hq hclean => ?_⟩
  obtain ⟨hexact', hloaded⟩ := Session.isExact_of_mem_states hexact hplace hos hq
  exact hclean.followsManifest hexact' (hloaded ▸ hplace) (hloaded ▸ hapart)

/-! ## A script that is left -/

/-- The project of the element has no files of tables. -/
lemma hasNoOutputs_elementProject : elementProject.HasNoOutputs := by
  have hscripts : location "Dist" = ["Dist"] := by decide
  have hdata : location "Resources" = ["Resources"] := by decide
  have hnone (l : Location) (hl : l ≠ []) (hne : l ≠ ["Element.xlsx"]) :
      elementProject.files.content? l = none := by
    have hnode : elementProject.files.node? l = none := by
      unfold FileTree.node?
      rw [if_neg hl]
      simp [elementProject, Project.ofFiles, Ne.symm hne]
    rw [FileTree.content?, hnode]
  intro kind table hident output ho
  rcases mem_outputPlaces.1 ho with hp | ⟨-, hp⟩
  · obtain ⟨directory, hd, hl⟩ := location_scriptPath hident hp
    cases hd
    rw [hl, hscripts]
    exact hnone _ (by simp) (by simp)
  · obtain ⟨directory, hd, hl⟩ := location_dataPath hident hp
    cases hd
    rw [hl, hdata]
    exact hnone _ (by simp) (by simp)

/-- A table that is compiled once has no orphan, and types and files follow its entry. -/
theorem elementConverted_followsManifest :
    elementProject.HasNoOutputs ∧
      Session.Obeys Operation.IsUnblocked [.compile ["Element.xlsx"] "Convert"] elementProject ∧
      elementConverted.HasNoOrphans ∧ elementConverted.FollowsManifest := by
  obtain ⟨⟨hfirst, -⟩, -⟩ := adds_elementSession
  have htable : isTableFile "Element.xlsx" = true := by decide
  have hobeys : Session.Obeys Operation.IsUnblocked [.compile ["Element.xlsx"] "Convert"]
      elementProject := Session.obeys_cons.2 ⟨hfirst, trivial⟩
  obtain ⟨hiff, hfollows⟩ :=
    session_orphans rfl rfl isApart_manifest hasNoOutputs_elementProject hobeys
  have hsame : ∀ a ∈ Session.attempts [.compile ["Element.xlsx"] "Convert"] elementProject,
      ¬ a.ChangesKind := by
    rw [Session.attempts, Operation.attempts_compile_single htable, Session.attempts]
    intro a ha
    rw [List.append_nil, List.map_singleton, List.mem_singleton] at ha
    rintro ⟨c, d, -, hget, -⟩
    rw [ha] at hget
    cases hget
  have hlast : elementConverted ∈
      Session.states [.compile ["Element.xlsx"] "Convert"] elementProject :=
    List.mem_cons_of_mem _ (List.mem_singleton.2 rfl)
  have hclean := hiff.2 hsame elementConverted hlast
  exact ⟨hasNoOutputs_elementProject, hobeys, hclean, hfollows elementConverted hlast hclean⟩

/-- The script of the Convert table is still there when the Enum table has been removed. -/
lemma isFile_elementSession :
    (Session.after elementSession elementProject).loaded = elementProject.loaded ∧
      (Session.after elementSession elementProject).manifest.entries = [] ∧
      (Session.after elementSession elementProject).files.IsFile "Dist/Convert/Element.py" := by
  obtain ⟨⟨-, hfirst⟩, -, hsecond⟩ := adds_elementSession
  have hplaces : outputPlaces elementProject.loaded .enum (tableNameOf "Element.xlsx") =
      ["Dist/Enum/Element.py"] := by decide
  have hscript : "Dist/Convert/Element.py" ∈
      outputPlaces elementProject.loaded .convert (tableNameOf "Element.xlsx") := by decide
  have hconverted := hfirst.files _ (hfirst.records.mem_outputs.2 hscript)
  obtain ⟨content, hread⟩ := hsecond.extended.isFile hconverted
  -- removing the Enum table changes its own script and the manifest
  have hexact : elementRevised.IsExact := by
    refine Action.isExact_of_adds (Action.isExact_of_adds ?_ hfirst) hsecond
    exact Project.isExact_of_empty rfl
  have hloaded : elementRevised.loaded = elementProject.loaded :=
    hsecond.loaded.trans hfirst.loaded
  have hplace : elementRevised.loaded.manifest = .text "Dist/ParseResult.json" := by
    rw [hloaded]
    rfl
  have hall : ∀ c ∈ [elementTable .enum], c ∈ elementRevised.manifest.entries := by
    rw [entries_elementRevised]
    exact fun _ hc => hc
  have hkeeps := Operation.keeps_removeTables hexact hplace hall
  rw [after_elementSession]
  refine ⟨hkeeps.loaded.trans hloaded, ?_, content, hkeeps.files.read ?_ hread⟩
  · rw [List.eq_nil_iff_forall_not_mem]
    intro c hc
    rcases hkeeps.entries c hc with hadded | ⟨hmem, hnot⟩
    · exact List.not_mem_nil hadded
    · rw [entries_elementRevised] at hmem
      exact hnot hmem
  · rintro (hmanifest | ⟨c, hadded | hremoved, hl⟩)
    · exact absurd hmanifest (by decide)
    · exact List.not_mem_nil hadded
    · rw [List.mem_singleton.1 hremoved] at hl
      obtain ⟨output, ho, hl⟩ := hl
      rw [hsecond.records.mem_outputs, hfirst.loaded, hplaces, List.mem_singleton] at ho
      rw [ho] at hl
      exact absurd hl (by decide)

/-- A table that has changed its kind leaves its old script behind when it is removed: no entry is
left, and yet the script is there and other tables can refer to the table. -/
theorem elementSession_isOrphan :
    elementProject.HasNoOutputs ∧ elementProject.manifest.entries = [] ∧
      Session.Obeys Operation.IsUnblocked elementSession elementProject ∧
      (Session.after elementSession elementProject).manifest.entries = [] ∧
      (Session.after elementSession elementProject).IsOrphan .convert "Element"
        "Dist/Convert/Element.py" ∧
      (Resolver.ofFiles (Session.after elementSession elementProject).loaded
        (Session.after elementSession elementProject).files (some "Item")).tableExists
          "TbElement" = true := by
  obtain ⟨hloaded, hempty, hfile⟩ := isFile_elementSession
  have hscript : elementProject.loaded.scriptPath? TableKind.convert.name
      (TypeToken.referencedTable "TbElement") = some "Dist/Convert/Element.py" := by decide
  have horphan : (Session.after elementSession elementProject).IsOrphan .convert "Element"
      "Dist/Convert/Element.py" := by
    refine ⟨by decide, ?_, hfile.content?_ne_none, ?_⟩
    · rw [hloaded]
      exact mem_outputPlaces.2 (.inl hscript)
    · rw [hempty]
      exact fun c hc => (List.not_mem_nil hc).elim
  refine ⟨hasNoOutputs_elementProject, rfl, obeys_elementSession, hempty, horphan, ?_⟩
  rw [← hloaded] at hscript
  exact (tableExists_iff (by decide) (by decide) hscript).2 (FileTree.contains_of_isFile hfile)

end SheetCompiler
