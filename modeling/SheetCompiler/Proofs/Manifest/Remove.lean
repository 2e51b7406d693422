import SheetCompiler.Proofs.Session.Operation
import SheetCompiler.Proofs.FileTree.Delete

/-!
# Removing tables

Removing compilations deletes their files one after the other and drops each one when all of its
files are gone. A path that leads to a directory stops it: the compilations in front are dropped and
their files are gone, and what was reached of the one with the directory is gone as well. The file
of the manifest is written at the end in either case, so it records what is left.

Whether there is something to delete is asked before the manifest's file is written. A path through
a directory that is missing leads nowhere then, and may lead to a file when that directory has been
made for the manifest.

Main statement: `remove_cases`.
-/

namespace SheetCompiler

open SheetCompiler.Stateful SheetCompiler.Path SheetCompiler.FileTree

/-! ## The files of a compilation -/

/-- Whether a path is that of a file of a compilation: of one of its outputs, or of the data file of
its table if it is recorded as a Convert table. -/
def Compilation.Names (s : Settings) (c : Compilation) (path : String) : Prop :=
  .text path ∈ c.outputs ∨
    c.isOf TableKind.convert.name = true ∧ c.name.isWhole = true ∧
      s.dataPath? c.name.display = some path

namespace Action

variable {s : Settings} {c : Compilation} {p q r : Project} {place : Json} {places : List Json}
  {f : Failure} {front back : List Compilation} {paths more : Set String}

lemma mem_filesOf (h : filesOf s c = .ok places) (path : String) :
    .text path ∈ places ↔ c.Names s path := by
  unfold filesOf at h
  unfold Compilation.Names
  split at h
  · rename_i hkind
    cases h
    simp [hkind]
  · rename_i hdata _
    cases h
    simp [Settings.dataPath?, hdata, Json.text?]
  · rename_i hkind hdata
    cases hwhole : c.name.isWhole with
    | false =>
      rw [hwhole] at h
      cases h
      simp
    | true =>
    rw [hwhole, if_neg (by decide)] at h
    cases hd : s.dataPath? c.name.display with
    | none =>
      rw [hd] at h
      cases h
    | some data =>
      rw [hd] at h
      dsimp only at h
      split at h
      · -- the data file is an output already
        rename_i hfound
        cases h
        have hmem : .text data ∈ c.outputs := by
          obtain ⟨j, hj, htext⟩ := List.mem_filterMap.1 (List.contains_iff_mem.1 hfound)
          cases j <;> cases htext
          exact hj
        constructor
        · exact Or.inl
        · rintro (hp | ⟨-, -, hp⟩)
          · exact hp
          · cases hp
            exact hmem
      · cases h
        rw [List.mem_append, List.mem_singleton, hkind, Json.text.injEq, Option.some.injEq]
        simp only [true_and, eq_comm]

lemma filesOf_eq_error (h : filesOf s c = .error f) : f = .shape := by
  unfold filesOf at h
  split at h
  · cases h
  · cases h
  · split at h
    · cases h
    · split at h
      · split at h <;> cases h
      · cases h
        rfl

/-- The files of a compilation of texts are texts. -/
lemma filesOf_of_texts (hc : c.IsOfTexts)
    (hdata : s.data = .null ∨ ∃ data, s.data = .text data) :
    ∃ texts : List String, filesOf s c = .ok (texts.map .text) := by
  obtain ⟨kind, name, source, outputs, rfl⟩ := hc
  unfold filesOf
  split
  · exact ⟨outputs, rfl⟩
  · exact ⟨outputs, rfl⟩
  · rename_i _ hnot
    obtain ⟨data, hd⟩ := hdata.resolve_left hnot
    have hwhole : (Compilation.ofTexts kind name source outputs).name.isWhole = true := rfl
    rw [hwhole, if_neg (by decide)]
    simp only [Settings.dataPath?, hd, Json.text?, Option.map_some]
    split
    · exact ⟨outputs, rfl⟩
    · refine ⟨outputs ++ [join data ((Compilation.ofTexts kind name source outputs).name.display
        ++ ".json")], ?_⟩
      rw [List.map_append]
      rfl

/-! ## Deleting one file -/

/-- What has been done to a project when tables have been dropped and the files of paths deleted. -/
structure Discarded (front : List Compilation) (paths : Set String) (p q : Project) : Prop where
  settings : q.settings = p.settings
  loaded : q.loaded = p.loaded
  entries : q.manifest.entries =
    p.manifest.entries.filter fun d => decide (∀ c ∈ front, d.rank ≠ c.rank)
  files : Deleted paths p.files q.files

lemma discarded_nil {files : FileTree} {events : List Event} (h : Deleted paths p.files files) :
    Discarded [] paths p { p with files, events } := by
  refine ⟨rfl, rfl, ?_, h⟩
  rw [List.filter_eq_self.2]
  intro d _
  simp

lemma Discarded.trans (h : Discarded front paths p q) (h' : Discarded back more q r) :
    Discarded (front ++ back) (paths ∪ more) p r := by
  refine ⟨h'.settings.trans h.settings, h'.loaded.trans h.loaded, ?_, h.files.union h'.files⟩
  rw [h'.entries, h.entries, List.filter_filter]
  refine List.filter_congr fun d _ => ?_
  rw [← Bool.decide_and, decide_eq_decide]
  simp only [List.forall_mem_append, and_comm]

/-- Why the files of a compilation are not all deleted: the path of one of them leads to a directory,
or it does not record texts alone. -/
def IsStoppedBy (s : Settings) (files : FileTree) (c : Compilation) (f : Failure) : Prop :=
  (∃ path, c.Names s path ∧ files.isDirectory path = true ∧
      f = .file ⟨.isDirectory, path, none⟩) ∨
    ¬(c.IsOfTexts ∧ (s.data = .null ∨ ∃ data, s.data = .text data)) ∧ ∀ e, f ≠ .file e

lemma removeFile_of_isDirectory {t : FileTree} {path : String} (h : t.isDirectory path = true) :
    (removeFile path).apply t = (.error ⟨.isDirectory, path, none⟩, t) := by
  obtain ⟨hlocate, hnode⟩ := isDirectory_iff.1 h
  have hlookup : t.lookup path = .ok (location path, .directory) := by
    rw [lookup, hlocate]
    simp only [bind, Except.bind, hnode]
  unfold removeFile
  rw [apply_bind, apply_get]
  dsimp only
  rw [hlookup]
  rfl

/-- What is at a path is nothing, a file or a directory. -/
lemma contains_or (t : FileTree) (path : String) :
    t.contains path = false ∨ t.IsFile path ∨ t.isDirectory path = true := by
  cases hc : t.contains path with
  | false => exact .inl rfl
  | true =>
    rcases contains_cases hc with ⟨content, hlookup, -⟩ | ⟨hlookup, -⟩
    · exact .inr (.inl ⟨content, read_eq_ok_iff.2 (lookup_eq_file_iff.1 hlookup)⟩)
    · refine .inr (.inr ?_)
      rw [isDirectory, hlookup]

/-- A file is deleted if it is there, a directory is refused. -/
lemma apply_deleteFile (path : String) (p : Project) :
    (p.files.isDirectory path = false ∧ ∃ q, (deleteFile (.text path)).apply p = (.ok (), q) ∧
        Discarded [] {path} p q) ∨
      p.files.isDirectory path = true ∧
        (deleteFile (.text path)).apply p = (.error (.file ⟨.isDirectory, path, none⟩), p) := by
  have hrun : (deleteFile (.text path)).apply p =
      if p.files.contains path = true then
        (onFiles (removeFile path) >>= fun _ => report (.fileDeleted path)).apply p
      else (.ok (), p) := by
    unfold deleteFile
    rw [apply_bind, apply_get]
    dsimp only
    rw [containsAt]
    cases p.files.contains path <;> rfl
  rw [hrun]
  rcases contains_or p.files path with hnone | hfile | hdirectory
  · have hdeleted := deleted_of_contains_eq_false hnone
    rw [if_neg (by simp [hnone])]
    refine .inl ⟨hdeleted.isDirectory_eq_false rfl, p, rfl, ?_⟩
    exact discarded_nil hdeleted
  · have hdeleted := deleted_of_isFile hfile
    obtain ⟨-, hremove⟩ := removeFile_of_isFile hfile
    have hdone : (onFiles (removeFile path)).apply p =
        (.ok (), { p with files := p.files.erase (location path) }) := by
      rw [apply_onFiles, hremove]
      rfl
    rw [if_pos (contains_of_isFile hfile), apply_bind_of_ok hdone]
    refine .inl ⟨hdeleted.isDirectory_eq_false rfl, _, rfl, ?_⟩
    exact discarded_nil hdeleted
  · have hrefused : (onFiles (removeFile path)).apply p =
        (.error (.file ⟨.isDirectory, path, none⟩), p) := by
      rw [apply_onFiles, removeFile_of_isDirectory hdirectory]
      rfl
    have hthere : p.files.contains path = true := by
      obtain ⟨hlocate, hnode⟩ := isDirectory_iff.1 hdirectory
      rw [contains, lookup, hlocate]
      simp only [bind, Except.bind, hnode]
      rfl
    rw [if_pos hthere, apply_bind_of_error hrefused]
    exact .inr ⟨hdirectory, rfl⟩

/-- What is no text is no path: it is passed over, or refused. -/
lemma apply_deleteFile_of_not_text (h : place.text? = none) (p : Project) :
    (deleteFile place).apply p = (.ok (), p) ∨
      ∃ f, (deleteFile place).apply p = (.error f, p) ∧ ∀ e, f ≠ .file e := by
  have hrun : (deleteFile place).apply p =
      match p.files.containsAt place with
      | .ok true => (.error .shape, p)
      | .ok false => (.ok (), p)
      | .error f => (.error f, p) := by
    unfold deleteFile
    rw [apply_bind, apply_get]
    dsimp only
    rcases p.files.containsAt place with f | _ | _
    · rfl
    · rfl
    · cases place <;> first | rfl | cases h
  rw [hrun]
  cases hc : p.files.containsAt place with
  | ok there =>
    cases there with
    | false => exact .inl rfl
    | true => exact .inr ⟨_, rfl, fun e he => by cases he⟩
  | error f =>
    refine .inr ⟨f, rfl, fun e he => ?_⟩
    subst he
    cases place with
    | text path => cases h
    | integer i =>
      rw [containsAt] at hc
      split at hc
      · cases hc
      · split at hc <;> cases hc
    | _ => cases hc

lemma discarded_of_deleteFile (h : (deleteFile place).apply p = (.ok (), q)) :
    Discarded [] {path | .text path = place} p q := by
  cases hplace : place.text? with
  | none =>
    have hnone : {path | Json.text path = place} = ∅ := by
      refine Set.eq_empty_of_forall_notMem fun path (hp : Json.text path = place) => ?_
      rw [← hp] at hplace
      cases hplace
    rw [hnone]
    rcases apply_deleteFile_of_not_text hplace p with hdone | ⟨f, hf, -⟩
    · rw [h] at hdone
      cases hdone
      exact discarded_nil (deleted_empty _)
    · rw [h] at hf
      cases hf
  | some path =>
    cases place <;> cases hplace
    have hone : {other | Json.text other = .text path} = {path} := by
      ext other
      simp
    rw [hone]
    rcases apply_deleteFile path p with ⟨-, u, hu, hdiscarded⟩ | ⟨-, hf⟩
    · rw [h] at hu
      cases hu
      exact hdiscarded
    · rw [h] at hf
      cases hf

lemma deleteFile_eq_error (h : (deleteFile place).apply p = (.error f, q)) :
    q = p ∧ ((∃ path, place = .text path ∧ p.files.isDirectory path = true ∧
        f = .file ⟨.isDirectory, path, none⟩) ∨ place.text? = none ∧ ∀ e, f ≠ .file e) := by
  cases hplace : place.text? with
  | none =>
    rcases apply_deleteFile_of_not_text hplace p with hdone | ⟨g, hg, hne⟩
    · rw [h] at hdone
      cases hdone
    · rw [h] at hg
      cases hg
      exact ⟨rfl, .inr ⟨rfl, hne⟩⟩
  | some path =>
    cases place <;> cases hplace
    rcases apply_deleteFile path p with ⟨-, u, hu, -⟩ | ⟨hdirectory, hf⟩
    · rw [h] at hu
      cases hu
    · rw [h] at hf
      cases hf
      exact ⟨rfl, .inl ⟨path, rfl, hdirectory, rfl⟩⟩

/-! ## Deleting the files of compilations -/

lemma discarded_of_forM_deleteFile (h : (places.forM deleteFile).apply p = (.ok (), q)) :
    Discarded [] {path | .text path ∈ places} p q := by
  induction places generalizing p with
  | nil =>
    cases h
    have hnone : {path | Json.text path ∈ []} = ∅ :=
      Set.eq_empty_of_forall_notMem fun _ => List.not_mem_nil
    rw [hnone]
    exact discarded_nil (deleted_empty _)
  | cons place places ih =>
    have hstep : (deleteFile place >>= fun _ => places.forM deleteFile).apply p = (.ok (), q) := h
    obtain ⟨_, u, hfirst, hrest⟩ := apply_bind_eq_ok.1 hstep
    have hall : {path | Json.text path ∈ place :: places} =
        {path | .text path = place} ∪ {path | .text path ∈ places} := by
      ext path
      exact List.mem_cons
    rw [hall]
    exact (discarded_of_deleteFile hfirst).trans (ih hrest)

/-- A compilation is dropped with all of its files. -/
lemma discarded_of_discard (h : (discard c).apply p = (.ok (), q)) :
    Discarded [c] {path | c.Names p.loaded path} p q := by
  unfold discard at h
  rw [apply_bind, apply_get] at h
  dsimp only at h
  obtain ⟨places, u, hplaces, h⟩ := apply_bind_eq_ok.1 h
  obtain ⟨_, v, hdelete, hdrop⟩ := apply_bind_eq_ok.1 h
  cases hf : filesOf p.loaded c with
  | error f =>
    rw [hf] at hplaces
    cases hplaces
  | ok found =>
    rw [hf] at hplaces
    cases hplaces
    have hnamed : {path | Json.text path ∈ places} = {path | c.Names p.loaded path} := by
      ext path
      exact mem_filesOf hf path
    have hfiles := discarded_of_forM_deleteFile hdelete
    rw [hnamed] at hfiles
    by_cases hkey : c.name.isKey = true
    · rw [if_pos hkey] at hdrop
      cases hdrop
      refine ⟨hfiles.settings, hfiles.loaded, ?_, hfiles.files⟩
      have hsame : v.manifest.entries = p.manifest.entries := by
        rw [hfiles.entries, List.filter_eq_self.2]
        intro d _
        simp
      show v.manifest.entries.filter _ = _
      rw [hsame]
      refine List.filter_congr fun d _ => ?_
      rw [decide_eq_decide, List.forall_mem_singleton]
      exact Iff.rfl
    · rw [if_neg hkey] at hdrop
      cases hdrop

/-- A compilation that is not dropped is stopped by one of its files, or it does not record texts. -/
lemma discard_eq_error (h : (discard c).apply p = (.error f, q)) :
    IsStoppedBy p.loaded p.files c f ∧
      ∃ more ⊆ {path | c.Names p.loaded path}, Discarded [] more p q := by
  unfold discard at h
  rw [apply_bind, apply_get] at h
  dsimp only at h
  cases hf : filesOf p.loaded c with
  | error g =>
    have hshape := filesOf_eq_error hf
    rw [hf] at h
    cases h
    refine ⟨.inr ⟨?_, fun e he => ?_⟩, ∅, Set.empty_subset _, discarded_nil (deleted_empty _)⟩
    · rintro ⟨htexts, hdata⟩
      obtain ⟨texts, hok⟩ := filesOf_of_texts htexts hdata
      rw [hf] at hok
      cases hok
    · rw [hshape] at he
      cases he
  | ok found =>
    rw [hf] at h
    have hrun : (found.forM deleteFile >>= fun _ =>
        if c.name.isKey then modify fun p => { p with manifest := p.manifest.erase c.name }
        else throw .shape).apply p = (.error f, q) := h
    rcases apply_bind_eq_error.1 hrun with hdelete | ⟨_, u, hdelete, hdrop⟩
    · obtain ⟨front, place, back, u, rfl, hfront, hplace⟩ := exists_of_forM_eq_error hdelete
      have hgone := discarded_of_forM_deleteFile hfront
      obtain ⟨rfl, hstopped⟩ := deleteFile_eq_error hplace
      refine ⟨?_, _, fun path hp => ?_, hgone⟩
      · rcases hstopped with ⟨path, rfl, hdirectory, rfl⟩ | ⟨hnone, hne⟩
        · refine .inl ⟨path, (mem_filesOf hf path).1 (by simp), ?_, rfl⟩
          rw [← hgone.files.shrinks.isDirectory_eq, hdirectory]
        · refine .inr ⟨?_, hne⟩
          rintro ⟨htexts, hdata⟩
          obtain ⟨texts, hok⟩ := filesOf_of_texts htexts hdata
          rw [hf, Except.ok.injEq] at hok
          have hmem : place ∈ texts.map Json.text := hok ▸ by simp
          obtain ⟨text, -, rfl⟩ := List.mem_map.1 hmem
          cases hnone
      · exact (mem_filesOf hf path).1 (List.mem_append_left _ hp)
    · have hgone := discarded_of_forM_deleteFile hdelete
      by_cases hkey : c.name.isKey = true
      · rw [if_pos hkey] at hdrop
        cases hdrop
      · rw [if_neg hkey] at hdrop
        cases hdrop
        refine ⟨.inr ⟨fun htexts => hkey htexts.1.isKey_name, fun e he => ?_⟩, _, fun path hp => ?_,
          hgone⟩
        · cases he
        · exact (mem_filesOf hf path).1 hp

/-- Compilations are dropped with all of their files, one after the other. -/
lemma discarded_of_forM_discard {cs : List Compilation}
    (h : (cs.forM discard).apply p = (.ok (), q)) :
    Discarded cs {path | ∃ c ∈ cs, c.Names p.loaded path} p q := by
  induction cs generalizing p with
  | nil =>
    cases h
    have hnone : {path | ∃ c ∈ ([] : List Compilation), c.Names q.loaded path} = ∅ := by simp
    rw [hnone]
    exact discarded_nil (deleted_empty _)
  | cons c cs ih =>
    have hstep : (discard c >>= fun _ => cs.forM discard).apply p = (.ok (), q) := h
    obtain ⟨_, u, hfirst, hrest⟩ := apply_bind_eq_ok.1 hstep
    have hdropped := discarded_of_discard hfirst
    have hothers := ih hrest
    rw [hdropped.loaded] at hothers
    have hall : {path | ∃ d ∈ c :: cs, d.Names p.loaded path} =
        {path | c.Names p.loaded path} ∪ {path | ∃ d ∈ cs, d.Names p.loaded path} := by
      ext path
      exact List.exists_mem_cons_iff _ c cs
    rw [hall]
    exact hdropped.trans hothers

/-! ## Removing compilations -/

/-- Names that can be brought into order can be without some of them. -/
lemma isOrdered_of_subset {m m' : Manifest} (h : m.isOrdered = true)
    (hsub : ∀ c ∈ m'.entries, c ∈ m.entries) : m'.isOrdered = true := by
  have hall := List.all_eq_true.1 h
  -- every name that is left is of the kind of the first one there was
  have hkind : ∀ name ∈ m'.names, name.rank.kind =
      ((m.names.head?.map Json.rank).map Json.Rank.kind).getD 0 := by
    intro name hname
    obtain ⟨c, hc, rfl⟩ := List.mem_map.1 hname
    exact of_decide_eq_true (hall c.name (List.mem_map_of_mem (hsub c hc)))
  refine List.all_eq_true.2 fun name hname => decide_eq_true ?_
  cases hn : m'.names with
  | nil =>
    rw [hn] at hname
    cases hname
  | cons first rest =>
    rw [hkind name hname, ← hkind first (hn ▸ List.mem_cons_self)]
    rfl

/-- A manifest that can be written can be without some of its entries. -/
lemma isWritable_of_subset {m m' : Manifest} (h : m.isWritable = true)
    (hsub : ∀ c ∈ m'.entries, c ∈ m.entries) : m'.isWritable = true := by
  obtain ⟨hordered, hwhole⟩ := Bool.and_eq_true_iff.1 h
  exact Bool.and_eq_true_iff.2 ⟨isOrdered_of_subset hordered hsub,
    Manifest.isWhole_toJson.2 fun c hc => Manifest.isWhole_toJson.1 hwhole c (hsub c hc)⟩

/-- What is left is recorded in the file of the manifest. -/
lemma persist_of_discarded {place : String} (hplace : p.loaded.manifest = .text place)
    (hwritable : p.manifest.isWritable = true) (hadmits : p.files.Admits place)
    (h : Discarded front paths p q)
    (hapart : ∀ path ∈ paths, location path ≠ location place) :
    ∃ files, persist.apply q = (.ok (), { q with files }) ∧
      files.readText place = .ok q.manifest.print ∧ DeletedBut place paths p.files files := by
  obtain ⟨files, hwrite, hleft⟩ := h.files.write hadmits hapart q.manifest.print
  have hrest : q.manifest.isWritable = true := by
    refine isWritable_of_subset hwritable fun c hc => ?_
    rw [h.entries] at hc
    exact (List.mem_filter.1 hc).1
  have hplace' : q.loaded.manifest = .text place := by rw [h.loaded, hplace]
  exact ⟨files, persist_of_isWritable hrest hplace' hwrite, readText_of_writeAtomic hwrite, hleft⟩

/-- Removing compilations, none of whose files is that of the manifest, drops them with their files.
If it fails, then at one of them: those in front are dropped with their files, and of the files of
others only some of the one that it fails at are deleted. The file of the manifest records what is
left in either case. -/
theorem remove_cases {compilations : List Compilation} {place : String}
    {result : Except Failure Unit} (hplace : p.loaded.manifest = .text place)
    (hwritable : p.manifest.isWritable = true) (hadmits : p.files.Admits place)
    (hapart : ∀ c ∈ compilations, ∀ path, c.Names p.loaded path → location path ≠ location place)
    (h : (remove compilations).apply p = (result, q)) :
    q.files.readText place = .ok q.manifest.print ∧
      ((result = .ok () ∧
          q.manifest.entries =
            p.manifest.entries.filter (fun d => decide (∀ c ∈ compilations, d.rank ≠ c.rank)) ∧
          DeletedBut place {path | ∃ c ∈ compilations, c.Names p.loaded path} p.files q.files) ∨
        ∃ front c back f more, compilations = front ++ c :: back ∧ result = .error f ∧
          IsStoppedBy p.loaded p.files c f ∧
          q.manifest.entries =
            p.manifest.entries.filter (fun d => decide (∀ c ∈ front, d.rank ≠ c.rank)) ∧
          more ⊆ {path | c.Names p.loaded path} ∧
          DeletedBut place ({path | ∃ d ∈ front, d.Names p.loaded path} ∪ more)
            p.files q.files) := by
  rw [remove, apply_always] at h
  rcases hrun : (compilations.forM discard).apply p with ⟨f | _, u⟩
  · obtain ⟨front, c, back, v, rfl, hfront, hc⟩ := exists_of_forM_eq_error hrun
    have hdropped := discarded_of_forM_discard hfront
    obtain ⟨hstopped, more, hmore, hsome⟩ := discard_eq_error hc
    rw [hdropped.loaded] at hstopped hmore
    have hboth := hdropped.trans hsome
    rw [List.append_nil] at hboth
    have hfree : ∀ path ∈ {path | ∃ d ∈ front, d.Names p.loaded path} ∪ more,
        location path ≠ location place := by
      rintro path (⟨d, hd, hnames⟩ | hpath)
      · exact hapart d (by simp [hd]) path hnames
      · exact hapart c (by simp) path (hmore hpath)
    obtain ⟨files, hpersist, hread, hleft⟩ :=
      persist_of_discarded hplace hwritable hadmits hboth hfree
    rw [hrun, hpersist] at h
    cases h
    refine ⟨hread, .inr ⟨front, c, back, f, more, rfl, rfl, ?_, hboth.entries, hmore, hleft⟩⟩
    unfold IsStoppedBy at hstopped ⊢
    simpa only [hdropped.files.shrinks.isDirectory_eq] using hstopped
  · have hdropped := discarded_of_forM_discard hrun
    have hfree : ∀ path ∈ {path | ∃ c ∈ compilations, c.Names p.loaded path},
        location path ≠ location place := by
      rintro path ⟨c, hc, hnames⟩
      exact hapart c hc path hnames
    obtain ⟨files, hpersist, hread, hleft⟩ :=
      persist_of_discarded hplace hwritable hadmits hdropped hfree
    rw [hrun, hpersist] at h
    cases h
    exact ⟨hread, .inl ⟨rfl, hdropped.entries, hleft⟩⟩

end Action

/-- A table of enumerations with one script. -/
def scriptTable (name : String) : Compilation :=
  .ofTexts "Enum" name (name ++ ".xlsx") ["Dist/Enum/" ++ name ++ ".py"]

/-- A project of two such tables, with a directory in the place of the script of the second one. -/
def hollowProject : Project :=
  { Project.ofFiles (.ofDirectories "Dist" "Resources")
      ⟨[(["Dist"], .directory), (["Dist", "Enum"], .directory),
        (["Dist", "Enum", "A.py"], .file (.text "")), (["Dist", "Enum", "B.py"], .directory)]⟩
      "Resources" with
    manifest := .ofList [scriptTable "A", scriptTable "B"] }

/-- The second table stays in the manifest and in its file. -/
theorem hollowProject_remove :
    ∃ q, (Action.remove [scriptTable "A", scriptTable "B"]).apply hollowProject =
        (.error (.file ⟨.isDirectory, "Dist/Enum/B.py", none⟩), q) ∧
      q.files.readText "Dist/ParseResult.json" = .ok q.manifest.print ∧
      q.manifest.names.filterMap Json.text? = ["B"] ∧
      q.files.contains "Dist/Enum/A.py" = false := by
  have hnames : ∀ c ∈ [scriptTable "A", scriptTable "B"], ∀ path,
      c.Names hollowProject.loaded path → path = "Dist/Enum/A.py" ∨ path = "Dist/Enum/B.py" := by
    have hone (name path : String) (h : (scriptTable name).Names hollowProject.loaded path) :
        path = "Dist/Enum/" ++ name ++ ".py" := by
      rcases h with houtput | ⟨hkind, -⟩
      · cases List.mem_singleton.1 houtput
        rfl
      · cases hkind
    intro c hc path hpath
    rcases List.mem_cons.1 hc with rfl | hc
    · exact .inl (hone "A" path hpath)
    · rw [List.mem_singleton.1 hc] at hpath
      exact .inr (hone "B" path hpath)
  have hapart : ∀ c ∈ [scriptTable "A", scriptTable "B"], ∀ path,
      c.Names hollowProject.loaded path → location path ≠ location "Dist/ParseResult.json" := by
    intro c hc path hpath
    rcases hnames c hc path hpath with rfl | rfl <;> decide
  have hrefused : ((Action.remove [scriptTable "A", scriptTable "B"]).apply
    hollowProject).1.isOk = false := by decide +kernel
  have hleft : ((Action.remove [scriptTable "A", scriptTable "B"]).apply
      hollowProject).2.manifest.names.filterMap Json.text? = ["B"] := by decide +kernel
  have hgone : ((Action.remove [scriptTable "A", scriptTable "B"]).apply
    hollowProject).2.files.contains "Dist/Enum/A.py" = false := by decide +kernel
  rcases hrun : (Action.remove [scriptTable "A", scriptTable "B"]).apply hollowProject with
    ⟨result, q⟩
  rw [hrun] at hrefused hleft hgone
  obtain ⟨hread, hcases⟩ :=
    Action.remove_cases rfl (by decide) (by decide +kernel) hapart hrun
  refine ⟨q, ?_, hread, hleft, hgone⟩
  rcases hcases with ⟨rfl, -⟩ | ⟨front, c, back, f, more, hsplit, rfl, hstopped, -⟩
  · cases hrefused
  -- both record texts, and there is a file in the place of the first script
  have hc : c ∈ [scriptTable "A", scriptTable "B"] := hsplit ▸ by simp
  have htexts : c.IsOfTexts := by
    rcases List.mem_cons.1 hc with rfl | hc
    · exact ⟨_, _, _, _, rfl⟩
    · rw [List.mem_singleton.1 hc]
      exact ⟨_, _, _, _, rfl⟩
  rcases hstopped with ⟨path, hpath, hdirectory, rfl⟩ | ⟨hnot, -⟩
  · rcases hnames c hc path hpath with rfl | rfl
    · have hfile : hollowProject.files.isDirectory "Dist/Enum/A.py" = false := by decide +kernel
      rw [hfile] at hdirectory
      cases hdirectory
    · rfl
  · exact absurd ⟨htexts, .inr ⟨"Resources", rfl⟩⟩ hnot

/-- A table whose output is named through the directory of the manifest's file. -/
def strayTable : Compilation := .ofTexts "Enum" "Item" "Item.xlsx" ["Dist/../keep.txt"]

/-- A project without its directories, and with another file. -/
def strayProject : Project :=
  .ofFiles (.ofDirectories "Dist" "Resources") ⟨[(["keep.txt"], .file (.text "x"))]⟩ "Resources"

/-- The output leads to the other file when the table has been removed. -/
theorem strayTable_remains :
    strayProject.loaded.manifest = .text "Dist/ParseResult.json" ∧
      strayProject.manifest.isWritable = true ∧
      strayProject.files.Admits "Dist/ParseResult.json" ∧
      (∀ path, strayTable.Names strayProject.loaded path →
        location path ≠ location "Dist/ParseResult.json") ∧
      strayTable.Names strayProject.loaded "Dist/../keep.txt" ∧
      ((Action.remove [strayTable]).apply strayProject).1.isOk = true ∧
      ((Action.remove [strayTable]).apply strayProject).2.files.readText "Dist/../keep.txt" =
        .ok "x" := by
  refine ⟨rfl, by decide, by decide +kernel, ?_, .inl List.mem_cons_self, by decide +kernel,
    by decide +kernel⟩
  rintro path (houtput | ⟨hkind, -⟩)
  · cases List.mem_singleton.1 houtput
    decide
  · cases hkind

end SheetCompiler
