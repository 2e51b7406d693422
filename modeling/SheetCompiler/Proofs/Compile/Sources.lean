import SheetCompiler.Proofs.Compile.Gating

/-!
# What tables are compiled from

Compiling reads workbooks and templates, and writes neither: its outputs have other names than
templates, and no write makes a workbook. So as long as the manifest is no template, whatever
compiles at any time compiles to what its sources say (`Compiled.IsFrom`), which is one outcome
(`isFrom_unique`). A table that is compiled again from the same sources is written as it stands.

Main statements:

* `keepsSources_compileNext`: an attempt keeps what tables are compiled from;
* `compiling_stands`: what compiling a workbook writes;
* `compiling_again`: compiling it again changes no file, whether or not it succeeds.
-/

namespace SheetCompiler

open SheetCompiler.Stateful SheetCompiler.Path

/-! ## Templates -/

/-- The locations of the templates that settings name. -/
def Settings.templateLocations (s : Settings) : Set Location :=
  {l | ∃ directory kind name, s.templates = some (.text directory) ∧
    name ∈ Pairs.names (Template.shipped kind) ∧
      location (join (join directory kind.name) (name ++ ".txt")) = l}

/-- Templates are texts, and outputs are not. -/
lemma templateName_ne (name table : String) :
    table ++ ".py" ≠ name ++ ".txt" ∧ table ++ ".json" ≠ name ++ ".txt" := by
  have hlast {a b : String} (h : a = b) : a.toList.getLast? = b.toList.getLast? := by rw [h]
  have htext : ".txt".toList.getLast? = some 't' := rfl
  have hscript : ".py".toList.getLast? = some 'y' := rfl
  have hdata : ".json".toList.getLast? = some 'n' := rfl
  constructor
  · intro h
    have hl := hlast h
    simp only [String.toList_append, List.getLast?_append, hscript, htext, Option.some_or] at hl
    exact absurd hl (by decide)
  · intro h
    have hl := hlast h
    simp only [String.toList_append, List.getLast?_append, hdata, htext, Option.some_or] at hl
    exact absurd hl (by decide)

/-- No output is a template. -/
lemma output_notMem_templateLocations {s : Settings} {kind : TableKind} {table output : String}
    (hident : Text.isIdentifier table = true) (ho : output ∈ outputPlaces s kind table) :
    location output ∉ s.templateLocations := by
  have hnames : ∀ other, ∀ name ∈ Pairs.names (Template.shipped other),
      '/' ∉ (name ++ ".txt").toList ∧ name ++ ".txt" ≠ "" ∧ name ++ ".txt" ≠ "." ∧
        name ++ ".txt" ≠ ".." := by
    intro other
    cases other <;> decide
  rintro ⟨directory, other, name, -, hname, hl⟩
  obtain ⟨h₁, h₂, h₃, h₄⟩ := hnames other name hname
  rw [location_join _ h₁ h₂ h₃ h₄] at hl
  obtain ⟨hscript, hdata⟩ := templateName_ne name table
  rcases mem_outputPlaces.1 ho with hp | ⟨-, hp⟩
  · obtain ⟨_, -, hplace⟩ := location_scriptPath hident hp
    rw [hplace] at hl
    exact hscript (List.cons.inj (List.append_inj' hl rfl).2).1.symm
  · obtain ⟨_, -, hplace⟩ := location_dataPath hident hp
    rw [hplace] at hl
    exact hdata (List.cons.inj (List.append_inj' hl rfl).2).1.symm

/-! ## Sources -/

/-- What tables are compiled from is as it was: no workbook is new, nor any other file but texts, and
templates are the same. -/
structure FileTree.KeepsSources (s : Settings) (t u : FileTree) : Prop where
  workbooks : ∀ l content, (∀ text, content ≠ .text text) → u.node? l = some (.file content) →
    t.node? l = some (.file content)
  templates : ∀ l ∈ s.templateLocations, u.content? l = t.content? l

section

variable {s : Settings} {kind : TableKind} {base t u v : FileTree} {path : String}

lemma FileTree.KeepsSources.refl (s : Settings) (t : FileTree) : t.KeepsSources s t :=
  ⟨fun _ _ _ h => h, fun _ _ => rfl⟩

lemma FileTree.KeepsSources.trans (t u v : FileTree) (h : t.KeepsSources s u)
    (h' : u.KeepsSources s v) : t.KeepsSources s v :=
  ⟨fun l content hne hl => h.workbooks l content hne (h'.workbooks l content hne hl),
    fun l hl => (h'.templates l hl).trans (h.templates l hl)⟩

lemma FileTree.IsWriteTo.keepsSources (hw : FileTree.IsWriteTo path t u)
    (hl : location path ∉ s.templateLocations) : t.KeepsSources s u := by
  refine ⟨fun l content hne h => hw.node?_of_ne_text hne h, fun l hm => ?_⟩
  have hne : l ∉ ({location path} : Set Location) := fun he => hl (he ▸ hm)
  exact hw.changesAt.files l hne

lemma keepsSources_of_writeAtomic {text : String} {r : Except FileError Unit}
    (hl : location path ∉ s.templateLocations)
    (hw : (FileTree.writeAtomic path text).apply t = (r, u)) : t.KeepsSources s u :=
  (FileTree.isWriteTo_of_writeAtomic hw).keepsSources hl

/-- Where no file changes, sources do not. -/
lemma FileTree.ChangesAt.keepsSources (h : t.ChangesAt ∅ u) : t.KeepsSources s u := by
  refine ⟨fun l content _ hl => ?_, fun l _ => h.files l (Set.notMem_empty _)⟩
  have hsame := h.files l (Set.notMem_empty _)
  rw [FileTree.content?_eq_some_iff.2 hl] at hsame
  exact FileTree.content?_eq_some_iff.1 hsame.symm

/-- Deleting files makes no workbook. -/
lemma FileTree.ShrinksAt.keepsSources {locs : Set Location} (h : t.ShrinksAt locs u)
    (hl : ∀ l ∈ s.templateLocations, l ∉ locs) : t.KeepsSources s u := by
  refine ⟨fun l content _ hn => ?_, fun l hm => h.changesAt.files l (hl l hm)⟩
  rcases h l with hsame | ⟨-, -, hgone⟩
  · rw [← hsame, hn]
  · rw [hgone] at hn
    cases hn

lemma readText_unique {a b : String} (h : u.content? (location path) = t.content? (location path))
    (ht : t.readText path = .ok a) (hu : u.readText path = .ok b) : a = b := by
  obtain ⟨content, hread⟩ := FileTree.isFile_of_readText ht
  obtain ⟨content', hread'⟩ := FileTree.isFile_of_readText hu
  rw [FileTree.content?_eq_some_iff.2 (FileTree.read_eq_ok_iff.1 hread).2.1,
    FileTree.content?_eq_some_iff.2 (FileTree.read_eq_ok_iff.1 hread').2.1,
    Option.some.injEq] at h
  rw [FileTree.readText, hread] at ht
  rw [FileTree.readText, hread', h] at hu
  cases content <;> exact Except.ok.inj (ht.symm.trans hu)

/-- Templates that can be read are the same templates. -/
lemma ofSettings_unique (h : base.KeepsSources s t) (h' : base.KeepsSources s u)
    {named named' : Pairs String} (ht : Template.ofSettings s t kind = .ok named)
    (hu : Template.ofSettings s u kind = .ok named') : named = named' := by
  have heach {directory : String} (hs : s.templates = some (.text directory))
      {names : List String} (hnames : ∀ name ∈ names, name ∈ Pairs.names (Template.shipped kind))
      {texts texts' : List (String × String)}
      (hr : Template.readEach t directory kind.name names = .ok texts)
      (hr' : Template.readEach u directory kind.name names = .ok texts') : texts = texts' := by
    -- name by name: what is read at the place of a template has stayed the same
    induction names generalizing texts texts' with
    | nil => exact Except.ok.inj (hr.symm.trans hr')
    | cons name names ih =>
      obtain ⟨text, hfirst, hr⟩ := except_bind_eq_ok.1 hr
      obtain ⟨rest, hrest, hr⟩ := except_bind_eq_ok.1 hr
      obtain ⟨text', hfirst', hr'⟩ := except_bind_eq_ok.1 hr'
      obtain ⟨rest', hrest', hr'⟩ := except_bind_eq_ok.1 hr'
      cases hr
      cases hr'
      have hl : location (join (join directory kind.name) (name ++ ".txt")) ∈
          s.templateLocations := ⟨directory, kind, name, hs, hnames name (by simp), rfl⟩
      have hsame := (h'.templates _ hl).trans (h.templates _ hl).symm
      rw [readText_unique hsame hfirst hfirst',
        ih (fun other ho => hnames other (by simp [ho])) hrest hrest']
  unfold Template.ofSettings at ht hu
  split at ht
  · rename_i hs
    rw [hs] at hu
    exact Except.ok.inj (ht.symm.trans hu)
  · rename_i directory hs
    rw [hs] at hu
    dsimp only at hu
    rw [mapError_eq_ok, Template.readNamed] at ht hu
    cases hr : Template.readEach t directory kind.name (Pairs.names (Template.shipped kind)) with
    | error e => rw [hr] at ht; cases ht
    | ok texts =>
      cases hr' : Template.readEach u directory kind.name
          (Pairs.names (Template.shipped kind)) with
      | error e => rw [hr'] at hu; cases hu
      | ok texts' =>
        rw [hr] at ht
        rw [hr', ← heach hs (fun _ hn => hn) hr hr'] at hu
        exact Except.ok.inj (ht.symm.trans hu)
  · cases ht

/-- A workbook that can be read is the same workbook. -/
lemma sheetAt_unique (h : base.KeepsSources s t) (h' : base.KeepsSources s u)
    {sheet sheet' : Sheet} (ht : sheetAt path t = .ok sheet) (hu : sheetAt path u = .ok sheet') :
    sheet = sheet' := by
  obtain ⟨cells, hread, rfl⟩ := read_of_sheetAt ht
  obtain ⟨cells', hread', rfl⟩ := read_of_sheetAt hu
  -- both workbooks are the one that stands there in the first tree
  have hnode := h.workbooks _ (.workbook cells) nofun (FileTree.read_eq_ok_iff.1 hread).2.1
  have hnode' := h'.workbooks _ (.workbook cells') nofun (FileTree.read_eq_ok_iff.1 hread').2.1
  rw [hnode, Option.some.injEq, Entry.file.injEq, Content.workbook.injEq] at hnode'
  rw [hnode']

/-! ## Outcomes -/

/-- What the workbook at a path compiles to as the table of a kind, at some time at which workbooks
and templates are those of a tree. -/
def Compiled.IsFrom (c : Compiled) (s : Settings) (kind : TableKind) (path : String)
    (base : FileTree) : Prop :=
  ∃ files sheet, base.KeepsSources s files ∧ sheetAt path files = .ok sheet ∧
    compiledIn s kind (tableNameOf path) sheet files = .ok c

/-- There is one outcome. -/
theorem isFrom_unique {c c' : Compiled} (h : c.IsFrom s kind path base)
    (h' : c'.IsFrom s kind path base) : c = c' := by
  obtain ⟨t, sheet, ht, hsheet, hc⟩ := h
  obtain ⟨u, sheet', hu, hsheet', hc'⟩ := h'
  obtain rfl := sheetAt_unique ht hu hsheet hsheet'
  exact compiledIn_unique (fun _ _ hn hn' => ofSettings_unique ht hu hn hn') hc hc'

lemma Compiled.IsFrom.of_keepsSources {c : Compiled} (h : c.IsFrom s kind path t)
    (hb : base.KeepsSources s t) : c.IsFrom s kind path base := by
  obtain ⟨files, sheet, hfiles, hsheet, hc⟩ := h
  exact ⟨files, sheet, FileTree.KeepsSources.trans _ _ _ hb hfiles, hsheet, hc⟩

/-- The files of a table stand while nothing changes in their places. -/
lemma Compiled.StandsIn.of_changesAt {table : String} {c : Compiled} {locs : Set Location}
    (h : c.StandsIn s kind table t) (hc : t.ChangesAt locs u)
    (hl : ∀ output ∈ outputPlaces s kind table, location output ∉ locs) :
    c.StandsIn s kind table u := by
  refine ⟨fun path hp => ?_, fun hkind path hp => ?_⟩
  · exact hc.read (hl path (mem_outputPlaces.2 (.inl hp))) (h.script path hp)
  · obtain ⟨rows, hrows, hread⟩ := h.data hkind path hp
    exact ⟨rows, hrows, hc.read (hl path (mem_outputPlaces.2 (.inr ⟨hkind, hp⟩))) hread⟩

/-! ## Compiling -/

/-- Compiling keeps what tables are compiled from. -/
lemma keepsSources_compiling (s : Settings) (label path : String) (files : FileTree) :
    files.KeepsSources s ((compiling s label path).apply files).2 :=
  keeps_compiling (FileTree.KeepsSources.refl s) FileTree.KeepsSources.trans
    (fun _ _ hident _ ho => Filing.keeps_write (FileTree.KeepsSources.refl s)
      FileTree.KeepsSources.trans fun _ _ hw =>
        hw.keepsSources (output_notMem_templateLocations hident ho)) files

/-- Recording the manifest keeps what tables are compiled from, unless the manifest is a
template. -/
lemma keepsSources_recording {place : String} (hplace : s.manifest = .text place)
    (hfixed : location place ∉ s.templateLocations) (m : Manifest) (files : FileTree) :
    files.KeepsSources s ((recording s m).apply files).2 := by
  refine keeps_recording (FileTree.KeepsSources.refl s) (fun other hother _ _ hw => ?_) files
  rw [hplace] at hother
  cases hother
  exact hw.keepsSources hfixed

/-- An attempt keeps what tables are compiled from, unless the manifest is a template. -/
theorem keepsSources_compileNext {place label : String} {p : Project}
    (hplace : p.loaded.manifest = .text place)
    (hfixed : location place ∉ p.loaded.templateLocations) :
    p.files.KeepsSources p.loaded
      ((Action.compileNext p.loaded label path).apply p).2.files := by
  have hkept := keepsSources_compiling p.loaded label path p.files
  rcases hc : (compiling p.loaded label path).apply p.files with ⟨f | c, files⟩
  · obtain ⟨_, _, hnext⟩ := Action.compileNext_of_error hc
    rw [hc] at hkept
    rw [hnext]
    exact hkept
  · obtain ⟨_, _, hnext⟩ := Action.compileNext_of_ok hc
    rw [hc] at hkept
    rw [hnext]
    exact FileTree.KeepsSources.trans _ _ _ hkept (keepsSources_recording hplace hfixed _ files)

/-- Writing what a table compiled to writes its files. -/
lemma writesAt_of_writing {table : String} {c : Compiled} {outputs : List String}
    (hrows : c.rows.isSome = true ↔ kind = .convert)
    (h : (writing s kind table c).apply t = (.ok outputs, u)) :
    t.WritesAt {path | path ∈ outputPlaces s kind table} u := by
  have houtputs := (writing_eq_ok hrows h).1
  rw [← houtputs]
  unfold writing at h
  cases hc : c.rows with
  | none =>
    rw [hc] at h
    obtain ⟨script, v, hscript, h⟩ := apply_bind_eq_ok.1 h
    cases h
    have hwrites := FileTree.writesAt_of_writeAtomic (Filing.write_eq_ok hscript).2
    have hpaths : {path | path ∈ [script]} = ({script} : Set String) := by
      ext path
      simp
    rwa [hpaths]
  | some rows =>
    rw [hc] at h
    obtain ⟨data, v, hdata, h⟩ := apply_bind_eq_ok.1 h
    obtain ⟨script, w, hscript, h⟩ := apply_bind_eq_ok.1 h
    cases h
    have hwrites := (FileTree.writesAt_of_writeAtomic (Filing.write_eq_ok hdata).2).trans
      (FileTree.writesAt_of_writeAtomic (Filing.write_eq_ok hscript).2)
    have hpaths : {path | path ∈ [script, data]} = ({data} ∪ {script} : Set String) := by
      ext path
      simp [or_comm]
    rwa [hpaths]

/-- A workbook that is compiled is recorded as its table, and what it compiles to stands in the
files of the table. -/
theorem compiling_stands {label : String} {a : Compilation}
    (h : (compiling s label path).apply t = (.ok a, u)) :
    ∃ kind, ∃ c : Compiled, TableKind.ofLabel? label = some kind ∧ a.Records s kind path ∧
      c.IsFrom s kind path t ∧ c.StandsIn s kind (tableNameOf path) u ∧
      t.WritesAt {output | output ∈ outputPlaces s kind (tableNameOf path)} u := by
  obtain ⟨kind, hkind, hrecords, -⟩ := compiling_eq_ok h
  obtain ⟨other, sheet, c, outputs, hc, hw, -⟩ := exists_writing_of_compiling h
  obtain rfl := Option.some.inj (hkind.symm.trans hc.labelled)
  obtain ⟨hident, hrows⟩ := rows_of_compiledIn hc.compiled
  exact ⟨kind, c, hkind, hrecords, ⟨t, sheet, .refl s t, hc.read, hc.compiled⟩,
    standsIn_of_writing hident hrows hw, writesAt_of_writing hrows hw⟩

/-! ## Compiling again -/

/-- A text that is written where it stands changes no file. -/
lemma changesAt_of_write {place? : Option String} {text : String}
    (h : ∀ path, place? = some path → t.read path = .ok (.text text)) :
    t.ChangesAt ∅ ((Filing.write place? text).apply t).2 := by
  cases place? with
  | none => exact FileTree.ChangesAt.refl _ _
  | some path =>
    rcases hw : (FileTree.writeAtomic path text).apply t with ⟨e | _, u⟩
    · have hfailed : (Filing.write (some path) text).apply t = (.error (.file e), u) := by
        rw [Filing.write, apply_bind, Filing.apply_ofUpdate, hw]
        rfl
      rw [hfailed]
      exact FileTree.changesAt_of_rewritten (h path rfl) hw
    · rw [Filing.write_of_ok hw]
      exact FileTree.changesAt_of_rewritten (h path rfl) hw

/-- What stands in the files of a table can be written there again, and changes no file. -/
lemma writing_again {table : String} {c : Compiled} (hrows : c.rows.isSome = true → kind = .convert)
    (h : c.StandsIn s kind table t) : t.ChangesAt ∅ ((writing s kind table c).apply t).2 := by
  have hscript {v : FileTree} (hv : t.ChangesAt ∅ v) :
      v.ChangesAt ∅ ((Filing.write (s.scriptPath? kind.name table) c.script).apply v).2 :=
    changesAt_of_write fun path hp => hv.read (Set.notMem_empty _) (h.script path hp)
  -- each write is of what stands there, and one that fails is the last
  unfold writing
  split
  · rename_i rows hc
    have hdata : t.ChangesAt ∅
        ((Filing.write (s.dataPath? table) (printRecords (rows.map Row.cells))).apply t).2 := by
      refine changesAt_of_write fun path hp => ?_
      obtain ⟨rows', hrows', hread⟩ := h.data (hrows (by rw [hc]; rfl)) path hp
      rw [hc, Option.some.injEq] at hrows'
      rwa [hrows']
    rw [apply_bind]
    rcases hd : (Filing.write (s.dataPath? table) (printRecords (rows.map Row.cells))).apply t with
      ⟨f | data, v⟩
    · rw [hd] at hdata
      exact hdata
    · rw [hd] at hdata
      have hboth := FileTree.ChangesAt.trans _ _ _ hdata (hscript hdata)
      dsimp only
      rw [apply_bind]
      rcases hw : (Filing.write (s.scriptPath? kind.name table) c.script).apply v with
        ⟨f | script, w⟩ <;>
      · rw [hw] at hboth
        exact hboth
  · have honly := hscript (FileTree.ChangesAt.refl ∅ t)
    rw [apply_bind]
    rcases hw : (Filing.write (s.scriptPath? kind.name table) c.script).apply t with
      ⟨f | script, w⟩ <;>
    · rw [hw] at honly
      exact honly

/-- A workbook whose outcome stands in the files of its table is compiled again without a change to
any file, also where it does not compile any more. -/
theorem compiling_again {label : String} {c : Compiled} (hb : base.KeepsSources s t)
    (hkind : TableKind.ofLabel? label = some kind) (hc : c.IsFrom s kind path base)
    (h : c.StandsIn s kind (tableNameOf path) t) :
    t.ChangesAt ∅ ((compiling s label path).apply t).2 := by
  rcases compilesTo_or_error s label path t with ⟨other, sheet, c', hc'⟩ | ⟨f, hf⟩
  · obtain rfl := Option.some.inj (hkind.symm.trans hc'.labelled)
    -- it compiles to what it compiled to before
    obtain rfl := isFrom_unique hc ⟨t, sheet, hb, hc'.read, hc'.compiled⟩
    have hagain := writing_again (rows_of_compiledIn hc'.compiled).2.1 h
    rw [hc'.apply_compiling, apply_bind]
    rcases hw : (writing s kind (tableNameOf path) c).apply t with ⟨f | outputs, u⟩ <;>
    · rw [hw] at hagain
      exact hagain
  · rw [hf]
    exact FileTree.ChangesAt.refl _ _

/-- The manifest is recorded again without a change to any file. -/
lemma recording_again {m : Manifest} {place : String} (hplace : s.manifest = .text place)
    (h : t.read place = .ok (.text m.print)) : t.ChangesAt ∅ ((recording s m).apply t).2 := by
  unfold recording
  rw [hplace]
  split
  · rename_i other _ hother
    cases hother
    rcases hw : (Filing.writeValue place m.toJson).apply t with ⟨f | _, u⟩
    · exact Filing.changesAt_of_writeValue_error hw ∅
    · have hwritten := Filing.ofUpdate_eq_ok.1 (Filing.writeValue_eq_ok hw)
      exact FileTree.changesAt_of_rewritten h hwritten
  · exact FileTree.ChangesAt.refl _ _

end

end SheetCompiler
