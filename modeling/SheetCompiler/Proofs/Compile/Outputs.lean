import SheetCompiler.Proofs.Compile.Batch
import SheetCompiler.Proofs.FileTree.Rewrite

/-!
# The files of a table

A table that compiles has a script, and a Convert table a data file (`outputPlaces`). These places
are different for different kinds and tables, and compiling a table changes no file elsewhere.

Main statements:

* `eq_of_location_eq`: no two tables share the place of a file;
* `keeps_compiling`: what every write of an output keeps, compiling keeps;
* `compiling_cases`: what compiling a workbook leaves behind;
* `recording_cases`: a manifest that can be written is recorded, or its file cannot be replaced.
-/

namespace SheetCompiler

open SheetCompiler.Stateful SheetCompiler.Path

/-! ## Places of outputs -/

/-- The places of the files of a table: the script, and the data file of a Convert table. -/
def outputPlaces (s : Settings) (kind : TableKind) (table : String) : List String :=
  (s.scriptPath? kind.name table).toList ++
    if kind = .convert then (s.dataPath? table).toList else []

lemma mem_outputPlaces {s : Settings} {kind : TableKind} {table path : String} :
    path ∈ outputPlaces s kind table ↔
      s.scriptPath? kind.name table = some path ∨
        kind = .convert ∧ s.dataPath? table = some path := by
  unfold outputPlaces
  rw [List.mem_append, Option.mem_toList]
  by_cases hk : kind = .convert
  · rw [if_pos hk, Option.mem_toList, and_iff_right hk]
  · simp [hk]

namespace Settings

lemma dataPath?_eq_some {s : Settings} {table path : String} (h : s.dataPath? table = some path) :
    ∃ directory, s.data = .text directory ∧ path = join directory (table ++ ".json") := by
  unfold dataPath? at h
  cases hd : s.data with
  | text directory =>
    rw [hd] at h
    cases h
    exact ⟨directory, rfl, rfl⟩
  | _ => rw [hd] at h; cases h

lemma scriptPath?_eq_some {s : Settings} {kind table path : String}
    (h : s.scriptPath? kind table = some path) :
    ∃ directory, s.scripts = .text directory ∧
      path = join (join directory kind) (table ++ ".py") := by
  unfold scriptPath? at h
  cases hd : s.scripts with
  | text directory =>
    rw [hd] at h
    cases h
    exact ⟨directory, rfl, rfl⟩
  | _ => rw [hd] at h; cases h

end Settings

/-- The name of a file of a table is one component of a path, and no point. -/
lemma outputName {table : String} (h : Text.isIdentifier table = true) (extension : String)
    (hslash : '/' ∉ extension.toList) (hlong : 2 < extension.toList.length) :
    '/' ∉ (table ++ extension).toList ∧ table ++ extension ≠ "" ∧ table ++ extension ≠ "." ∧
      table ++ extension ≠ ".." := by
  have hlength : 2 < (table ++ extension).toList.length := by
    rw [String.toList_append, List.length_append]
    omega
  have hne (name : String) (hn : name.toList.length ≤ 2) : table ++ extension ≠ name := by
    rintro rfl
    omega
  refine ⟨?_, hne _ (by decide), hne _ (by decide), hne _ (by decide)⟩
  rw [String.toList_append, List.mem_append]
  exact fun hm => hm.elim (not_mem_of_isIdentifier h (by decide)) hslash

/-- The names of a data file and of a script are different. -/
lemma dataName_ne_scriptName (table other : String) : table ++ ".json" ≠ other ++ ".py" := by
  intro h
  have hlast := congrArg (fun name : String => name.toList.getLast?) h
  have hdata : ".json".toList.getLast? = some 'n' := rfl
  have hscript : ".py".toList.getLast? = some 'y' := rfl
  simp only [String.toList_append, List.getLast?_append, hdata, hscript, Option.some_or] at hlast
  exact absurd hlast (by decide)

lemma location_dataPath {s : Settings} {table path : String} (h : Text.isIdentifier table = true)
    (hp : s.dataPath? table = some path) :
    ∃ directory, s.data = .text directory ∧
      location path = location directory ++ [table ++ ".json"] := by
  obtain ⟨directory, hd, rfl⟩ := Settings.dataPath?_eq_some hp
  obtain ⟨h₁, h₂, h₃, h₄⟩ := outputName h ".json" (by decide) (by decide)
  exact ⟨directory, hd, location_join _ h₁ h₂ h₃ h₄⟩

lemma location_scriptPath {s : Settings} {kind : TableKind} {table path : String}
    (h : Text.isIdentifier table = true) (hp : s.scriptPath? kind.name table = some path) :
    ∃ directory, s.scripts = .text directory ∧
      location path = location directory ++ [kind.name] ++ [table ++ ".py"] := by
  obtain ⟨directory, hd, rfl⟩ := Settings.scriptPath?_eq_some hp
  obtain ⟨h₁, h₂, h₃, h₄⟩ := outputName h ".py" (by decide) (by decide)
  refine ⟨directory, hd, ?_⟩
  rw [location_join _ h₁ h₂ h₃ h₄]
  cases kind <;> rw [location_join _ (by decide) (by decide) (by decide) (by decide)]

/-- A data file and a script lie at different places. -/
lemma location_data_ne_script {s : Settings} {kind : TableKind} {table name data script : String}
    (htable : Text.isIdentifier table = true) (hname : Text.isIdentifier name = true)
    (hd : s.dataPath? table = some data) (hs : s.scriptPath? kind.name name = some script) :
    location data ≠ location script := by
  obtain ⟨_, -, hl⟩ := location_dataPath htable hd
  obtain ⟨_, -, hl'⟩ := location_scriptPath hname hs
  rw [hl, hl']
  intro h
  exact dataName_ne_scriptName _ _ (List.cons.inj (List.append_inj' h rfl).2).1

lemma TableKind.name_inj {kind other : TableKind} (h : kind.name = other.name) : kind = other := by
  cases kind <;> cases other <;> first | rfl | exact absurd h (by decide)

/-- A file of a table lies at no place of another kind or another table. -/
theorem eq_of_location_eq {s : Settings} {kind other : TableKind} {table name path place : String}
    (htable : Text.isIdentifier table = true) (hname : Text.isIdentifier name = true)
    (hpath : path ∈ outputPlaces s kind table) (hplace : place ∈ outputPlaces s other name)
    (h : location path = location place) : kind = other ∧ table = name ∧ path = place := by
  have hcancel (extension : String) (he : table ++ extension = name ++ extension) :
      table = name := by
    rw [← String.toList_inj, String.toList_append, String.toList_append] at he
    exact String.toList_inj.1 (List.append_cancel_right he)
  -- locations end with the name of a file, and before that a script has its kind
  rcases mem_outputPlaces.1 hpath with hp | ⟨hkind, hp⟩ <;>
    rcases mem_outputPlaces.1 hplace with hp' | ⟨hkind', hp'⟩
  · obtain ⟨directory, hd, hl⟩ := location_scriptPath htable hp
    obtain ⟨directory', hd', hl'⟩ := location_scriptPath hname hp'
    rw [hl, hl'] at h
    obtain ⟨hkinds, hnames⟩ := List.append_inj' h rfl
    obtain ⟨-, hkinds⟩ := List.append_inj' hkinds rfl
    have hkind : kind = other := TableKind.name_inj (List.cons.inj hkinds).1
    have htables := hcancel ".py" (List.cons.inj hnames).1
    subst hkind htables
    rw [hp, Option.some.injEq] at hp'
    exact ⟨rfl, rfl, hp'⟩
  · exact absurd h.symm (location_data_ne_script hname htable hp' hp)
  · exact absurd h (location_data_ne_script htable hname hp hp')
  · obtain ⟨directory, -, hl⟩ := location_dataPath htable hp
    obtain ⟨directory', -, hl'⟩ := location_dataPath hname hp'
    rw [hl, hl'] at h
    have htables := hcancel ".json" (List.cons.inj (List.append_inj' h rfl).2).1
    subst htables
    rw [hp, Option.some.injEq] at hp'
    exact ⟨hkind.trans hkind'.symm, rfl, hp'⟩

/-- Whether a place is that of no file of any table. -/
def Settings.IsApart (s : Settings) (place : String) : Prop :=
  ∀ kind table, Text.isIdentifier table = true →
    ∀ output ∈ outputPlaces s kind table, location output ≠ location place

/-- The manifest lies among the directories of scripts and apart from the data files. -/
lemma isApart_manifest :
    (Settings.ofDirectories "Dist" "Resources").IsApart "Dist/ParseResult.json" := by
  have hplace : location "Dist/ParseResult.json" = ["Dist", "ParseResult.json"] := by decide
  have hscripts : location "Dist" = ["Dist"] := by decide
  have hdata : location "Resources" = ["Resources"] := by decide
  intro kind table htable output ho hl
  rw [hplace] at hl
  rcases mem_outputPlaces.1 ho with hp | ⟨-, hp⟩
  · obtain ⟨directory, hd, hlocation⟩ := location_scriptPath htable hp
    cases hd
    rw [hl, hscripts] at hlocation
    exact absurd (congrArg List.length hlocation) (by simp)
  · obtain ⟨directory, hd, hlocation⟩ := location_dataPath htable hp
    cases hd
    rw [hl, hdata] at hlocation
    exact absurd (List.cons.inj hlocation).1 (by decide)

/-! ## What compiling keeps -/

/-- A Convert table has rows, and no other one. -/
lemma rows_of_compile {kind : TableKind} {table : String} {sheet : Sheet} {resolver : Resolver}
    {templates : Except Failure (Pairs String)} {c : Compiled}
    (h : compile kind table sheet resolver templates = .ok c) :
    c.rows.isSome = true ↔ kind = .convert := by
  cases kind with
  | convert =>
    obtain ⟨columns, -, h⟩ := except_bind_eq_ok.1 h
    obtain ⟨rows, -, h⟩ := except_bind_eq_ok.1 h
    obtain ⟨named, -, h⟩ := except_bind_eq_ok.1 h
    obtain ⟨script, -, h⟩ := except_bind_eq_ok.1 h
    cases h
    simp
  | enum =>
    obtain ⟨enums, -, h⟩ := except_bind_eq_ok.1 h
    obtain ⟨named, -, h⟩ := except_bind_eq_ok.1 h
    obtain ⟨script, -, h⟩ := except_bind_eq_ok.1 h
    cases h
    simp
  | «variable» =>
    obtain ⟨constants, -, h⟩ := except_bind_eq_ok.1 h
    obtain ⟨named, -, h⟩ := except_bind_eq_ok.1 h
    obtain ⟨script, -, h⟩ := except_bind_eq_ok.1 h
    cases h
    simp

lemma rows_of_compiledIn {s : Settings} {kind : TableKind} {table : String} {sheet : Sheet}
    {files : FileTree} {c : Compiled} (h : compiledIn s kind table sheet files = .ok c) :
    Text.isIdentifier table = true ∧ (c.rows.isSome = true ↔ kind = .convert) := by
  unfold compiledIn at h
  split at h
  · rename_i hident
    obtain ⟨_, -, h⟩ := except_bind_eq_ok.1 h
    exact ⟨hident, rows_of_compile h⟩
  · cases h

variable {R : FileTree → FileTree → Prop}

/-- What every write of an output keeps, writing what a table compiled to keeps. -/
lemma keeps_writing (hr : ∀ t, R t t) (ht : ∀ t u v, R t u → R u v → R t v) {s : Settings}
    {kind : TableKind} {table : String} {c : Compiled}
    (hrows : c.rows.isSome = true → kind = .convert)
    (hwrite : ∀ output ∈ outputPlaces s kind table, ∀ text,
      Keeps R (Filing.write (some output) text)) :
    Keeps R (writing s kind table c) := by
  have hplace (place? : Option String)
      (hp : ∀ path ∈ place?.toList, path ∈ outputPlaces s kind table) (text : String) :
      Keeps R (Filing.write place? text) := by
    cases place? with
    | none => exact Keeps.throw hr _
    | some path => exact hwrite path (hp path (by simp)) text
  have hscript := hplace (s.scriptPath? kind.name table) fun path hp => List.mem_append_left _ hp
  unfold writing
  split
  · rename_i rows hsome
    have hkind : kind = .convert := hrows (by rw [hsome]; rfl)
    have hdata := hplace (s.dataPath? table) fun path hp =>
      List.mem_append_right _ (by rwa [if_pos hkind])
    refine Keeps.bind ht (hdata _) fun _ => ?_
    exact Keeps.bind ht (hscript _) fun _ => Keeps.pure hr _
  · exact Keeps.bind ht (hscript _) fun _ => Keeps.pure hr _

/-- What every write of an output keeps, compiling keeps. Only a table whose name is an identifier
has outputs. -/
lemma keeps_compiling (hr : ∀ t, R t t) (ht : ∀ t u v, R t u → R u v → R t v) {s : Settings}
    {label path : String}
    (hwrite : ∀ kind, TableKind.ofLabel? label = some kind →
      Text.isIdentifier (tableNameOf path) = true →
      ∀ output ∈ outputPlaces s kind (tableNameOf path), ∀ text,
        Keeps R (Filing.write (some output) text)) :
    Keeps R (compiling s label path) := by
  intro files
  rcases compilesTo_or_error s label path files with ⟨kind, sheet, c, hc⟩ | ⟨f, hf⟩
  · obtain ⟨hident, hrows⟩ := rows_of_compiledIn hc.compiled
    rw [hc.apply_compiling]
    exact Keeps.bind ht (keeps_writing hr ht hrows.1 (hwrite kind hc.labelled hident))
      (fun _ => Keeps.pure hr _) files
  · rw [hf]
    exact hr files

/-- What every write to a path keeps, a computation that writes there keeps. -/
lemma Filing.keeps_write (hr : ∀ t, R t t) (ht : ∀ t u v, R t u → R u v → R t v) {path : String}
    (h : ∀ t u, FileTree.IsWriteTo path t u → R t u) (text : String) :
    Keeps R (Filing.write (some path) text) := by
  refine Keeps.bind ht (fun t => ?_) fun _ => Keeps.pure hr _
  rw [Filing.apply_ofUpdate]
  rcases hw : (FileTree.writeAtomic path text).apply t with ⟨r, u⟩
  exact h t u (FileTree.isWriteTo_of_writeAtomic hw)

/-- Compiling takes nothing away. -/
lemma extends_compiling (s : Settings) (label path : String) (files : FileTree) :
    files.Extends ((compiling s label path).apply files).2 :=
  keeps_compiling FileTree.Extends.refl FileTree.Extends.trans (fun _ _ _ _ _ =>
    Filing.keeps_write FileTree.Extends.refl FileTree.Extends.trans fun _ _ hw =>
      hw.extends) files

/-- Compiling changes files where the table has its outputs. -/
lemma changesAt_compiling {locs : Set Location} {s : Settings} {label path : String}
    (h : ∀ kind, TableKind.ofLabel? label = some kind →
      Text.isIdentifier (tableNameOf path) = true →
      ∀ output ∈ outputPlaces s kind (tableNameOf path), location output ∈ locs)
    (files : FileTree) : files.ChangesAt locs ((compiling s label path).apply files).2 :=
  keeps_compiling (FileTree.ChangesAt.refl locs) FileTree.ChangesAt.trans
    (fun kind hk hident output ho =>
      Filing.keeps_write (FileTree.ChangesAt.refl locs) FileTree.ChangesAt.trans
        fun _ _ hw => hw.changesAt.mono
          (Set.singleton_subset_iff.2 (h kind hk hident output ho))) files

/-! ## Files that are not in the way -/

/-- A place that could be written to still can, and no file is new that is no text. -/
structure Spares (place : String) (t u : FileTree) : Prop where
  admits : t.Admits place → u.Admits place
  others : ∀ l content, (∀ text, content ≠ .text text) → u.node? l = some (.file content) →
    t.node? l = some (.file content)

lemma Spares.refl (place : String) (t : FileTree) : Spares place t t := ⟨id, fun _ _ _ h => h⟩

lemma Spares.trans {place : String} (t u v : FileTree) (h : Spares place t u)
    (h' : Spares place u v) : Spares place t v :=
  ⟨fun ha => h'.admits (h.admits ha),
    fun l content hne hl => h.others l content hne (h'.others l content hne hl)⟩

/-- Whether a file at a path is in no other's way: neither needs the other's place for a
directory. -/
def Apart (place path : String) : Prop :=
  location place ∉ made path ∧ location path ∉ directories place

instance (place path : String) : Decidable (Apart place path) :=
  inferInstanceAs (Decidable (location place ∉ made path ∧ location path ∉ directories place))

lemma keeps_write {place path : String} (h : Apart place path) (text : String) :
    Keeps (Spares place) (Filing.write (some path) text) :=
  Filing.keeps_write (Spares.refl place) Spares.trans (fun _ _ hw =>
    ⟨fun ha => ha.of_isWriteTo hw h.1 h.2, fun _ _ hne => hw.node?_of_ne_text hne⟩) text

/-- Whether the files of a table can be written: each has a place that can be written to, and none
is in the way of another. -/
structure FileTree.AdmitsTable (files : FileTree) (s : Settings) (kind : TableKind)
    (table : String) : Prop where
  script : (s.scriptPath? kind.name table).isSome = true
  data : kind = .convert → (s.dataPath? table).isSome = true
  admits : ∀ output ∈ outputPlaces s kind table, files.Admits output
  apart : ∀ output ∈ outputPlaces s kind table, ∀ other ∈ outputPlaces s kind table,
    output ≠ other → Apart output other

/-- What a table compiled to is written where its files can be. -/
theorem writing_of_admits {files : FileTree} {s : Settings} {kind : TableKind} {table : String}
    {c : Compiled} (hident : Text.isIdentifier table = true)
    (hrows : c.rows.isSome = true → kind = .convert) (h : files.AdmitsTable s kind table) :
    ∃ outputs files', (writing s kind table c).apply files = (.ok outputs, files') := by
  obtain ⟨script, hscript⟩ := Option.isSome_iff_exists.1 h.script
  have hs : script ∈ outputPlaces s kind table := mem_outputPlaces.2 (.inl hscript)
  unfold writing
  rw [hscript]
  split
  · rename_i rows hsome
    have hkind : kind = .convert := hrows (by rw [hsome]; rfl)
    obtain ⟨data, hdata⟩ := Option.isSome_iff_exists.1 (h.data hkind)
    have hd : data ∈ outputPlaces s kind table := mem_outputPlaces.2 (.inr ⟨hkind, hdata⟩)
    have hne : script ≠ data := by
      rintro rfl
      exact location_data_ne_script hident hident hdata hscript rfl
    -- the data file is written first, and is not in the way of the script
    have hapart := h.apart script hs data hd hne
    obtain ⟨t, hwdata⟩ := FileTree.writeAtomic_of_admits (h.admits data hd)
      (printRecords (rows.map Row.cells))
    obtain ⟨u, hwscript⟩ := FileTree.writeAtomic_of_admits
      ((h.admits script hs).of_writeAtomic hwdata hapart.1 hapart.2) c.script
    rw [hdata, apply_bind_of_ok (Filing.write_of_ok hwdata),
      apply_bind_of_ok (Filing.write_of_ok hwscript)]
    exact ⟨_, u, rfl⟩
  · obtain ⟨t, hw⟩ := FileTree.writeAtomic_of_admits (h.admits script hs) c.script
    rw [apply_bind_of_ok (Filing.write_of_ok hw)]
    exact ⟨_, t, rfl⟩

/-! ## What compiling leaves behind -/

/-- Whether the workbook at a path compiles as the table of a kind. -/
def Compiles (s : Settings) (kind : TableKind) (path : String) (files : FileTree) : Prop :=
  ∃ sheet c, sheetAt path files = .ok sheet ∧
    compiledIn s kind (tableNameOf path) sheet files = .ok c

/-- A workbook that compiles is written where the files of its table can be. -/
lemma compiling_of_admits {s : Settings} {label path : String} {kind : TableKind}
    {files : FileTree} (hkind : TableKind.ofLabel? label = some kind)
    (hc : Compiles s kind path files) (h : files.AdmitsTable s kind (tableNameOf path)) :
    ∃ c files', (compiling s label path).apply files = (.ok c, files') := by
  obtain ⟨sheet, c, hsheet, hcompiled⟩ := hc
  obtain ⟨hident, hrows⟩ := rows_of_compiledIn hcompiled
  obtain ⟨outputs, files', hw⟩ := writing_of_admits hident hrows.1 h
  rw [CompilesTo.apply_compiling ⟨hkind, hsheet, hcompiled⟩, apply_bind_of_ok hw]
  exact ⟨_, files', rfl⟩

/-- What has been written for a table are its outputs. -/
lemma writing_eq_ok {s : Settings} {kind : TableKind} {table : String} {c : Compiled}
    {files files' : FileTree} {outputs : List String}
    (hrows : c.rows.isSome = true ↔ kind = .convert)
    (h : (writing s kind table c).apply files = (.ok outputs, files')) :
    outputs = outputPlaces s kind table ∧ (s.scriptPath? kind.name table).isSome = true ∧
      (kind = .convert → (s.dataPath? table).isSome = true) ∧
      ∀ output ∈ outputs, files'.IsFile output := by
  unfold writing at h
  cases hc : c.rows with
  | none =>
    have hkind : kind ≠ .convert := by
      rw [← hrows.ne, hc]
      simp
    rw [hc] at h
    obtain ⟨script, u, hscript, h⟩ := apply_bind_eq_ok.1 h
    cases h
    obtain ⟨hplace, hw⟩ := Filing.write_eq_ok hscript
    rw [outputPlaces, hplace, if_neg hkind]
    refine ⟨rfl, rfl, fun hc => absurd hc hkind, fun output ho => ?_⟩
    rw [List.mem_singleton.1 ho]
    exact FileTree.isFile_of_readText (FileTree.readText_of_writeAtomic hw)
  | some rows =>
    have hkind : kind = .convert := hrows.1 (by rw [hc]; rfl)
    rw [hc] at h
    obtain ⟨data, u, hdata, h⟩ := apply_bind_eq_ok.1 h
    obtain ⟨script, v, hscript, h⟩ := apply_bind_eq_ok.1 h
    cases h
    obtain ⟨hdataPlace, hwdata⟩ := Filing.write_eq_ok hdata
    obtain ⟨hscriptPlace, hwscript⟩ := Filing.write_eq_ok hscript
    rw [outputPlaces, hscriptPlace, if_pos hkind, hdataPlace]
    refine ⟨rfl, rfl, fun _ => rfl, fun output ho => ?_⟩
    rcases List.mem_pair.1 ho with rfl | rfl
    · exact FileTree.isFile_of_readText (FileTree.readText_of_writeAtomic hwscript)
    · -- the script takes nothing away
      exact (FileTree.extends_writeAtomic hwscript).isFile
        (FileTree.isFile_of_readText (FileTree.readText_of_writeAtomic hwdata))

/-- What is recorded of the table in a workbook: its outputs are the places of its files. -/
structure Compilation.Records (s : Settings) (kind : TableKind) (source : String)
    (c : Compilation) : Prop where
  named : Text.isIdentifier (tableNameOf source) = true
  script : (s.scriptPath? kind.name (tableNameOf source)).isSome = true
  data : kind = .convert → (s.dataPath? (tableNameOf source)).isSome = true
  eq : c = .ofTexts kind.name (tableNameOf source) source (outputPlaces s kind (tableNameOf source))

/-- A workbook that does not compile leaves the files as they are. One that does is recorded with
its files, or a write fails. -/
theorem compiling_cases (s : Settings) (label path : String) (files : FileTree) :
    (∃ f, (compiling s label path).apply files = (.error f, files)) ∨
      ∃ kind, TableKind.ofLabel? label = some kind ∧ Compiles s kind path files ∧
        ((∃ f files', (compiling s label path).apply files = (.error f, files')) ∨
          ∃ c files', (compiling s label path).apply files = (.ok c, files') ∧
            c.Records s kind path ∧
            ∀ output ∈ outputPlaces s kind (tableNameOf path), files'.IsFile output) := by
  rcases compilesTo_or_error s label path files with ⟨kind, sheet, c, hc⟩ | hf
  · obtain ⟨hident, hrows⟩ := rows_of_compiledIn hc.compiled
    refine .inr ⟨kind, hc.labelled, ⟨sheet, c, hc.read, hc.compiled⟩, ?_⟩
    rw [hc.apply_compiling, apply_bind]
    rcases hw : (writing s kind (tableNameOf path) c).apply files with ⟨f | outputs, files'⟩
    · exact .inl ⟨f, files', rfl⟩
    · obtain ⟨rfl, hscript, hdata, hfiles⟩ := writing_eq_ok hrows hw
      exact .inr ⟨_, files', rfl, ⟨hident, hscript, hdata, rfl⟩, hfiles⟩
  · exact .inl hf

/-- What a workbook compiles to records its table. -/
lemma compiling_eq_ok {s : Settings} {label path : String} {files files' : FileTree}
    {c : Compilation} (h : (compiling s label path).apply files = (.ok c, files')) :
    ∃ kind, TableKind.ofLabel? label = some kind ∧ c.Records s kind path ∧
      ∀ output ∈ outputPlaces s kind (tableNameOf path), files'.IsFile output := by
  rcases compiling_cases s label path files with
    ⟨f, hf⟩ | ⟨kind, hkind, -, ⟨f, files'', hf⟩ | ⟨c', files'', hc, hrest⟩⟩
  · rw [h] at hf
    cases hf
  · rw [h] at hf
    cases hf
  · rw [h] at hc
    cases hc
    exact ⟨kind, hkind, hrest⟩

/-! ## Recording -/

lemma keeps_recording (hr : ∀ t, R t t) {s : Settings} {m : Manifest}
    (h : ∀ place, s.manifest = .text place → ∀ t u, FileTree.IsWriteTo place t u → R t u) :
    Keeps R (recording s m) := by
  intro files
  unfold recording
  split
  · rename_i place _ hplace
    exact h place hplace files _ (Filing.isWriteTo_writeValue place m.toJson files)
  · exact hr files

lemma extends_recording (s : Settings) (m : Manifest) (files : FileTree) :
    files.Extends ((recording s m).apply files).2 :=
  keeps_recording FileTree.Extends.refl (fun _ _ _ _ hw => hw.extends) files

lemma changesAt_recording {s : Settings} {place : String} (hplace : s.manifest = .text place)
    (m : Manifest) (files : FileTree) :
    files.ChangesAt {location place} ((recording s m).apply files).2 := by
  refine keeps_recording (FileTree.ChangesAt.refl _) (fun other hother t u hw => ?_) files
  rw [hplace] at hother
  cases hother
  exact hw.changesAt

/-- A manifest that is recorded is written to its place. -/
lemma exists_writeAtomic_of_recording {s : Settings} {m : Manifest} {t u : FileTree}
    (h : (recording s m).apply t = (.ok (), u)) :
    ∃ place, s.manifest = .text place ∧
      (FileTree.writeAtomic place m.print).apply t = (.ok (), u) := by
  unfold recording at h
  split at h
  · rename_i place _ hplace
    exact ⟨place, hplace, Filing.ofUpdate_eq_ok.1 (Filing.writeValue_eq_ok h)⟩
  · cases h

/-- A manifest that is recorded is what its file holds, and no other file has changed. -/
lemma exists_place_of_recording {s : Settings} {m : Manifest} {t u : FileTree}
    (h : (recording s m).apply t = (.ok (), u)) :
    ∃ place, s.manifest = .text place ∧ u.read place = .ok (.text m.print) ∧
      t.ChangesAt {location place} u := by
  obtain ⟨place, hplace, hw⟩ := exists_writeAtomic_of_recording h
  exact ⟨place, hplace, FileTree.read_of_writeAtomic hw, FileTree.changesAt_writeAtomic hw⟩

/-- A manifest that can be written is recorded, or its file cannot be replaced any more. -/
lemma recording_cases {s : Settings} {m : Manifest} {place : String}
    (hplace : s.manifest = .text place) (hwritable : m.isWritable = true) (files : FileTree) :
    (∃ files', (recording s m).apply files = (.ok (), files') ∧
        files'.readText place = .ok m.print) ∨
      ∃ f files', (recording s m).apply files = (.error f, files') ∧ ¬ files'.Admits place := by
  rw [recording_of_isWritable hwritable hplace, Filing.apply_ofUpdate]
  rcases hw : (FileTree.writeAtomic place m.print).apply files with ⟨e | _, files'⟩
  · exact .inr ⟨_, files', rfl, FileTree.not_admits_of_error hw⟩
  · exact .inl ⟨files', rfl, FileTree.readText_of_writeAtomic hw⟩

/-! ## What an attempt spares -/

namespace Action

/-- An attempt spares a place that neither a file of its table nor the manifest is in the way of. -/
lemma spares_compileNext {place label path : String} {p : Project}
    (hout : ∀ kind, TableKind.ofLabel? label = some kind →
      ∀ output ∈ outputPlaces p.loaded kind (tableNameOf path), Apart place output)
    (hmanifest : ∀ manifest, p.loaded.manifest = .text manifest → Apart place manifest) :
    Spares place p.files ((compileNext p.loaded label path).apply p).2.files := by
  have hcompiling : Keeps (Spares place) (compiling p.loaded label path) :=
    keeps_compiling (Spares.refl place) Spares.trans fun kind hk _ output ho =>
      keeps_write (hout kind hk output ho)
  have hrecording (m : Manifest) : Keeps (Spares place) (recording p.loaded m) :=
    keeps_recording (Spares.refl place) fun manifest hm t u hw =>
      ⟨fun ha => ha.of_isWriteTo hw (hmanifest manifest hm).1 (hmanifest manifest hm).2,
        fun _ _ hne => hw.node?_of_ne_text hne⟩
  have hspares := hcompiling p.files
  -- a workbook that does not compile is not recorded
  rcases hc : (compiling p.loaded label path).apply p.files with ⟨f | c, files⟩
  · obtain ⟨_, _, hnext⟩ := compileNext_of_error hc
    rw [hc] at hspares
    rw [hnext]
    exact hspares
  · obtain ⟨_, _, hnext⟩ := compileNext_of_ok hc
    rw [hc] at hspares
    rw [hnext]
    exact Spares.trans _ _ _ hspares (hrecording _ files)

end Action

end SheetCompiler
