import SheetCompiler.Proofs.Compile.Reload
import SheetCompiler.Proofs.FileTree.Rewrite

/-!
# What other tables decide

A sheet refers to other tables, and what is known of these is a resolver. A resolver decides
whether a sheet is accepted, and nothing else: what is accepted under one is accepted under every
one that knows more, and compiles to the same. So two resolvers under which a sheet is accepted give
the same outcome, that of the one which knows what either of them knows (`Resolver.join`).

Main statements:

* `compile_of_below`: more knowledge changes no outcome;
* `compiledIn_unique`: what a sheet compiles to is the same in all files in which it compiles;
* `compileSheet_gated`: the same of compiling sheets in projects, with the files that are written.
-/

namespace SheetCompiler

open SheetCompiler.Stateful SheetCompiler.Path

/-! ## Resolvers in order -/

namespace Resolver

/-- Another resolver knows all the tables that one knows, and all its enumerations with at least the
same members. -/
structure Below (r r' : Resolver) : Prop where
  tables : ∀ type, r.tableExists type = true → r'.tableExists type = true
  members : ∀ type members, r.members? type = some members →
    ∃ more, r'.members? type = some more ∧ members ⊆ more

/-- What one of two resolvers knows. -/
def join (r r' : Resolver) : Resolver where
  tableExists type := r.tableExists type || r'.tableExists type
  members? type :=
    match r.members? type with
    | .none => r'.members? type
    | .some members => .some (members ++ (r'.members? type).getD [])

lemma below_join_left (r r' : Resolver) : r.Below (r.join r') := by
  refine ⟨fun type h => ?_, fun type members h => ?_⟩
  · show (r.tableExists type || r'.tableExists type) = true
    rw [h, Bool.true_or]
  · unfold join
    dsimp only
    rw [h]
    exact ⟨_, rfl, List.subset_append_left _ _⟩

lemma below_join_right (r r' : Resolver) : r'.Below (r.join r') := by
  refine ⟨fun type h => ?_, fun type members h => ?_⟩
  · show (r.tableExists type || r'.tableExists type) = true
    rw [h, Bool.or_true]
  · unfold join
    dsimp only
    cases r.members? type with
    | none => exact ⟨members, h, List.Subset.refl _⟩
    | some more =>
      rw [h]
      exact ⟨more ++ members, rfl, List.subset_append_right _ _⟩

end Resolver

/-! ## Accepting under more knowledge -/

section

variable {r r' : Resolver}

lemma Column.typeExists_of_below (h : r.Below r') {c : Column} (hc : c.typeExists r = true) :
    c.typeExists r' = true := by
  unfold Column.typeExists at hc ⊢
  cases hkind : c.kind with
  | primitive => rfl
  | «variable» => rfl
  | invalid => rw [hkind] at hc; exact hc
  | tableReference =>
    rw [hkind] at hc
    exact h.tables c.type hc
  | enumeration =>
    rw [hkind] at hc
    obtain ⟨members, hmembers⟩ := Option.isSome_iff_exists.1 hc
    obtain ⟨more, hmore, -⟩ := h.members c.type members hmembers
    exact Option.isSome_iff_exists.2 ⟨more, hmore⟩

lemma visitColumn_of_below (h : r.Below r') {sheet : Sheet} {index : Nat} {name : String}
    {c : Column} (hc : visitColumn sheet r index name = .ok c) :
    visitColumn sheet r' index name = .ok c := by
  unfold visitColumn at hc ⊢
  dsimp only at hc ⊢
  split at hc
  · cases hc
  · rename_i hname
    split at hc
    · cases hc
    · rename_i htype
      rw [Bool.not_eq_true', Bool.not_eq_false] at htype
      rw [if_neg hname, Column.typeExists_of_below h htype]
      exact hc

/-- A scan without a fault is the same for visits that accept more. -/
lemma scanCells_of_visit {α : Type} {sheet : Sheet} {row : Nat}
    {visit visit' : Nat → String → Except Fault α}
    (hvisit : ∀ index name a, visit index name = .ok a → visit' index name = .ok a)
    {indices : List Nat} {seen : List String}
    (h : (scanCells sheet row visit indices seen).fault = none) :
    scanCells sheet row visit' indices seen = scanCells sheet row visit indices seen := by
  -- both scans take the same way: a visit that is refused would be a fault of the first one
  induction indices generalizing seen with
  | nil => rfl
  | cons index indices ih =>
    rw [scanCells] at h ⊢
    rw [scanCells]
    split at h
    · rename_i hexcluded
      rw [if_pos hexcluded, if_pos hexcluded, ih h]
    · rename_i hexcluded
      rw [if_neg hexcluded, if_neg hexcluded]
      split at h
      · rename_i hblank
        rw [if_pos hblank, if_pos hblank]
      · rename_i hblank
        rw [if_neg hblank, if_neg hblank]
        cases hcheck : checkName columnName seen (normalize (sheet.cell row index)) with
        | error fault => rfl
        | ok _ =>
          rw [hcheck] at h
          dsimp only at h ⊢
          cases ha : visit index (normalize (sheet.cell row index)) with
          | error fault => rw [ha] at h; cases h
          | ok a =>
            rw [ha] at h
            rw [hvisit _ _ _ ha]
            dsimp only
            rw [ih h]

/-- Columns that are accepted are found by the same scan. -/
lemma scanColumns_of_below (h : r.Below r') {sheet : Sheet}
    (hscan : (scanColumns sheet r).fault = none) : scanColumns sheet r' = scanColumns sheet r := by
  unfold scanColumns at hscan ⊢
  by_cases hid : hasIdColumn sheet = true
  · rw [if_pos hid] at hscan
    rw [if_pos hid, if_pos hid]
    exact scanCells_of_visit (fun _ _ _ hc => visitColumn_of_below h hc) hscan
  · rw [if_neg hid, if_neg hid]

lemma readColumns_of_below (h : r.Below r') {sheet : Sheet} {columns : List Column}
    (hc : readColumns sheet r = .ok columns) : readColumns sheet r' = .ok columns := by
  have hfault := (Scan.result_eq_ok.1 hc).1
  unfold readColumns
  rw [scanColumns_of_below h hfault]
  exact hc

lemma checkCell_of_below (h : r.Below r') {row column type cell : String} {kind : ColumnKind}
    {isArray : Bool} {values : List String}
    (hc : checkCell r row column type kind isArray cell = .ok values) :
    checkCell r' row column type kind isArray cell = .ok values := by
  -- only the members of an enumeration are asked for
  cases kind with
  | primitive => exact hc
  | tableReference => exact hc
  | «variable» => exact hc
  | invalid => exact hc
  | enumeration =>
    unfold checkCell at hc ⊢
    dsimp only at hc ⊢
    split at hc
    · cases hc
    · rename_i hblank
      rw [if_neg hblank]
      split at hc
      · cases hc
      · rename_i hone
        rw [if_neg hone]
        cases hmembers : r.members? type with
        | none => rw [hmembers] at hc; cases hc
        | some members =>
          obtain ⟨more, hmore, hsubset⟩ := h.members type members hmembers
          rw [hmembers] at hc
          rw [hmore]
          dsimp only at hc ⊢
          split at hc
          · rename_i hall
            have hall' : (splitCell cell).all more.contains = true := by
              rw [List.all_eq_true] at hall ⊢
              intro value hvalue
              have hm := List.contains_iff_mem.1 (hall value hvalue)
              exact List.contains_iff_mem.2 (hsubset hm)
            rw [if_pos hall']
            exact hc
          · cases hc

lemma readCells_of_below (h : r.Below r') {sheet : Sheet} {row : Nat} {id : String}
    {columns : List Column} {cells record : Pairs Json}
    (hc : readCells sheet r row id columns cells = .ok record) :
    readCells sheet r' row id columns cells = .ok record := by
  induction columns generalizing cells with
  | nil => exact hc
  | cons column columns ih =>
    rw [readCells] at hc ⊢
    split at hc
    · rename_i hexcluded
      rw [if_pos hexcluded]
      exact ih hc
    · rename_i hexcluded
      obtain ⟨values, hvalues, hrest⟩ := except_bind_eq_ok.1 hc
      rw [if_neg hexcluded]
      exact except_bind_eq_ok.2 ⟨values, checkCell_of_below h hvalues, ih hrest⟩

lemma readRowsAt_of_below (h : r.Below r') {sheet : Sheet} {columns : List Column}
    {indices : List Nat} {seen : List String} {rows : List Row}
    (hc : readRowsAt sheet columns r indices seen = .ok rows) :
    readRowsAt sheet columns r' indices seen = .ok rows := by
  induction indices generalizing seen rows with
  | nil => exact hc
  | cons index indices ih =>
    rw [readRowsAt] at hc ⊢
    by_cases hend : sheet.cell index 0 = ""
    · rw [if_pos hend] at hc ⊢
      exact hc
    rw [if_neg hend] at hc ⊢
    by_cases hexcluded : isExcluded (sheet.cell index 0) = true
    · rw [if_pos hexcluded] at hc ⊢
      exact ih hc
    rw [if_neg hexcluded] at hc ⊢
    by_cases hseen : seen.contains (sheet.cell index 0) = true
    · rw [if_pos hseen] at hc
      cases hc
    rw [if_neg hseen] at hc ⊢
    obtain ⟨cells, hcells, hc⟩ := except_bind_eq_ok.1 hc
    obtain ⟨rest, hrest, hdone⟩ := except_bind_eq_ok.1 hc
    refine except_bind_eq_ok.2 ⟨cells, readCells_of_below h hcells, ?_⟩
    exact except_bind_eq_ok.2 ⟨rest, ih hrest, hdone⟩

/-- What a sheet compiles to under a resolver, it compiles to under every one that knows more. -/
theorem compile_of_below (h : r.Below r') {kind : TableKind} {table : String} {sheet : Sheet}
    {templates : Except Failure (Pairs String)} {c : Compiled}
    (hc : compile kind table sheet r templates = .ok c) :
    compile kind table sheet r' templates = .ok c := by
  cases kind with
  | enum => exact hc
  | «variable» => exact hc
  | convert =>
    obtain ⟨columns, hcolumns, hc⟩ := except_bind_eq_ok.1 hc
    obtain ⟨rows, hrows, hrest⟩ := except_bind_eq_ok.1 hc
    have hcolumns' := readColumns_of_below h (mapError_eq_ok.1 hcolumns)
    have hrows' : readRows sheet columns r' = .ok rows :=
      readRowsAt_of_below h (mapError_eq_ok.1 hrows)
    refine except_bind_eq_ok.2 ⟨columns, mapError_eq_ok.2 hcolumns', ?_⟩
    exact except_bind_eq_ok.2 ⟨rows, mapError_eq_ok.2 hrows', hrest⟩

end

/-! ## Compiling in different files -/

/-- Whether a type can be looked up is a matter of the settings. -/
lemma lookUpIn_eq (s : Settings) (table type : String) (files files' : FileTree) :
    lookUpIn s table type files = lookUpIn s table type files' := by
  -- files decide what is found, not whether it can be looked for
  unfold lookUpIn
  cases TypeToken.classify type with
  | primitive => rfl
  | «variable» => rfl
  | invalid => rfl
  | tableReference =>
    unfold referenceExists
    dsimp only
    split
    · rfl
    · split
      · rfl
      · cases s.scriptPath? TableKind.convert.name (TypeToken.referencedTable type) <;> rfl
  | enumeration =>
    unfold enumScript
    dsimp only
    split
    · rfl
    · cases s.scriptPath? TableKind.enum.name
        (TypeToken.unmarked (TypeToken.splitContainer type).1) <;> rfl

lemma lookUpAllIn_eq (s : Settings) (table : String) (types : List String)
    (files files' : FileTree) :
    lookUpAllIn s table types files = lookUpAllIn s table types files' := by
  induction types with
  | nil => rfl
  | cons type types ih => rw [lookUpAllIn, lookUpAllIn, lookUpIn_eq s table type files files', ih]

section

variable {s : Settings} {kind : TableKind} {table : String} {sheet : Sheet}
  {files files' : FileTree} {c c' : Compiled}

/-- A sheet that is accepted has columns that are found in files whose scripts declare more. -/
lemma lookedUpIn_of_below
    (h : (Resolver.ofFiles s files (some table)).Below (.ofFiles s files' (some table)))
    {templates : Except Failure (Pairs String)}
    (hc : compile kind table sheet (.ofFiles s files (some table)) templates = .ok c) :
    lookedUpIn s kind table sheet files' = lookedUpIn s kind table sheet files := by
  unfold lookedUpIn
  by_cases hkind : kind = .convert
  · subst hkind
    obtain ⟨columns, hcolumns, -⟩ := except_bind_eq_ok.1 hc
    have hfault := (Scan.result_eq_ok.1 (mapError_eq_ok.1 hcolumns)).1
    rw [if_pos rfl, if_pos rfl, scanColumns_of_below h hfault]
    exact lookUpAllIn_eq s table _ files' files
  · rw [if_neg hkind, if_neg hkind]

/-- What a sheet compiles to in files with the same templates and scripts that declare more. -/
lemma compiledIn_of_below
    (h : (Resolver.ofFiles s files (some table)).Below (.ofFiles s files' (some table)))
    (htemplates : Template.ofSettings s files kind = Template.ofSettings s files' kind)
    (hc : compiledIn s kind table sheet files = .ok c) :
    compiledIn s kind table sheet files' = .ok c := by
  unfold compiledIn at hc ⊢
  by_cases hident : Text.isIdentifier table = true
  · rw [if_pos hident] at hc ⊢
    obtain ⟨u, hlooked, hcompile⟩ := except_bind_eq_ok.1 hc
    refine except_bind_eq_ok.2 ⟨u, ?_, ?_⟩
    · rw [lookedUpIn_of_below h hcompile]
      exact hlooked
    · rw [← htemplates]
      exact compile_of_below h hcompile
  · rw [if_neg hident] at hc
    cases hc

lemma compile_of_compiledIn (hc : compiledIn s kind table sheet files = .ok c) :
    compile kind table sheet (.ofFiles s files (some table)) (Template.ofSettings s files kind) =
      .ok c := by
  unfold compiledIn at hc
  split at hc
  · obtain ⟨_, -, hcompile⟩ := except_bind_eq_ok.1 hc
    exact hcompile
  · cases hc

/-- What compiles has its templates. -/
lemma exists_templates_of_compile {resolver : Resolver} {templates : Except Failure (Pairs String)}
    (hc : compile kind table sheet resolver templates = .ok c) :
    ∃ named, templates = .ok named := by
  cases kind with
  | convert =>
    obtain ⟨columns, -, hc⟩ := except_bind_eq_ok.1 hc
    obtain ⟨rows, -, hc⟩ := except_bind_eq_ok.1 hc
    obtain ⟨named, hnamed, -⟩ := except_bind_eq_ok.1 hc
    exact ⟨named, hnamed⟩
  | enum =>
    obtain ⟨enums, -, hc⟩ := except_bind_eq_ok.1 hc
    obtain ⟨named, hnamed, -⟩ := except_bind_eq_ok.1 hc
    exact ⟨named, hnamed⟩
  | «variable» =>
    obtain ⟨constants, -, hc⟩ := except_bind_eq_ok.1 hc
    obtain ⟨named, hnamed, -⟩ := except_bind_eq_ok.1 hc
    exact ⟨named, hnamed⟩

/-- What a sheet compiles to is the same in all files in which it compiles, if the templates that
can be read there are. -/
theorem compiledIn_unique
    (htemplates : ∀ named named', Template.ofSettings s files kind = .ok named →
      Template.ofSettings s files' kind = .ok named' → named = named')
    (hc : compiledIn s kind table sheet files = .ok c)
    (hc' : compiledIn s kind table sheet files' = .ok c') : c = c' := by
  have hcompile := compile_of_compiledIn hc
  have hcompile' := compile_of_compiledIn hc'
  obtain ⟨named, hnamed⟩ := exists_templates_of_compile hcompile
  obtain ⟨named', hnamed'⟩ := exists_templates_of_compile hcompile'
  obtain rfl := htemplates named named' hnamed hnamed'
  rw [hnamed] at hcompile
  rw [hnamed'] at hcompile'
  -- both are what the sheet compiles to under what either of the resolvers knows
  have hjoin := compile_of_below (Resolver.below_join_left (.ofFiles s files (some table))
    (.ofFiles s files' (some table))) hcompile
  have hjoin' := compile_of_below (Resolver.below_join_right (.ofFiles s files (some table))
    (.ofFiles s files' (some table))) hcompile'
  rw [hjoin', Except.ok.injEq] at hjoin
  exact hjoin.symm

/-! ## The files of a compiled table -/

/-- The files of a table hold what the table compiled to. -/
structure Compiled.StandsIn (s : Settings) (kind : TableKind) (table : String) (c : Compiled)
    (files : FileTree) : Prop where
  script : ∀ path, s.scriptPath? kind.name table = some path →
    files.read path = .ok (.text c.script)
  data : kind = .convert → ∀ path, s.dataPath? table = some path →
    ∃ rows, c.rows = some rows ∧
      files.read path = .ok (.text (printRecords (rows.map Row.cells)))

/-- What is written of a table stands in its files. -/
lemma standsIn_of_writing {outputs : List String} (hident : Text.isIdentifier table = true)
    (hrows : c.rows.isSome = true ↔ kind = .convert)
    (h : (writing s kind table c).apply files = (.ok outputs, files')) :
    c.StandsIn s kind table files' := by
  unfold writing at h
  cases hc : c.rows with
  | none =>
    have hkind : kind ≠ .convert := by
      rw [← hrows.ne, hc]
      simp
    rw [hc] at h
    obtain ⟨script, t, hscript, h⟩ := apply_bind_eq_ok.1 h
    cases h
    obtain ⟨hplace, hw⟩ := Filing.write_eq_ok hscript
    refine ⟨fun path hpath => ?_, fun hconvert => absurd hconvert hkind⟩
    rw [hplace, Option.some.injEq] at hpath
    rw [← hpath]
    exact FileTree.read_of_writeAtomic hw
  | some rows =>
    rw [hc] at h
    obtain ⟨data, t, hdata, h⟩ := apply_bind_eq_ok.1 h
    obtain ⟨script, u, hscript, h⟩ := apply_bind_eq_ok.1 h
    cases h
    obtain ⟨hdataPlace, hwdata⟩ := Filing.write_eq_ok hdata
    obtain ⟨hscriptPlace, hwscript⟩ := Filing.write_eq_ok hscript
    refine ⟨fun path hpath => ?_, fun _ path hpath => ⟨rows, hc, ?_⟩⟩
    · rw [hscriptPlace, Option.some.injEq] at hpath
      rw [← hpath]
      exact FileTree.read_of_writeAtomic hwscript
    · rw [hdataPlace, Option.some.injEq] at hpath
      rw [← hpath]
      -- the script is written elsewhere
      have hne := location_data_ne_script hident hident hdataPlace hscriptPlace
      exact (FileTree.changesAt_writeAtomic hwscript).read hne
        (FileTree.read_of_writeAtomic hwdata)

/-- Where the same outcome stands, the files of the table hold the same texts. -/
lemma Compiled.StandsIn.read_eq (h : c.StandsIn s kind table files)
    (h' : c.StandsIn s kind table files') {path : String} (hp : path ∈ outputPlaces s kind table) :
    ∃ text, files.read path = .ok (.text text) ∧ files'.read path = .ok (.text text) := by
  rcases mem_outputPlaces.1 hp with hscript | ⟨hkind, hdata⟩
  · exact ⟨c.script, h.script path hscript, h'.script path hscript⟩
  · obtain ⟨rows, hrows, hread⟩ := h.data hkind path hdata
    obtain ⟨rows', hrows', hread'⟩ := h'.data hkind path hdata
    rw [hrows, Option.some.injEq] at hrows'
    obtain rfl := hrows'
    exact ⟨_, hread, hread'⟩

end

/-! ## More files -/

/-- What stands in a tree stands in another one as well. -/
def FileTree.Within (t u : FileTree) : Prop :=
  ∀ l entry, t.node? l = some entry → u.node? l = some entry

section

variable {t u : FileTree} {path : String}

lemma FileTree.Within.lookup (h : t.Within u) {found : Location × Entry}
    (hf : t.lookup path = .ok found) : u.lookup path = .ok found := by
  unfold FileTree.lookup at hf ⊢
  obtain ⟨l, hl, hf⟩ := except_bind_eq_ok.1 hf
  obtain ⟨hfollow, habove, rfl⟩ := FileTree.locate_eq_ok_iff.1 hl
  have hl' : u.locate path = .ok (location path) :=
    FileTree.locate_eq_ok_iff.2 ⟨hfollow, fun d hd => h d _ (habove d hd), rfl⟩
  refine except_bind_eq_ok.2 ⟨location path, hl', ?_⟩
  cases hn : t.node? (location path) with
  | none => rw [hn] at hf; cases hf
  | some entry =>
    rw [hn] at hf
    rw [h _ entry hn]
    exact hf

lemma FileTree.Within.contains (h : t.Within u) (hc : t.contains path = true) :
    u.contains path = true := by
  unfold FileTree.contains at hc ⊢
  cases hl : t.lookup path with
  | error cause => rw [hl] at hc; cases hc
  | ok found => rw [h.lookup hl]; rfl

lemma FileTree.Within.readText (h : t.Within u) {text : String}
    (hr : t.readText path = .ok text) : u.readText path = .ok text := by
  unfold FileTree.readText FileTree.read at hr ⊢
  cases hl : t.lookup path with
  | error cause => rw [hl] at hr; cases hr
  | ok found =>
    rw [hl] at hr
    rw [h.lookup hl]
    exact hr

/-- More files declare more. -/
theorem below_of_within (h : t.Within u) (s : Settings) (table : Option String) :
    (Resolver.ofFiles s t table).Below (.ofFiles s u table) := by
  constructor
  · intro type htype
    unfold Resolver.ofFiles referenceExists at htype ⊢
    dsimp only at htype ⊢
    split
    · rename_i hblank
      rw [if_pos hblank] at htype
      exact htype
    · rename_i hblank
      rw [if_neg hblank] at htype
      split
      · rfl
      · rename_i hother
        rw [if_neg hother] at htype
        cases hplace : s.scriptPath? TableKind.convert.name (TypeToken.referencedTable type) with
        | none => rw [hplace] at htype; exact htype
        | some script =>
          rw [hplace] at htype
          exact h.contains htype
  · intro type members hmembers
    have hscript {declared : Script.Declared}
        (hd : enumScript s t type = .ok (.present declared)) :
        enumScript s u type = .ok (.present declared) := by
      unfold enumScript at hd ⊢
      dsimp only at hd ⊢
      split
      · rename_i hblank
        rw [if_pos hblank] at hd
        exact hd
      · rename_i hblank
        rw [if_neg hblank] at hd
        split
        · rename_i script hplace
          rw [hplace] at hd
          dsimp only at hd
          rw [Except.ok.injEq] at hd ⊢
          -- a script that declares something is there and can be read
          unfold enumScriptAt at hd ⊢
          cases hc : t.contains script with
          | false => rw [hc] at hd; cases hd
          | true =>
            rw [hc] at hd
            rw [h.contains hc]
            cases hr : t.readText script with
            | error e => rw [hr] at hd; cases hd
            | ok text =>
              rw [hr] at hd
              rw [h.readText hr]
              exact hd
        · rename_i hplace
          rw [hplace] at hd
          cases hd
    refine ⟨members, ?_, List.Subset.refl _⟩
    unfold Resolver.ofFiles enumMembers? at hmembers ⊢
    dsimp only at hmembers ⊢
    split at hmembers
    · rename_i declared hd
      rw [hscript hd]
      exact hmembers
    · cases hmembers

end

/-! ## Compiling in different projects -/

/-- Whether a sheet is accepted as the table of a kind, whether or not the outcome can be
written. -/
def Project.Accepts (p : Project) (s : Settings) (kind : TableKind) (table : String)
    (sheet : Sheet) : Prop :=
  ∃ c q, (Action.draft s kind table sheet).apply p = (.ok c, q)

lemma accepts_iff {p : Project} {s : Settings} {kind : TableKind} {table : String}
    {sheet : Sheet} :
    p.Accepts s kind table sheet ↔ ∃ c, compiledIn s kind table sheet p.files = .ok c := by
  obtain ⟨registry, events, -, hshown⟩ := Action.shows_draft s kind table sheet p
  rw [Filing.apply_asks] at hshown
  dsimp only at hshown
  constructor
  · rintro ⟨c, q, hdraft⟩
    rw [hshown] at hdraft
    exact ⟨c, (Prod.mk.inj hdraft).1⟩
  · rintro ⟨c, hc⟩
    rw [hc] at hshown
    exact ⟨c, _, hshown⟩

/-- A sheet that compiles stands in the files of its table. -/
lemma standsIn_of_compileSheet {s : Settings} {kind : TableKind} {table source : String}
    {sheet : Sheet} {p q : Project} {a : Compilation}
    (h : (Action.compileSheet s kind table source sheet).apply p = (.ok a, q)) :
    ∃ c, compiledIn s kind table sheet p.files = .ok c ∧ c.StandsIn s kind table q.files ∧
      a = .ofTexts kind.name table source (outputPlaces s kind table) := by
  have hf := (Action.shows_compileSheet s kind table source sheet p).apply_eq_ok h
  rw [Filing.apply_asks_bind] at hf
  cases hc : compiledIn s kind table sheet p.files with
  | error f => rw [hc] at hf; cases hf
  | ok c =>
    rw [hc] at hf
    obtain ⟨outputs, files, hw, hf⟩ := apply_bind_eq_ok.1 hf
    obtain ⟨ha, hfiles⟩ := Prod.mk.inj hf
    obtain ⟨hident, hrows⟩ := rows_of_compiledIn hc
    have houtputs := (writing_eq_ok hrows hw).1
    rw [← houtputs, ← hfiles]
    exact ⟨c, rfl, standsIn_of_writing hident hrows hw, (Except.ok.inj ha).symm⟩

/-- Other tables only decide whether a sheet is accepted. In two projects with the same templates
and anything else in their files, a sheet that compiles in both is recorded alike and has the same
texts in its files. And if the scripts of the second project declare what those of the first do, a
sheet that compiles in the first one is accepted in the second, and compiles there wherever its
files can be written. -/
theorem compileSheet_gated (s : Settings) (kind : TableKind) (table source : String)
    (sheet : Sheet) (p q : Project)
    (htemplates : Template.ofSettings s p.files kind = Template.ofSettings s q.files kind) :
    (∀ a b p' q', (Action.compileSheet s kind table source sheet).apply p = (.ok a, p') →
      (Action.compileSheet s kind table source sheet).apply q = (.ok b, q') →
      a = b ∧ a = .ofTexts kind.name table source (outputPlaces s kind table) ∧
        ∀ output ∈ outputPlaces s kind table, ∃ text,
          p'.files.readText output = .ok text ∧ q'.files.readText output = .ok text) ∧
    ((Resolver.ofFiles s p.files (some table)).Below (.ofFiles s q.files (some table)) →
      ((∃ a p', (Action.compileSheet s kind table source sheet).apply p = (.ok a, p')) →
        p.Accepts s kind table sheet) ∧
      (p.Accepts s kind table sheet → q.Accepts s kind table sheet ∧
        (q.files.AdmitsTable s kind table →
          ∃ b q', (Action.compileSheet s kind table source sheet).apply q = (.ok b, q')))) := by
  constructor
  · intro a b p' q' ha hb
    obtain ⟨c, hc, hstands, rfl⟩ := standsIn_of_compileSheet ha
    obtain ⟨c', hc', hstands', rfl⟩ := standsIn_of_compileSheet hb
    have hnamed : ∀ named named', Template.ofSettings s p.files kind = .ok named →
        Template.ofSettings s q.files kind = .ok named' → named = named' := by
      intro named named' hp hq
      rw [htemplates, hq] at hp
      exact (Except.ok.inj hp).symm
    obtain rfl := compiledIn_unique hnamed hc hc'
    refine ⟨rfl, rfl, fun output ho => ?_⟩
    obtain ⟨text, hread, hread'⟩ := hstands.read_eq hstands' ho
    exact ⟨text, FileTree.readText_of_read hread, FileTree.readText_of_read hread'⟩
  · intro hbelow
    constructor
    · rintro ⟨a, p', ha⟩
      obtain ⟨c, hc, -, -⟩ := standsIn_of_compileSheet ha
      exact accepts_iff.2 ⟨c, hc⟩
    · intro haccepts
      obtain ⟨c, hc⟩ := accepts_iff.1 haccepts
      have hc' := compiledIn_of_below hbelow htemplates hc
      exact ⟨accepts_iff.2 ⟨c, hc'⟩,
        fun hadmits => exists_compileSheet_of_compiledIn hc' hadmits source⟩

/-- A resolver that knows one enumeration and nothing else. -/
def Resolver.knowing (type : String) (members : List String) : Resolver :=
  ⟨fun _ => false, fun other => if other = type then .some members else .none⟩

lemma Resolver.below_of_knowing {s : Settings} {files : FileTree} {type : String}
    {members : List String} (h : enumMembers? s files type = some members)
    (table : Option String) : (knowing type members).Below (.ofFiles s files table) := by
  refine ⟨fun other hother => absurd hother Bool.false_ne_true, fun other found hfound => ?_⟩
  by_cases htype : other = type
  · subst htype
    refine ⟨found, ?_, List.Subset.refl _⟩
    rw [members?_ofFiles, h, ← hfound]
    exact (if_pos rfl).symm
  · have hnone : (knowing type members).members? other = .none := if_neg htype
    rw [hnone] at hfound
    cases hfound

/-- A sheet with a column of an enumeration. -/
def gradeSheet : Sheet :=
  ⟨[["ID", "Grade"], ["string", "EmKind.Grade"], ["Sword", "Rare"]]⟩

/-- The files of a project with the script of an Enum table, among further files. -/
def kindFiles (more : List (Location × Entry)) : FileTree :=
  ⟨[(["Dist"], .directory), (["Dist", "Enum"], .directory),
    (["Dist", "Enum", "Kind.py"], .file (.text (Template.lines
      ["from enum import Enum", "class EmKind:", "    class Grade(Enum):",
        "        Rare = \"Rare\""])))] ++ more⟩

/-- A project with the script of an Enum table, among further files. -/
def kindProject (more : List (Location × Entry)) : Project :=
  .ofFiles (.ofDirectories "Dist" "Resources") (kindFiles more) "Resources"

/-- The directory of data files with the file of another table. -/
def enemyFiles : List (Location × Entry) :=
  [(["Resources"], .directory), (["Resources", "Enemy.json"], .file (.text "[]"))]

lemma within_kindFiles (more : List (Location × Entry)) :
    (kindFiles []).Within (kindFiles more) := by
  intro l entry h
  unfold FileTree.node? kindFiles at h ⊢
  by_cases hl : l = []
  · rw [if_pos hl] at h ⊢
    exact h
  · rw [if_neg hl] at h ⊢
    rw [List.append_nil, Option.map_eq_some_iff] at h
    obtain ⟨e, he, rfl⟩ := h
    rw [List.find?_append, he]
    rfl

/-- The sheet compiles beside the script that declares its enumeration. -/
lemma exists_compileSheet_kindProject :
    ∃ a p', (Action.compileSheet (kindProject []).settings .convert "Item" "Item.xlsx"
      gradeSheet).apply (kindProject []) = (.ok a, p') := by
  have hmembers : enumMembers? (kindProject []).settings (kindProject []).files "EmKind.Grade" =
      some ["Rare"] := by decide +kernel
  -- the sheet asks for nothing else
  have hbelow := Resolver.below_of_knowing hmembers (some "Item")
  have hcolumns : readColumns gradeSheet (.knowing "EmKind.Grade" ["Rare"]) =
      .ok [⟨1, "Grade", "EmKind.Grade", false⟩] := rfl
  have hplaces : outputPlaces (kindProject []).settings .convert "Item" =
      ["Dist/Convert/Item.py", "Resources/Item.json"] := by decide
  have hadmits : (kindProject []).files.AdmitsTable (kindProject []).settings .convert "Item" := by
    refine ⟨rfl, fun _ => rfl, ?_, ?_⟩ <;> rw [hplaces]
    · decide +kernel
    · decide +kernel
  exact exists_compileSheet rfl rfl (by decide) (readColumns_of_below hbelow hcolumns)
    (readRowsAt_of_below hbelow rfl) hadmits _

/-- With the files of another table in its directory the sheet compiles to the same data file. -/
theorem kindProject_gated :
    ∃ a p' q' text,
      (Action.compileSheet (kindProject []).settings .convert "Item" "Item.xlsx" gradeSheet).apply
        (kindProject []) = (.ok a, p') ∧
      (Action.compileSheet (kindProject []).settings .convert "Item" "Item.xlsx" gradeSheet).apply
        (kindProject enemyFiles) = (.ok a, q') ∧
      p'.files.readText "Resources/Item.json" = .ok text ∧
      q'.files.readText "Resources/Item.json" = .ok text := by
  obtain ⟨hsame, hgated⟩ := compileSheet_gated (kindProject []).settings .convert "Item" "Item.xlsx"
    gradeSheet (kindProject []) (kindProject enemyFiles) rfl
  obtain ⟨a, p', ha⟩ := exists_compileSheet_kindProject
  have hplaces : outputPlaces (kindProject []).settings .convert "Item" =
      ["Dist/Convert/Item.py", "Resources/Item.json"] := by decide
  have hadmits : (kindProject enemyFiles).files.AdmitsTable (kindProject []).settings .convert
      "Item" := by
    refine ⟨rfl, fun _ => rfl, ?_, ?_⟩ <;> rw [hplaces]
    · decide +kernel
    · decide +kernel
  obtain ⟨haccepted, haccepts⟩ := hgated (below_of_within (within_kindFiles enemyFiles) _ _)
  obtain ⟨-, hcompiles⟩ := haccepts (haccepted ⟨a, p', ha⟩)
  obtain ⟨b, q', hb⟩ := hcompiles hadmits
  obtain ⟨rfl, -, htexts⟩ := hsame a b p' q' ha hb
  obtain ⟨text, hp, hq⟩ := htexts "Resources/Item.json" (by rw [hplaces]; decide)
  exact ⟨a, p', q', text, ha, hb, hp, hq⟩

end SheetCompiler
