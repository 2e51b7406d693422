import SheetCompiler.Proofs.Compile.References

/-!
# Projects of scripts of tables

Compiling a workbook consults the scripts of enumerations and takes over what they declare. Where
every script is that of a table, that is no table: a project without registered tables stays one,
and stays linked (`Project.IsLinked`), until its scripts are loaded.

Main statements:

* `FileTree.IsLinked.tables_of_enumScript`: what is consulted declares no table;
* `staysLinked_compileNext`: an attempt at a workbook leaves a project linked.
-/

namespace SheetCompiler

open SheetCompiler.Path SheetCompiler.Script SheetCompiler.Stateful

variable {s : Settings} {scripts table name label path text : String} {files : FileTree}

/-! ## Consulting scripts -/

/-- What a workbook shows to a reader of texts is no script that runs to its end. -/
lemma run_workbookMark (module : String) :
    ∃ fault, Script.run module FileTree.workbookMark = (.start module, some fault) := ⟨_, rfl⟩

/-- What is read is the text of the file, or what a workbook shows. -/
lemma FileTree.textAt?_of_readText (h : files.readText path = .ok text) :
    files.textAt? (location path) = some text ∨ text = FileTree.workbookMark := by
  obtain ⟨content, hread⟩ := FileTree.isFile_of_readText h
  have hplace := FileTree.content?_eq_some_iff.2 (FileTree.read_eq_ok_iff.1 hread).2.1
  rw [FileTree.readText, hread] at h
  cases content with
  | workbook cells => exact .inr (Except.ok.inj h).symm
  | _ =>
    rw [FileTree.textAt?, hplace]
    exact .inl (congrArg some (Except.ok.inj h))

/-- What is read in the place of an Enum script declares no table. -/
lemma FileTree.IsLinked.tables_run_enum (h : files.IsLinked s scripts) (hslash : '/' ∉ name.toList)
    (hread : files.readText (Settings.scriptPath scripts .enum name) = .ok text)
    (module : String) : (Script.run module text).1.tables = [] := by
  rcases textAt?_of_readText hread with hthere | rfl
  · rw [location_scriptPath_eq hslash] at hthere
    obtain ⟨table, -, hscript⟩ := h.scripts .enum _ text (isScript_append name) hthere
    exact hscript.others (by simp) module
  · obtain ⟨fault, hrun⟩ := run_workbookMark module
    rw [hrun]
    rfl

/-- What an Enum script is taken to declare is what running it declares. -/
lemma eq_of_enumScriptAt {script : String} {d : Declared}
    (hd : enumScriptAt files table script = .present d ∨
      ∃ path, enumScriptAt files table script = .broken path d) :
    d = .nothing ∨ ∃ text, files.readText script = .ok text ∧
      d = (Script.run (TableKind.enum.moduleOf table) text).1 := by
  unfold enumScriptAt at hd
  split_ifs at hd
  · simp at hd
  · split at hd
    · refine .inl ?_
      simpa [eq_comm] using hd
    · rename_i text hread
      refine .inr ⟨text, hread, ?_⟩
      split at hd
      · rename_i hrun
        rw [hrun]
        simpa [eq_comm] using hd
      · rename_i hrun
        rw [hrun]
        simpa [eq_comm] using hd

/-- What is taken over of the script of an enumeration type holds no table. -/
lemma FileTree.IsLinked.tables_of_enumScript (h : files.IsLinked s scripts)
    (hscripts : s.scripts = .text scripts) {type : String}
    (htoken : TypeToken.classify type = .enumeration) {d : Declared}
    (hd : enumScript s files type = .ok (.present d) ∨
      ∃ path, enumScript s files type = .ok (.broken path d)) : d.tables = [] := by
  obtain ⟨container, path, hsplit⟩ : ∃ container path,
      TypeToken.splitContainer type = (container, path) := ⟨_, _, rfl⟩
  have hslash : '/' ∉ (TypeToken.unmarked container).toList := by
    have hcontainer : container = String.ofList (type.toList.takeWhile (· ≠ '.')) :=
      (congrArg Prod.fst hsplit).symm
    rw [TypeToken.unmarked, hcontainer, String.toList_ofList, String.toList_ofList]
    intro hmem
    have hchar := (TypeToken.chars_of_classify (by simp [htoken])).2 _
      ((List.takeWhile_sublist _).mem (List.mem_of_mem_drop hmem))
    revert hchar
    decide
  rw [enumScript, hsplit] at hd
  dsimp only at hd
  split_ifs at hd
  · simp at hd
  · rw [Settings.scriptPath?_eq hscripts] at hd
    simp only [Except.ok.injEq] at hd
    rcases eq_of_enumScriptAt hd with rfl | ⟨text, hread, rfl⟩
    · rfl
    · exact h.tables_run_enum hslash hread _

/-! ## Linked projects -/

/-- Every script is that of a table, under the settings of a project and of its manifest, and no
table is registered. -/
structure Project.IsLinked (s : Settings) (scripts : String) (p : Project) : Prop where
  settings : p.settings = s
  loaded : p.loaded = s
  files : p.files.IsLinked s scripts
  tables : p.registry.tables = []

namespace Action

variable {α β : Type}

/-- An action leaves a linked project linked. -/
def StaysLinked (s : Settings) (scripts : String) (a : Action α) : Prop :=
  ∀ p, p.IsLinked s scripts → (a.apply p).2.IsLinked s scripts

lemma staysLinked_pure (x : α) : StaysLinked s scripts (pure x) := fun _ hp => hp

lemma staysLinked_throw (e : Failure) : StaysLinked s scripts (throw e : Action α) := fun _ hp => hp

lemma staysLinked_ofExcept (r : Except Failure α) : StaysLinked s scripts (ofExcept r) := by
  cases r with
  | ok x => exact staysLinked_pure x
  | error e => exact staysLinked_throw e

lemma staysLinked_report (e : Event) : StaysLinked s scripts (report e) :=
  fun _ hp => ⟨hp.settings, hp.loaded, hp.files, hp.tables⟩

lemma StaysLinked.bind {a : Action α} {f : α → Action β} (ha : StaysLinked s scripts a)
    (hf : ∀ x, StaysLinked s scripts (f x)) : StaysLinked s scripts (a >>= f) := by
  intro p hp
  have hu := ha p hp
  rw [apply_bind]
  rcases hrun : a.apply p with ⟨e | x, u⟩
  · rw [hrun] at hu
    exact hu
  · rw [hrun] at hu
    exact hf x u hu

/-- What an action does may depend on a project that is linked. -/
lemma staysLinked_get {f : Project → Action α}
    (hf : ∀ p, p.IsLinked s scripts → StaysLinked s scripts (f p)) :
    StaysLinked s scripts (get >>= f) := by
  intro p hp
  rw [apply_bind_of_ok (apply_get p)]
  exact hf p hp p hp

lemma StaysLinked.forM {f : α → Action PUnit} {xs : List α}
    (hf : ∀ x ∈ xs, StaysLinked s scripts (f x)) : StaysLinked s scripts (xs.forM f) := by
  induction xs with
  | nil => exact staysLinked_pure _
  | cons x xs ih =>
    rw [List.forall_mem_cons] at hf
    exact hf.1.bind fun _ => ih hf.2

/-! ## Compiling a sheet -/

section

variable (hscripts : s.scripts = .text scripts)
include hscripts

lemma staysLinked_consult {type : String} (htoken : TypeToken.classify type = .enumeration) :
    StaysLinked s scripts (consult s type) := by
  refine staysLinked_get fun p hp => ?_
  intro q hq
  have hdeclare {d : Declared} (hd : d.tables = []) (events : List Event) :
      ({ p with registry := p.registry.declare d, events } : Project).IsLinked s scripts := by
    have htables := Registry.tables_declare (r := p.registry) [d]
    rw [List.flatMap_singleton, hd, hp.tables] at htables
    exact ⟨hp.settings, hp.loaded, hp.files, htables⟩
  cases hscript : enumScript s p.files type with
  | error e => exact hq
  | ok found =>
    cases found with
    | absent => exact hq
    | present d =>
      exact hdeclare (hp.files.tables_of_enumScript hscripts htoken (.inl hscript)) _
    | broken path d =>
      exact hdeclare (hp.files.tables_of_enumScript hscripts htoken (.inr ⟨path, hscript⟩)) _

lemma staysLinked_lookUp (table type : String) : StaysLinked s scripts (lookUp s table type) := by
  unfold lookUp
  split
  · exact staysLinked_get fun p _ => (staysLinked_ofExcept _).bind fun _ => staysLinked_pure _
  · rename_i htoken
    exact staysLinked_consult hscripts htoken
  · exact staysLinked_pure _

/-- A sheet is compiled without registering a table. -/
lemma staysLinked_draft (kind : TableKind) (table : String) (sheet : Sheet) :
    StaysLinked s scripts (draft s kind table sheet) := by
  have hresolver : StaysLinked s scripts (resolver s (some table)) :=
    staysLinked_get fun p _ => staysLinked_pure _
  have hscan : StaysLinked s scripts (scanOf s table sheet) :=
    hresolver.bind fun _ => (StaysLinked.forM fun type _ =>
      staysLinked_lookUp hscripts table type).bind fun _ => staysLinked_pure _
  have hcompile (templates : Except Failure (Pairs String)) : StaysLinked s scripts (do
      ofExcept (compile kind table sheet (← resolver s (some table)) templates)) :=
    hresolver.bind fun _ => staysLinked_ofExcept _
  have hcheck : StaysLinked s scripts (checkTableName table) := by
    unfold checkTableName
    split
    · exact staysLinked_pure _
    · exact staysLinked_throw _
  refine hcheck.bind fun _ => staysLinked_get fun p _ => ?_
  dsimp only
  split
  · exact hscan.bind fun _ => hcompile _
  · exact hcompile _

end

lemma staysLinked_readSheet (path : String) : StaysLinked s scripts (readSheet path) := by
  intro p hp
  unfold readSheet
  dsimp only
  split
  · exact hp
  · rw [apply_bind_of_ok (apply_get p)]
    split
    · exact hp
    · exact hp
    · exact hp
    · exact ⟨hp.settings, hp.loaded, hp.files, hp.tables⟩

/-! ## Compiling a workbook -/

/-- Writing what a sheet compiled to leaves the registry as it is. -/
lemma keeps_registry_writeCompiled (kind : TableKind) (table : String) (c : Compiled) :
    Keeps (fun p q : Project => q.registry = p.registry) (writeCompiled s kind table c) := by
  have hr (p : Project) : p.registry = p.registry := rfl
  have ht (p q r : Project) (h : q.registry = p.registry) (h' : r.registry = q.registry) :
      r.registry = p.registry := h'.trans h
  have hfile (path text : String) (e : Event) :
      Keeps (fun p q : Project => q.registry = p.registry) (do
        onFiles (FileTree.writeAtomic path text)
        report e
        return path) :=
    .bind ht (fun p => by rw [apply_onFiles]) fun _ => .bind ht (fun _ => rfl) fun _ => .pure hr _
  have hdata (rows : List Row) :
      Keeps (fun p q : Project => q.registry = p.registry) (writeData s table rows) := by
    unfold writeData
    split
    · exact .throw hr _
    · exact hfile _ _ _
  have hscript (kind script : String) :
      Keeps (fun p q : Project => q.registry = p.registry) (writeScript s kind table script) := by
    unfold writeScript
    split
    · exact .throw hr _
    · exact hfile _ _ _
  unfold writeCompiled
  split
  · exact .bind ht (hdata _) fun _ => .bind ht (hscript _ _) fun _ => .pure hr _
  · exact .bind ht (hscript _ _) fun _ => .pure hr _

lemma registry_record (c : Compilation) (p : Project) :
    ((record c).apply p).2.registry = p.registry := by
  by_cases hkey : c.name.isKey = true
  · rw [apply_record hkey]
  · rw [record, if_neg hkey]
    rfl

/-- Recording what a workbook compiled to leaves the registry as it is. -/
lemma registry_compileNext (s : Settings) (label path : String) (p : Project) :
    ((compileNext s label path).apply p).2.registry =
      ((compileFile s label path).apply p).2.registry := by
  rw [apply_compileNext]
  rcases (compileFile s label path).apply p with ⟨f | c, q⟩
  · dsimp only
    split <;> rfl
  · dsimp only
    have hrecord := registry_record c q
    rw [apply_bind]
    rcases hr : (record c).apply q with ⟨f | _, u⟩
    · rw [hr] at hrecord
      exact hrecord
    · rw [hr] at hrecord
      exact hrecord

section

variable (hscripts : s.scripts = .text scripts)
include hscripts

/-- Compiling a workbook registers no table. -/
lemma tables_compileFile {p : Project} (hp : p.IsLinked s scripts) (label path : String) :
    ((compileFile s label path).apply p).2.registry.tables = [] := by
  unfold compileFile
  cases TableKind.ofLabel? label with
  | none => exact hp.tables
  | some kind =>
    dsimp only
    rw [apply_bind]
    have hread := staysLinked_readSheet path p hp
    rcases hu : (readSheet path).apply p with ⟨e | sheet, u⟩
    · rw [hu] at hread
      exact hread.tables
    · rw [hu] at hread
      dsimp only
      rw [compileSheet_eq, apply_bind]
      have hdraft := staysLinked_draft hscripts kind (tableNameOf path) sheet u hread
      rcases hv : (draft s kind (tableNameOf path) sheet).apply u with ⟨e | c, v⟩
      · rw [hv] at hdraft
        exact hdraft.tables
      · rw [hv] at hdraft
        dsimp only
        rw [apply_bind]
        have hwritten : ((writeCompiled s kind (tableNameOf path) c).apply v).2.registry =
            v.registry := keeps_registry_writeCompiled kind (tableNameOf path) c v
        rcases hw : (writeCompiled s kind (tableNameOf path) c).apply v with ⟨e | outputs, w⟩
        · rw [hw] at hwritten
          dsimp only at hwritten ⊢
          rw [hwritten]
          exact hdraft.tables
        · rw [hw] at hwritten
          have hreported : ((do
              report c.event
              return Compilation.ofTexts kind.name (tableNameOf path) path outputs :
                Action Compilation).apply w).2.registry = w.registry := rfl
          dsimp only at hwritten ⊢
          rw [hreported, hwritten]
          exact hdraft.tables

/-- An attempt at a workbook leaves a project linked, if the manifest is beside the scripts and the
data files. -/
theorem staysLinked_compileNext (htemplates : s.templates = none)
    (hbeside : ∀ place, s.manifest = .text place → s.IsBeside scripts place)
    (label path : String) : StaysLinked s scripts (compileNext s label path) := by
  intro p hp
  have hfiles := isLinked_compiling htemplates hscripts hp.files label path
  have htables : ((compileNext s label path).apply p).2.registry.tables = [] := by
    rw [registry_compileNext]
    exact tables_compileFile hscripts hp label path
  rcases hc : (compiling s label path).apply p.files with ⟨f | c, files⟩
  · obtain ⟨_, _, hnext⟩ := compileNext_of_error hc
    rw [hc] at hfiles
    rw [hnext] at htables ⊢
    exact ⟨hp.settings, hp.loaded, hfiles, htables⟩
  · obtain ⟨_, _, hnext⟩ := compileNext_of_ok hc
    rw [hc] at hfiles
    rw [hnext] at htables ⊢
    refine ⟨hp.settings, hp.loaded, ?_, htables⟩
    rw [hp.loaded]
    exact isLinked_recording hbeside hfiles _

end

end Action

end SheetCompiler
