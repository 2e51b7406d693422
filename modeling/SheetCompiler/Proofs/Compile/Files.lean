import SheetCompiler.Compile.Batch
import SheetCompiler.Proofs.FileTree.Change

/-!
# Compiling as a matter of the files

Compiling a workbook takes a whole project, but its outcome and what it makes of the files are a
matter of the files alone (`compiling`). Of the rest of a project it touches what scripts have
declared and what has been reported, and what it reports is no error (`Shows`).

Main statements:

* `compilesTo_or_error`: a workbook compiles to something that is then written, or nothing happens;
* `Shows.bind`: what two actions show one after the other;
* `shows_compileFile`: what compiling a workbook shows.
-/

namespace SheetCompiler

open SheetCompiler.Stateful

/-! ## Computations on files -/

/-- A computation on files that may fail as actions do. -/
abbrev Filing (α : Type) := Stateful Failure FileTree α

namespace Filing

variable {α β : Type}

/-- What the files say. -/
def asks (f : FileTree → Except Failure α) : Filing α := fun files => (f files, files)

/-- An operation on the files. -/
def ofUpdate (u : FileTree.Update α) : Filing α := fun files =>
  ((u.apply files).1.mapError .file, (u.apply files).2)

@[simp] lemma apply_asks (f : FileTree → Except Failure α) (files : FileTree) :
    (asks f).apply files = (f files, files) := rfl

/-- What follows a question is a matter of the answer. -/
lemma apply_asks_bind (f : FileTree → Except Failure α) (g : α → Filing β) (files : FileTree) :
    (asks f >>= g).apply files =
      match f files with
      | .ok x => (g x).apply files
      | .error e => (.error e, files) := by
  rw [apply_bind, apply_asks]
  cases f files <;> rfl

@[simp] lemma apply_ofUpdate (u : FileTree.Update α) (files : FileTree) :
    (ofUpdate u).apply files = ((u.apply files).1.mapError .file, (u.apply files).2) := rfl

/-- Writes a text to a place that must be there, and gives the place. -/
def write (place? : Option String) (text : String) : Filing String :=
  match place? with
  | none => throw .shape
  | some path => do
    ofUpdate (FileTree.writeAtomic path text)
    return path

/-- Writes a value to a file. One that is not whole cannot be encoded. -/
def writeValue (path : String) (value : Json) : Filing Unit :=
  if value.isWhole then ofUpdate (FileTree.writeAtomic path value.print)
  else do
    ofUpdate (FileTree.writeNothing path)
    throw (.encoding value.printedPoints)

/-- An operation on the files succeeds as a computation on them if it does. -/
lemma ofUpdate_eq_ok {u : FileTree.Update α} {files files' : FileTree} {x : α} :
    (ofUpdate u).apply files = (.ok x, files') ↔ u.apply files = (.ok x, files') := by
  rw [apply_ofUpdate, Prod.mk.injEq, mapError_eq_ok, Prod.ext_iff]

lemma writeValue_eq_ok {path : String} {value : Json} {files files' : FileTree}
    (h : (writeValue path value).apply files = (.ok (), files')) :
    (ofUpdate (FileTree.writeAtomic path value.print)).apply files = (.ok (), files') := by
  unfold writeValue at h
  split at h
  · exact h
  · obtain ⟨_, _, -, hthrow⟩ := apply_bind_eq_ok.1 h
    cases hthrow

/-- Writing a value is a write to its path, also if the value cannot be encoded. -/
lemma isWriteTo_writeValue (path : String) (value : Json) (files : FileTree) :
    FileTree.IsWriteTo path files ((writeValue path value).apply files).2 := by
  unfold writeValue
  split
  · rcases hw : (FileTree.writeAtomic path value.print).apply files with ⟨r, files'⟩
    rw [apply_ofUpdate, hw]
    exact FileTree.isWriteTo_of_writeAtomic hw
  · have hgrows := FileTree.growsAt_writeNothing path files
    rw [apply_bind, apply_ofUpdate]
    rcases hw : (FileTree.writeNothing path).apply files with ⟨e | _, files'⟩ <;>
    · rw [hw] at hgrows
      exact .directories hgrows

/-- A value that is not written changes no file. -/
lemma changesAt_of_writeValue_error {path : String} {value : Json} {files files' : FileTree}
    {f : Failure} (h : (writeValue path value).apply files = (.error f, files'))
    (locs : Set Location) : files.ChangesAt locs files' := by
  unfold writeValue at h
  split at h
  · rcases hw : (FileTree.writeAtomic path value.print).apply files with ⟨e | _, u⟩
    · rw [apply_ofUpdate, hw] at h
      cases h
      exact FileTree.changesAt_of_writeAtomic_error hw
    · rw [apply_ofUpdate, hw] at h
      cases h
  · have hgrows := FileTree.growsAt_writeNothing path files
    rw [apply_bind, apply_ofUpdate] at h
    rcases hw : (FileTree.writeNothing path).apply files with ⟨e | _, u⟩ <;>
    · rw [hw] at h hgrows
      cases h
      exact hgrows.changesAt

lemma write_eq_ok {place? : Option String} {text path : String} {t u : FileTree}
    (h : (write place? text).apply t = (.ok path, u)) :
    place? = some path ∧ (FileTree.writeAtomic path text).apply t = (.ok (), u) := by
  cases place? with
  | none => cases h
  | some place =>
    obtain ⟨_, v, hw, hpure⟩ := apply_bind_eq_ok.1 h
    cases hpure
    exact ⟨rfl, ofUpdate_eq_ok.1 hw⟩

lemma write_of_ok {path text : String} {t u : FileTree}
    (h : (FileTree.writeAtomic path text).apply t = (.ok (), u)) :
    (write (some path) text).apply t = (.ok path, u) := by
  rw [write, apply_bind_of_ok (ofUpdate_eq_ok.2 h)]
  rfl

end Filing

/-! ## What actions show -/

namespace Action

variable {α β : Type}

/-- An action does on the files of a project what a computation says, and reports no error; what it
leaves is otherwise the project before, with other declarations. -/
def ShowsAt (a : Action α) (u : Filing α) (p : Project) : Prop :=
  ∃ registry events, (∀ e ∈ events, e.level ≠ .error) ∧
    a.apply p = ((u.apply p.files).1,
      { p with files := (u.apply p.files).2, registry, events := p.events ++ events })

/-- An action shows a computation on every project. -/
def Shows (a : Action α) (u : Filing α) : Prop := ∀ p, a.ShowsAt u p

lemma showsAt_pure (x : α) (p : Project) : ShowsAt (pure x) (pure x) p :=
  ⟨p.registry, [], by simp, by simp⟩

lemma showsAt_throw (e : Failure) (p : Project) :
    ShowsAt (throw e : Action α) (throw e) p :=
  ⟨p.registry, [], by simp, by simp⟩

/-- What follows a failure is never done. -/
lemma shows_throw_bind (e : Failure) (f : α → Action β) :
    Shows (throw e >>= f) (.asks fun _ => .error e) :=
  fun p => ⟨p.registry, [], by simp, by simp⟩

lemma shows_ofExcept (r : Except Failure α) : Shows (ofExcept r) (Filing.asks fun _ => r) := by
  intro p
  cases r with
  | ok x => exact showsAt_pure x p
  | error e => exact showsAt_throw e p

lemma ShowsAt.bind {a : Action α} {u : Filing α} {f : α → Action β} {g : α → Filing β}
    {p : Project} (ha : ShowsAt a u p)
    (hf : ∀ x, (u.apply p.files).1 = .ok x → Shows (f x) (g x)) :
    ShowsAt (a >>= f) (u >>= g) p := by
  obtain ⟨registry, events, hquiet, hap⟩ := ha
  unfold ShowsAt
  rw [apply_bind, apply_bind, hap]
  rcases hu : u.apply p.files with ⟨e | x, files⟩
  · exact ⟨registry, events, hquiet, rfl⟩
  · obtain ⟨registry', events', hquiet', hfp⟩ :=
      hf x (by rw [hu]) { p with files, registry, events := p.events ++ events }
    refine ⟨registry', events ++ events', ?_, ?_⟩
    · intro e he
      rcases List.mem_append.1 he with he | he
      · exact hquiet e he
      · exact hquiet' e he
    · dsimp only at hfp ⊢
      rw [hfp, List.append_assoc]

lemma ShowsAt.congr {a : Action α} {u v : Filing α} {p : Project} (ha : ShowsAt a u p)
    (huv : u.apply p.files = v.apply p.files) : ShowsAt a v p := by
  unfold ShowsAt at ha ⊢
  rwa [← huv]

/-- What an action that succeeds leaves of the files is what it shows. -/
lemma ShowsAt.apply_eq_ok {a : Action α} {u : Filing α} {p q : Project} {x : α}
    (h : ShowsAt a u p) (ha : a.apply p = (.ok x, q)) : u.apply p.files = (.ok x, q.files) := by
  obtain ⟨registry, events, -, hap⟩ := h
  rw [ha] at hap
  rcases hu : u.apply p.files with ⟨r, files⟩
  rw [hu] at hap
  cases hap
  rfl

/-- Actions one after the other show what they show one after the other. -/
lemma Shows.bind {a : Action α} {u : Filing α} {f : α → Action β} {g : α → Filing β}
    (ha : Shows a u) (hf : ∀ x, Shows (f x) (g x)) : Shows (a >>= f) (u >>= g) :=
  fun p => (ha p).bind fun x _ => hf x

/-- Questions one after the other are one question. -/
lemma Shows.asks_bind {a : Action α} {q : FileTree → Except Failure α} {f : α → Action β}
    {g : α → FileTree → Except Failure β} (ha : Shows a (.asks q))
    (hf : ∀ x, Shows (f x) (.asks (g x))) :
    Shows (a >>= f) (.asks fun files => q files >>= fun x => g x files) := by
  refine fun p => (ha.bind hf p).congr ?_
  rw [Filing.apply_asks_bind, Filing.apply_asks]
  cases q p.files <;> rfl

/-- An action that looks at the project first shows what it shows there. -/
lemma shows_get {f : Project → Action α} {u : Filing α} (h : ∀ p, ShowsAt (f p) u p) :
    Shows (get >>= f) u := fun p => h p

/-- A report that is no error shows nothing. -/
lemma shows_report {e : Event} (h : e.level ≠ .error) : Shows (report e) (pure ()) :=
  fun p => ⟨p.registry, [e], by simpa using h, rfl⟩

lemma apply_onFiles (u : FileTree.Update α) (p : Project) :
    (onFiles u).apply p =
      ((u.apply p.files).1.mapError .file, { p with files := (u.apply p.files).2 }) := rfl

lemma writeValue_of_isWhole {value : Json} (h : value.isWhole = true) (path : String) :
    writeValue path value = onFiles (FileTree.writeAtomic path value.print) := if_pos h

/-- Writing a value is a matter of the files. -/
lemma apply_writeValue (path : String) (value : Json) (p : Project) :
    (writeValue path value).apply p =
      (((Filing.writeValue path value).apply p.files).1,
        { p with files := ((Filing.writeValue path value).apply p.files).2 }) := by
  unfold writeValue Filing.writeValue
  split
  · rw [apply_onFiles, Filing.apply_ofUpdate]
  · rw [apply_bind, apply_bind, apply_onFiles, Filing.apply_ofUpdate]
    rcases (FileTree.writeNothing path).apply p.files with ⟨e | _, files⟩ <;> rfl

/-- An action that is attempted always succeeds, with its result or its failure. -/
lemma apply_attempt (a : Action α) (p : Project) :
    (attempt a).apply p = (.ok (a.apply p).1, (a.apply p).2) := rfl

lemma shows_onFiles (u : FileTree.Update α) : Shows (onFiles u) (.ofUpdate u) :=
  fun p => ⟨p.registry, [], by simp, by rw [List.append_nil]; rfl⟩

end Action

/-! ## Looking at other tables -/

/-- What keeps the type of a column from being looked up: settings without a place for scripts. -/
def lookUpIn (s : Settings) (table type : String) (files : FileTree) :
    Except Failure Unit :=
  match TypeToken.classify type with
  | .tableReference => (referenceExists s files (some table) type).map fun _ => ()
  | .enumeration => (enumScript s files type).map fun _ => ()
  | _ => .ok ()

/-- Looks types up, one after the other. -/
def lookUpAllIn (s : Settings) (table : String) (types : List String) (files : FileTree) :
    Except Failure Unit :=
  match types with
  | [] => .ok ()
  | type :: types => do
    lookUpIn s table type files
    lookUpAllIn s table types files

namespace Action

lemma shows_consult (s : Settings) (type : String) :
    Shows (consult s type) (.asks fun files => (enumScript s files type).map fun _ => ()) := by
  refine shows_get fun p => ?_
  unfold ShowsAt
  rw [Filing.apply_asks, apply_bind]
  cases enumScript s p.files type with
  | error e => exact ⟨p.registry, [], by simp, by simp [ofExcept, Except.map]⟩
  | ok outcome =>
    cases outcome with
    | absent => exact ⟨p.registry, [], by simp, by simp [ofExcept, Except.map]⟩
    | present declared =>
      exact ⟨p.registry.declare declared, [], by simp, by simp [ofExcept, Except.map]⟩
    | broken path declared =>
      refine ⟨p.registry.declare declared, [.enumsUnavailable path], by simp [Event.level], ?_⟩
      simp [ofExcept, Except.map, report]

lemma shows_lookUp (s : Settings) (table type : String) :
    Shows (lookUp s table type) (.asks (lookUpIn s table type)) := by
  unfold lookUp lookUpIn
  cases TypeToken.classify type with
  | tableReference =>
    refine shows_get fun p => ?_
    unfold ShowsAt
    rw [Filing.apply_asks, apply_bind]
    dsimp only
    cases referenceExists s p.files (some table) type <;>
      exact ⟨p.registry, [], by simp, by simp [ofExcept, Except.map]⟩
  | enumeration => exact shows_consult s type
  | primitive => exact fun p => showsAt_pure () p
  | «variable» => exact fun p => showsAt_pure () p
  | invalid => exact fun p => showsAt_pure () p

lemma shows_lookUpAll (s : Settings) (table : String) (types : List String) :
    Shows (types.forM (lookUp s table)) (.asks (lookUpAllIn s table types)) := by
  induction types with
  | nil => exact fun p => showsAt_pure () p
  | cons type types ih => exact (shows_lookUp s table type).asks_bind fun _ => ih

lemma shows_resolver (s : Settings) (table : Option String) :
    Shows (resolver s table) (.asks fun files => .ok (.ofFiles s files table)) :=
  shows_get fun p => ⟨p.registry, [], by simp, by simp⟩

/-- Scanning looks up the types of the columns. -/
lemma shows_scanOf (s : Settings) (table : String) (sheet : Sheet) :
    Shows (scanOf s table sheet) (.asks fun files => do
      let scan := scanColumns sheet (.ofFiles s files (some table))
      lookUpAllIn s table (lookedUpTypes scan).eraseDups files
      return scan) := by
  have h := (shows_resolver s (some table)).asks_bind fun r =>
    (shows_lookUpAll s table (lookedUpTypes (scanColumns sheet r)).eraseDups).asks_bind fun _ =>
      shows_ofExcept (.ok (scanColumns sheet r))
  exact fun p => (h p).congr rfl

end Action

/-! ## Names of tables -/

/-- No identifier has a character that continues none. -/
lemma not_mem_of_isIdentifier {name : String} {c : Char} (h : Text.isIdentifier name = true)
    (hc : Text.continuesIdentifier c = false) : c ∉ name.toList := by
  intro hm
  unfold Text.isIdentifier at h
  rw [Bool.and_eq_true] at h
  cases hn : name.toList with
  | nil => simp [hn] at hm
  | cons d ds =>
    rw [hn] at h hm
    simp only [Text.isIdentifierChars, Bool.and_eq_true, List.all_eq_true] at h
    rcases List.mem_cons.1 hm with rfl | hm
    · rw [Text.continuesIdentifier_of_startsIdentifier h.1.1] at hc
      cases hc
    · rw [h.1.2 c hm] at hc
      cases hc

/-! ## Compiling -/

/-- Looks up the types of the columns of a Convert table. -/
def lookedUpIn (s : Settings) (kind : TableKind) (table : String) (sheet : Sheet)
    (files : FileTree) : Except Failure Unit :=
  let scan := scanColumns sheet (.ofFiles s files (some table))
  if kind = .convert then lookUpAllIn s table (lookedUpTypes scan).eraseDups files else .ok ()

/-- What a sheet compiles to as the table of a kind, or its first fault. -/
def compiledIn (s : Settings) (kind : TableKind) (table : String) (sheet : Sheet)
    (files : FileTree) : Except Failure Compiled :=
  if Text.isIdentifier table then do
    lookedUpIn s kind table sheet files
    compile kind table sheet (.ofFiles s files (some table)) (Template.ofSettings s files kind)
  else .error (.table table (.schema (.notIdentifier "Table name" table)))

/-- Writes what a table compiled to: the data file, then the script. -/
def writing (s : Settings) (kind : TableKind) (table : String) (c : Compiled) :
    Filing (List String) :=
  match c.rows with
  | some rows => do
    let data ← Filing.write (s.dataPath? table) (printRecords (rows.map Row.cells))
    let script ← Filing.write (s.scriptPath? kind.name table) c.script
    return [script, data]
  | none => do return [← Filing.write (s.scriptPath? kind.name table) c.script]

/-- The first worksheet of a workbook. -/
def sheetAt (path : String) (files : FileTree) : Except Failure Sheet :=
  let extension := Text.lower (Path.splitExtension (Path.base path)).2
  if !workbookFormats.contains extension then .error (.workbook (.format extension))
  else
    match files.read path with
    | .error e => .error (.file e)
    | .ok (.text _) => .error (.workbook .content)
    | .ok (.container _ fault) => .error (.workbook (.container fault))
    | .ok (.workbook cells) => .ok (Sheet.ofCells cells)

/-- A sheet is that of the workbook at its path. -/
lemma read_of_sheetAt {path : String} {files : FileTree} {sheet : Sheet}
    (h : sheetAt path files = .ok sheet) :
    ∃ cells, files.read path = .ok (.workbook cells) ∧ sheet = Sheet.ofCells cells := by
  unfold sheetAt at h
  dsimp only at h
  split at h
  · cases h
  · split at h
    · cases h
    · cases h
    · cases h
    · rename_i cells hread
      exact ⟨cells, hread, (Except.ok.inj h).symm⟩

/-- What is wrong with a container is wrong with the one at the path. -/
lemma container_of_sheetAt {path : String} {files : FileTree} {fault : ContainerFault}
    (h : sheetAt path files = .error (.workbook (.container fault))) :
    ∃ text, files.read path = .ok (.container text fault) := by
  unfold sheetAt at h
  dsimp only at h
  split at h
  · cases h
  · split at h
    · cases h
    · cases h
    · rename_i text fault' hread
      cases h
      exact ⟨text, hread⟩
    · cases h

/-- Compiles a workbook as a table of a kind that is given by its label. -/
def compiling (s : Settings) (label path : String) : Filing Compilation :=
  match TableKind.ofLabel? label with
  | none => throw (.unknownKind label)
  | some kind => do
    let sheet ← Filing.asks (sheetAt path)
    let c ← Filing.asks (compiledIn s kind (tableNameOf path) sheet)
    let outputs ← writing s kind (tableNameOf path) c
    return .ofTexts kind.name (tableNameOf path) path outputs

/-- What the workbook at a path compiles to. -/
structure CompilesTo (s : Settings) (label path : String) (files : FileTree) (kind : TableKind)
    (sheet : Sheet) (c : Compiled) : Prop where
  labelled : TableKind.ofLabel? label = some kind
  read : sheetAt path files = .ok sheet
  compiled : compiledIn s kind (tableNameOf path) sheet files = .ok c

section

variable {s : Settings} {label path : String} {files : FileTree}

/-- What a workbook compiles to is written and recorded. -/
lemma CompilesTo.apply_compiling {kind : TableKind} {sheet : Sheet} {c : Compiled}
    (h : CompilesTo s label path files kind sheet c) :
    (compiling s label path).apply files =
      (writing s kind (tableNameOf path) c >>= fun outputs =>
        pure (.ofTexts kind.name (tableNameOf path) path outputs)).apply files := by
  unfold compiling
  rw [h.labelled]
  dsimp only
  rw [Filing.apply_asks_bind, h.read]
  dsimp only
  rw [Filing.apply_asks_bind, h.compiled]

/-- A workbook compiles to one thing. -/
lemma CompilesTo.unique {kind kind' : TableKind} {sheet sheet' : Sheet} {c c' : Compiled}
    (h : CompilesTo s label path files kind sheet c)
    (h' : CompilesTo s label path files kind' sheet' c') :
    kind = kind' ∧ sheet = sheet' ∧ c = c' := by
  obtain rfl := Option.some.inj (h.labelled.symm.trans h'.labelled)
  obtain rfl := Except.ok.inj (h.read.symm.trans h'.read)
  exact ⟨rfl, rfl, Except.ok.inj (h.compiled.symm.trans h'.compiled)⟩

/-- A workbook compiles to something, or the files stay as they are. -/
theorem compilesTo_or_error (s : Settings) (label path : String) (files : FileTree) :
    (∃ kind sheet c, CompilesTo s label path files kind sheet c) ∨
      ∃ f, (compiling s label path).apply files = (.error f, files) := by
  unfold compiling
  cases hkind : TableKind.ofLabel? label with
  | none => exact .inr ⟨_, rfl⟩
  | some kind =>
    dsimp only
    rw [Filing.apply_asks_bind]
    cases hsheet : sheetAt path files with
    | error f => exact .inr ⟨f, rfl⟩
    | ok sheet =>
      dsimp only
      rw [Filing.apply_asks_bind]
      cases hc : compiledIn s kind (tableNameOf path) sheet files with
      | error f => exact .inr ⟨f, rfl⟩
      | ok c => exact .inl ⟨kind, sheet, c, hkind, hsheet, hc⟩

/-- A workbook that is compiled compiles to what is written. -/
lemma exists_writing_of_compiling {files' : FileTree} {a : Compilation}
    (h : (compiling s label path).apply files = (.ok a, files')) :
    ∃ kind sheet c outputs, CompilesTo s label path files kind sheet c ∧
      (writing s kind (tableNameOf path) c).apply files = (.ok outputs, files') ∧
      a = .ofTexts kind.name (tableNameOf path) path outputs := by
  rcases compilesTo_or_error s label path files with ⟨kind, sheet, c, hc⟩ | ⟨f, hf⟩
  · rw [hc.apply_compiling] at h
    obtain ⟨outputs, _, hw, hdone⟩ := apply_bind_eq_ok.1 h
    cases hdone
    exact ⟨kind, sheet, c, outputs, hc, hw, rfl⟩
  · rw [hf] at h
    cases h

/-- A compilation that fails does so before anything is written, or a write fails. -/
lemma writing_of_compiling_eq_error {files' : FileTree} {f : Failure}
    (h : (compiling s label path).apply files = (.error f, files')) :
    files' = files ∨ ∃ kind sheet c, CompilesTo s label path files kind sheet c ∧
      (writing s kind (tableNameOf path) c).apply files = (.error f, files') := by
  rcases compilesTo_or_error s label path files with ⟨kind, sheet, c, hc⟩ | ⟨g, hg⟩
  · rw [hc.apply_compiling] at h
    rcases apply_bind_eq_error.1 h with hw | ⟨_, _, -, hdone⟩
    · exact .inr ⟨kind, sheet, c, hc, hw⟩
    · cases hdone
  · rw [hg] at h
    cases h
    exact .inl rfl

end

namespace Action

lemma shows_writeData (s : Settings) (table : String) (rows : List Row) :
    Shows (writeData s table rows)
      (.write (s.dataPath? table) (printRecords (rows.map Row.cells))) := by
  unfold writeData Filing.write
  cases s.dataPath? table with
  | none => exact fun p => showsAt_throw .shape p
  | some path =>
    refine (shows_onFiles _).bind fun _ => ?_
    exact (shows_report (by simp [Event.level])).bind fun _ p => showsAt_pure path p

lemma shows_writeScript (s : Settings) (kind table script : String) :
    Shows (writeScript s kind table script) (.write (s.scriptPath? kind table) script) := by
  unfold writeScript Filing.write
  cases s.scriptPath? kind table with
  | none => exact fun p => showsAt_throw .shape p
  | some path =>
    refine (shows_onFiles _).bind fun _ => ?_
    exact (shows_report (by simp [Event.level])).bind fun _ p => showsAt_pure path p

lemma shows_writeCompiled (s : Settings) (kind : TableKind) (table : String) (c : Compiled) :
    Shows (writeCompiled s kind table c) (writing s kind table c) := by
  unfold writeCompiled writing
  cases c.rows with
  | none => exact (shows_writeScript s kind.name table c.script).bind fun _ p => showsAt_pure _ p
  | some rows =>
    refine (shows_writeData s table rows).bind fun _ => ?_
    exact (shows_writeScript s kind.name table c.script).bind fun _ p => showsAt_pure _ p

/-- Compiles a sheet without writing anything. -/
def draft (s : Settings) (kind : TableKind) (table : String) (sheet : Sheet) : Action Compiled := do
  checkTableName table
  let p ← get
  if kind = .convert then
    let _ ← scanOf s table sheet
  ofExcept <|
    compile kind table sheet (← resolver s (some table)) (Template.ofSettings s p.files kind)

lemma compileSheet_eq (s : Settings) (kind : TableKind) (table source : String) (sheet : Sheet) :
    compileSheet s kind table source sheet = draft s kind table sheet >>= fun c => do
      let outputs ← writeCompiled s kind table c
      report c.event
      return .ofTexts kind.name table source outputs := by
  unfold compileSheet draft
  cases kind with
  | convert => simp only [if_true, bind_assoc]
  | enum => simp only [reduceCtorEq, if_false, bind_assoc]
  | «variable» => simp only [reduceCtorEq, if_false, bind_assoc]

lemma shows_draft (s : Settings) (kind : TableKind) (table : String) (sheet : Sheet) :
    Shows (draft s kind table sheet) (.asks (compiledIn s kind table sheet)) := by
  have hcompile (templates : Except Failure (Pairs String)) :
      Shows (do
          let resolver ← resolver s (some table)
          ofExcept (compile kind table sheet resolver templates))
        (.asks fun files => compile kind table sheet (.ofFiles s files (some table)) templates) :=
    (shows_resolver s (some table)).asks_bind fun _ => shows_ofExcept _
  by_cases hname : Text.isIdentifier table = true
  · have hcheck : checkTableName table = pure () := by rw [checkTableName, if_pos hname]
    unfold draft compiledIn
    rw [hcheck, pure_bind]
    refine shows_get fun p => ?_
    cases kind with
    | convert =>
      have h := (shows_scanOf s table sheet).asks_bind fun _ =>
        hcompile (Template.ofSettings s p.files .convert)
      refine (h p).congr ?_
      simp only [Filing.apply_asks, lookedUpIn, if_true, bind_assoc, pure_bind, if_pos hname]
    | enum =>
      refine (hcompile _ p).congr ?_
      simp only [Filing.apply_asks, if_pos hname]
      rfl
    | «variable» =>
      refine (hcompile _ p).congr ?_
      simp only [Filing.apply_asks, if_pos hname]
      rfl
  · have hcheck : checkTableName table =
        throw (.table table (.schema (.notIdentifier "Table name" table))) := by
      rw [checkTableName, if_neg hname]
    unfold draft compiledIn
    rw [hcheck]
    exact fun p => (shows_throw_bind _ _ p).congr (by simp [hname])

/-- What a table compiles to is reported, and no error is. -/
lemma level_of_compile {kind : TableKind} {table : String} {sheet : Sheet} {resolver : Resolver}
    {templates : Except Failure (Pairs String)} {c : Compiled}
    (h : compile kind table sheet resolver templates = .ok c) : c.event.level ≠ .error := by
  cases kind with
  | convert =>
    obtain ⟨columns, -, h⟩ := except_bind_eq_ok.1 h
    obtain ⟨rows, -, h⟩ := except_bind_eq_ok.1 h
    obtain ⟨named, -, h⟩ := except_bind_eq_ok.1 h
    obtain ⟨script, -, h⟩ := except_bind_eq_ok.1 h
    cases h
    simp [Event.level]
  | enum =>
    obtain ⟨enums, -, h⟩ := except_bind_eq_ok.1 h
    obtain ⟨named, -, h⟩ := except_bind_eq_ok.1 h
    obtain ⟨script, -, h⟩ := except_bind_eq_ok.1 h
    cases h
    simp [Event.level]
  | «variable» =>
    obtain ⟨constants, -, h⟩ := except_bind_eq_ok.1 h
    obtain ⟨named, -, h⟩ := except_bind_eq_ok.1 h
    obtain ⟨script, -, h⟩ := except_bind_eq_ok.1 h
    cases h
    simp [Event.level]

/-- Compiling a sheet asks the files for all that it needs before it writes. -/
lemma shows_compileSheet (s : Settings) (kind : TableKind) (table source : String) (sheet : Sheet) :
    Shows (compileSheet s kind table source sheet) (do
      let c ← Filing.asks (compiledIn s kind table sheet)
      let outputs ← writing s kind table c
      return .ofTexts kind.name table source outputs) := by
  rw [compileSheet_eq]
  refine fun p => (shows_draft s kind table sheet p).bind fun c hc => ?_
  refine (shows_writeCompiled s kind table c).bind fun outputs => ?_
  refine (shows_report ?_).bind fun _ p => showsAt_pure _ p
  have hcompile : compiledIn s kind table sheet p.files = .ok c := hc
  unfold compiledIn at hcompile
  split at hcompile
  · obtain ⟨_, -, h⟩ := except_bind_eq_ok.1 hcompile
    exact level_of_compile h
  · cases hcompile

lemma shows_readSheet (path : String) : Shows (readSheet path) (.asks (sheetAt path)) := by
  intro p
  unfold ShowsAt readSheet
  rw [Filing.apply_asks, sheetAt]
  dsimp only
  split
  · exact ⟨p.registry, [], by simp, by simp⟩
  · cases hr : p.files.read path with
    | error e => exact ⟨p.registry, [], by simp, by simp [hr]⟩
    | ok content =>
      cases content with
      | text value => exact ⟨p.registry, [], by simp, by simp [hr]⟩
      | container value fault => exact ⟨p.registry, [], by simp, by simp [hr]⟩
      | workbook cells =>
        exact ⟨p.registry, [.sheetRead (Sheet.ofCells cells).rowCount path],
          by simp [Event.level], by simp only [hr, report, apply_bind, apply_get, apply_modify,
            apply_pure]⟩

/-- Compiling a workbook is a matter of the files. -/
theorem shows_compileFile (s : Settings) (label path : String) :
    Shows (compileFile s label path) (compiling s label path) := by
  unfold compileFile compiling
  cases TableKind.ofLabel? label with
  | none => exact fun p => showsAt_throw _ p
  | some kind =>
    refine (shows_readSheet path).bind fun sheet => ?_
    exact shows_compileSheet s kind (tableNameOf path) path sheet

end Action

end SheetCompiler
