import SheetCompiler.Proofs.Compile.Shipped
import Mathlib.Data.List.Basic

/-!
# What a batch does

A batch attempts the workbooks among its paths one after the other, each on the project that the
ones before it have left (`attempts`). One attempt records what its workbook compiled to or reports
why it is refused (`Attempt.Passed`), and a batch is that, attempt by attempt.

Main statements:

* `compileNext_of_error` and `compileNext_of_ok`: what an attempt makes of a project;
* `passed_of_compileNext`: what one attempt does to a project;
* `compileEach_eq_ok`: what a batch that ends well has done;
* `compileNext_alike`: an attempt looks at the files and the manifest alone, so that attempts that
  change neither can be left out of a batch.
-/

namespace SheetCompiler

open SheetCompiler.Stateful

/-! ## Recording -/

/-- Whether a compilation can be listed among those of tables: its name is a text, and no text in it
holds a half. -/
structure Compilation.IsListable (c : Compilation) : Prop where
  name : ∃ name, c.name = .text name
  whole : c.toJson.isWhole = true

lemma Compilation.isListable_ofTexts (kind name source : String) (outputs : List String) :
    (ofTexts kind name source outputs).IsListable := by
  refine ⟨⟨name, rfl⟩, Json.areWholeMembers_iff.2 ?_⟩
  have houtputs : Json.areWhole (outputs.map .text) = true :=
    Json.areWhole_iff.2 (List.forall_mem_map.2 fun _ _ => rfl)
  simp only [List.forall_mem_cons]
  exact ⟨rfl, rfl, rfl, houtputs, List.forall_mem_nil _⟩

namespace Manifest

lemma get?_insert (m : Manifest) (c : Compilation) (name : Json) :
    (m.insert c).get? name = if c.rank = name.rank then some c else m.get? name := by
  by_cases h : c.rank = name.rank
  · rw [if_pos h]
    have hself := m.get?_insert_self c
    unfold get? at hself ⊢
    rw [← h]
    exact hself
  · rw [if_neg h, m.get?_insert_of_ne (Ne.symm h)]

/-- Of compilations put in one after the other the last one of a name counts. -/
lemma get?_foldl_insert (compilations : List Compilation) (m : Manifest) (name : Json) :
    (compilations.foldl insert m).get? name =
      (compilations.reverse.find? fun c => decide (c.rank = name.rank)).or (m.get? name) := by
  induction compilations generalizing m with
  | nil => rfl
  | cons c compilations ih =>
    rw [List.foldl_cons, ih, get?_insert, List.reverse_cons, List.find?_append, Option.or_assoc]
    congr 1
    by_cases h : c.rank = name.rank <;> simp [h]

/-- A manifest of tables with names is in order. -/
lemma isOrdered_of_names {m : Manifest}
    (h : ∀ c ∈ m.entries, ∃ name, c.name = .text name) : m.isOrdered = true := by
  refine isOrdered_of_strings fun c hc => ?_
  obtain ⟨name, hname⟩ := h c hc
  rw [hname]
  rfl

/-- A manifest is whole if its entries are. -/
lemma isWhole_toJson {m : Manifest} :
    m.toJson.isWhole = true ↔ ∀ c ∈ m.entries, c.toJson.isWhole = true := by
  rw [toJson, Json.isWhole, Json.areWhole_iff, List.forall_mem_map]

/-- A manifest of tables that can be listed can be written. -/
lemma isWritable_of_isListable {m : Manifest} (h : ∀ c ∈ m.entries, c.IsListable) :
    m.isWritable = true :=
  Bool.and_eq_true_iff.2 ⟨isOrdered_of_names fun c hc => (h c hc).name,
    isWhole_toJson.2 fun c hc => (h c hc).whole⟩

lemma isListable_insert {m : Manifest} {c : Compilation} (h : ∀ d ∈ m.entries, d.IsListable)
    (hc : c.IsListable) : ∀ d ∈ (m.insert c).entries, d.IsListable := by
  intro d hd
  rcases mem_place hd with rfl | hd
  · exact hc
  · exact h d hd

end Manifest

/-- Writes the file of a manifest. -/
def recording (s : Settings) (m : Manifest) : Filing Unit :=
  match m.isOrdered, s.manifest with
  | true, .text path => .writeValue path m.toJson
  | _, _ => throw .shape

lemma recording_of_isWritable {s : Settings} {m : Manifest} {place : String}
    (h : m.isWritable = true) (hplace : s.manifest = .text place) :
    recording s m = .ofUpdate (FileTree.writeAtomic place m.print) := by
  obtain ⟨hordered, hwhole⟩ := (Bool.and_eq_true _ _).mp h
  rw [recording, hordered, hplace]
  exact if_pos hwhole

namespace Action

lemma apply_persist (p : Project) :
    persist.apply p =
      (((recording p.loaded p.manifest).apply p.files).1,
        { p with files := ((recording p.loaded p.manifest).apply p.files).2 }) := by
  unfold persist recording
  rw [apply_bind, apply_get]
  dsimp only
  generalize p.manifest.isOrdered = isOrdered
  cases isOrdered with
  | false => simp only [apply_throw]
  | true =>
    cases p.loaded.manifest with
    | text path => exact apply_writeValue path _ p
    | _ => simp only [apply_throw]

/-- A manifest that can be written is written to its place. -/
lemma persist_of_isWritable {p : Project} {place : String} (h : p.manifest.isWritable = true)
    (hplace : p.loaded.manifest = .text place) {files : FileTree}
    (hw : (FileTree.writeAtomic place p.manifest.print).apply p.files = (.ok (), files)) :
    persist.apply p = (.ok (), { p with files }) := by
  rw [apply_persist, recording_of_isWritable h hplace, Filing.apply_ofUpdate, hw]
  rfl

/-- What a table compiles to is put into the manifest, and then its file is written. -/
lemma apply_record {c : Compilation} (hc : c.name.isKey = true) (p : Project) :
    (record c).apply p =
      (((recording p.loaded (p.manifest.insert c)).apply p.files).1,
        { p with
          manifest := p.manifest.insert c
          files := ((recording p.loaded (p.manifest.insert c)).apply p.files).2 }) := by
  unfold record
  rw [if_pos hc, apply_bind, apply_modify]
  exact apply_persist { p with manifest := p.manifest.insert c }

end Action

/-! ## One attempt -/

/-- An attempt of a batch: the path, the project before it, what the workbook compiled to, and the
project after it. -/
structure Attempt where
  path : String
  before : Project
  outcome : Except Failure Compilation
  after : Project

namespace Attempt

/-- What an attempt adds to a batch. -/
def result? (a : Attempt) : Option Compilation := a.outcome.toOption

/-- What an attempt reports of a workbook that is refused. -/
def refusal? (a : Attempt) : Option Event :=
  match a.outcome with
  | .ok _ => none
  | .error failure => Action.refusal? a.path failure

/-- Whether a workbook is refused for what is read: it cannot be read, its kind is unknown, or the
table has a fault. -/
def isRefused (a : Attempt) : Bool :=
  match a.outcome with
  | .error (.table _ (.schema _)) | .error (.table _ (.row _)) | .error (.unknownKind _) => true
  | .error _ => !((Action.readSheet a.path).apply a.before).1.isOk
  | .ok _ => false

/-- What an attempt does to a project that does not end its batch: it records what it adds, or it
reports a refusal. -/
structure Passed (a : Attempt) : Prop where
  manifest : a.after.manifest = a.result?.toList.foldl Manifest.insert a.before.manifest
  events : ∃ quiet, (∀ e ∈ quiet, e.level ≠ .error) ∧
    a.after.events = a.before.events ++ quiet ++ a.refusal?.toList
  refused : a.result? = none ↔ a.refusal?.isSome = true
  unchanged : a.isRefused = true →
    a.after.files = a.before.files ∧ a.after.manifest = a.before.manifest
  refreshes : a.after.refreshes = a.before.refreshes
  loaded : a.after.loaded = a.before.loaded

end Attempt

/-- What is reported of a refused workbook is an error. -/
lemma level_of_refusal {path : String} {failure : Failure} {e : Event}
    (h : Action.refusal? path failure = some e) : e.level = .error := by
  unfold Action.refusal? at h
  split at h
  · cases h
    rfl
  · cases h
    rfl
  · cases h
    rfl
  · split at h
    · cases h
    · cases h
      rfl
  · cases h
  · cases h
    rfl
  · cases h

namespace Action

/-- The attempt at a path. -/
def attemptAt (s : Settings) (label path : String) (p : Project) : Attempt where
  path := path
  before := p
  outcome := ((compileFile s label path).apply p).1
  after := ((compileNext s label path).apply p).2

/-- A compilation is of a table whose name is a text. -/
lemma name_of_compiling {s : Settings} {label path : String} {files : FileTree} {c : Compilation}
    (h : ((compiling s label path).apply files).1 = .ok c) : c.name = .text (tableNameOf path) := by
  obtain ⟨_, _, _, _, -, -, rfl⟩ := exists_writing_of_compiling (Prod.ext h rfl)
  rfl

lemma isListable_of_compiling {s : Settings} {label path : String} {files : FileTree}
    {c : Compilation} (h : ((compiling s label path).apply files).1 = .ok c) : c.IsListable := by
  obtain ⟨_, _, _, _, -, -, rfl⟩ := exists_writing_of_compiling (Prod.ext h rfl)
  exact Compilation.isListable_ofTexts _ _ _ _

/-- What follows compiling in an attempt is a matter of the outcome. -/
lemma apply_compileNext (s : Settings) (label path : String) (p : Project) :
    (compileNext s label path).apply p =
      match (compileFile s label path).apply p with
      | (.ok c, q) => (record c >>= fun _ => pure (some c)).apply q
      | (.error failure, q) =>
        match refusal? path failure with
        | some event => (.ok none, { q with events := q.events ++ [event] })
        | none => (.error failure, q) := by
  unfold compileNext
  rw [apply_bind, apply_attempt]
  rcases (compileFile s label path).apply p with ⟨failure | c, q⟩
  · dsimp only
    cases refusal? path failure <;> rfl
  · rfl

end Action

/-- Two projects that a batch does not tell apart: they have the same files and the same manifest,
and keep it in the same place. -/
structure Project.Alike (p q : Project) : Prop where
  loaded : p.loaded = q.loaded
  manifest : p.manifest = q.manifest
  files : p.files = q.files

lemma Project.Alike.symm {p q : Project} (h : p.Alike q) : q.Alike p :=
  ⟨h.loaded.symm, h.manifest.symm, h.files.symm⟩

lemma Project.Alike.trans {p q r : Project} (h : p.Alike q) (h' : q.Alike r) : p.Alike r :=
  ⟨h.loaded.trans h'.loaded, h.manifest.trans h'.manifest, h.files.trans h'.files⟩

/-- A write fails for want of a place or by the file. -/
lemma Filing.write_eq_error {place? : Option String} {text : String} {files files' : FileTree}
    {f : Failure} (h : (Filing.write place? text).apply files = (.error f, files')) :
    f = .shape ∨ ∃ e, f = .file e := by
  unfold Filing.write at h
  cases place? with
  | none =>
    cases h
    exact .inl rfl
  | some path =>
    rcases apply_bind_eq_error.1 h with h | ⟨_, _, -, h⟩
    · rw [apply_ofUpdate, Prod.mk.injEq, mapError_eq_error] at h
      obtain ⟨⟨e, -, rfl⟩, -⟩ := h
      exact .inr ⟨e, rfl⟩
    · cases h

lemma writing_eq_error {s : Settings} {kind : TableKind} {table : String} {c : Compiled}
    {files files' : FileTree} {f : Failure}
    (h : (writing s kind table c).apply files = (.error f, files')) :
    f = .shape ∨ ∃ e, f = .file e := by
  unfold writing at h
  split at h
  · rcases apply_bind_eq_error.1 h with h | ⟨_, _, -, h⟩
    · exact Filing.write_eq_error h
    · rcases apply_bind_eq_error.1 h with h | ⟨_, _, -, h⟩
      · exact Filing.write_eq_error h
      · cases h
  · rcases apply_bind_eq_error.1 h with h | ⟨_, _, -, h⟩
    · exact Filing.write_eq_error h
    · cases h

/-- Compiling fails before anything is written, or it has read the sheet and a write fails. -/
lemma compiling_eq_error {s : Settings} {label path : String} {files files' : FileTree}
    {f : Failure} (h : (compiling s label path).apply files = (.error f, files')) :
    files' = files ∨
      (∃ sheet, sheetAt path files = .ok sheet) ∧ (f = .shape ∨ ∃ e, f = .file e) := by
  rcases writing_of_compiling_eq_error h with hsame | ⟨kind, sheet, c, hc, hw⟩
  · exact .inl hsame
  · exact .inr ⟨⟨sheet, hc.read⟩, writing_eq_error hw⟩

namespace Action

lemma outcome_attemptAt (s : Settings) (label path : String) (p : Project) :
    (attemptAt s label path p).outcome = ((compiling s label path).apply p.files).1 := by
  obtain ⟨_, _, -, hshown⟩ := shows_compileFile s label path p
  rw [attemptAt, hshown]

/-- A workbook that does not compile adds nothing to the manifest. -/
lemma compileNext_of_error {s : Settings} {label path : String} {p : Project} {f : Failure}
    {files : FileTree} (h : (compiling s label path).apply p.files = (.error f, files)) :
    ∃ registry events, (compileNext s label path).apply p =
      (if (refusal? path f).isSome then .ok none else .error f,
        { p with files, registry, events }) := by
  obtain ⟨registry, events, -, hshown⟩ := shows_compileFile s label path p
  rw [apply_compileNext, hshown, h]
  dsimp only
  cases refusal? path f with
  | none => exact ⟨registry, _, rfl⟩
  | some event => exact ⟨registry, _, rfl⟩

/-- What a workbook compiles to is put into the manifest, which is recorded. -/
lemma compileNext_of_ok {s : Settings} {label path : String} {p : Project} {c : Compilation}
    {files : FileTree} (h : (compiling s label path).apply p.files = (.ok c, files)) :
    ∃ registry events, (compileNext s label path).apply p =
      (((recording p.loaded (p.manifest.insert c)).apply files).1.map fun _ => some c,
        { p with
          manifest := p.manifest.insert c
          files := ((recording p.loaded (p.manifest.insert c)).apply files).2
          registry, events }) := by
  obtain ⟨registry, events, -, hshown⟩ := shows_compileFile s label path p
  have hname : c.name.isKey = true := by
    rw [name_of_compiling (by rw [h])]
    rfl
  refine ⟨registry, p.events ++ events, ?_⟩
  rw [apply_compileNext, hshown, h]
  dsimp only
  rw [apply_bind, apply_record hname]
  dsimp only
  rcases (recording p.loaded (p.manifest.insert c)).apply files with ⟨f | _, files'⟩ <;> rfl

/-- Writes what a workbook compiled to and records it. -/
def filing (p : Project) (kind : TableKind) (path : String) (c : Compiled) : Filing Unit := do
  let outputs ← writing p.loaded kind (tableNameOf path) c
  recording p.loaded (p.manifest.insert (.ofTexts kind.name (tableNameOf path) path outputs))

/-- A workbook that compiles and can be written and recorded gives its result. -/
lemma exists_compileNext_of_compilesTo {label path : String} {p : Project} {kind : TableKind}
    {sheet : Sheet} {c : Compiled} (hc : CompilesTo p.loaded label path p.files kind sheet c)
    (hok : ((filing p kind path c).apply p.files).1.isOk = true) :
    ∃ a q, (compileNext p.loaded label path).apply p = (.ok (some a), q) := by
  rw [filing, apply_bind] at hok
  rcases hw : (writing p.loaded kind (tableNameOf path) c).apply p.files with ⟨f | outputs, t⟩
  · rw [hw] at hok
    cases hok
  · have hcompiling := hc.apply_compiling
    rw [apply_bind_of_ok hw] at hcompiling
    obtain ⟨_, _, hnext⟩ := compileNext_of_ok hcompiling
    rw [hw] at hok
    dsimp only at hok
    rcases hrec : (recording p.loaded (p.manifest.insert
      (.ofTexts kind.name (tableNameOf path) path outputs))).apply t with ⟨f | _, u⟩
    · rw [hrec] at hok
      cases hok
    · rw [hrec] at hnext
      exact ⟨_, _, hnext⟩

/-- A workbook that is refused for what is read leaves the files as they are, and has no result. -/
lemma apply_compiling_of_isRefused {s : Settings} {label path : String} {p : Project}
    (h : (attemptAt s label path p).isRefused = true) :
    ∃ f, (compiling s label path).apply p.files = (.error f, p.files) := by
  unfold Attempt.isRefused at h
  rw [outcome_attemptAt] at h
  rcases hc : (compiling s label path).apply p.files with ⟨f | c, files⟩
  · rw [hc] at h
    refine ⟨f, ?_⟩
    rcases compiling_eq_error hc with rfl | ⟨⟨sheet, hsheet⟩, hf⟩
    · rfl
    · -- the sheet was read, so it is not for that the workbook is refused
      obtain ⟨_, _, -, hread⟩ := shows_readSheet path p
      have hok : ((readSheet path).apply p).1.isOk = true := by
        rw [hread, Filing.apply_asks, hsheet]
        rfl
      rcases hf with rfl | ⟨e, rfl⟩ <;> simp [attemptAt, hok] at h
  · rw [hc] at h
    cases h

/-- An attempt at a workbook that is refused for what is read changes no file and no entry. -/
lemma alike_of_isRefused {s : Settings} {label path : String} {p q : Project}
    {r : Option Compilation} (hnext : (compileNext s label path).apply p = (.ok r, q))
    (h : (attemptAt s label path p).isRefused = true) : r = none ∧ p.Alike q := by
  obtain ⟨f, hc⟩ := apply_compiling_of_isRefused h
  obtain ⟨_, _, -, hshown⟩ := shows_compileFile s label path p
  rw [apply_compileNext, hshown, hc] at hnext
  dsimp only at hnext
  split at hnext
  · cases hnext
    exact ⟨rfl, rfl, rfl, rfl⟩
  · cases hnext

/-- An attempt that does not end its batch has recorded its result or reported a refusal. -/
theorem passed_of_compileNext {s : Settings} {label path : String} {p q : Project}
    {r : Option Compilation} (h : (compileNext s label path).apply p = (.ok r, q)) :
    (attemptAt s label path p).Passed ∧ (attemptAt s label path p).after = q ∧
      (attemptAt s label path p).result? = r := by
  have hafter : (attemptAt s label path p).after = q := by rw [attemptAt, h]
  suffices hmain : (attemptAt s label path p).Passed ∧ (attemptAt s label path p).result? = r from
    ⟨hmain.1, hafter, hmain.2⟩
  have hunchanged (ha : (attemptAt s label path p).isRefused = true) :
      q.files = p.files ∧ q.manifest = p.manifest := by
    obtain ⟨-, hsame⟩ := alike_of_isRefused h ha
    exact ⟨hsame.files.symm, hsame.manifest.symm⟩
  have hout := outcome_attemptAt s label path p
  obtain ⟨registry, quiet, hquiet, hshown⟩ := shows_compileFile s label path p
  rw [apply_compileNext, hshown] at h
  rcases hc : (compiling s label path).apply p.files with ⟨failure | c, files⟩
  · rw [hc] at h hout
    dsimp only at h hout
    cases hr : refusal? path failure with
    | none =>
      rw [hr] at h
      cases h
    | some event =>
      rw [hr] at h
      cases h
      have hrefusal : (attemptAt s label path p).refusal? = some event := by
        rw [Attempt.refusal?, hout, ← hr]
        rfl
      have hresult : (attemptAt s label path p).result? = none := by
        rw [Attempt.result?, hout]
        rfl
      refine ⟨?_, hresult⟩
      constructor
      case manifest => rw [hafter, hresult]; rfl
      case events => exact ⟨quiet, hquiet, by rw [hafter, hrefusal]; rfl⟩
      case refused => rw [hresult, hrefusal]; simp
      case unchanged => rw [hafter]; exact hunchanged
      case refreshes => rw [hafter]; rfl
      case loaded => rw [hafter]; rfl
  · rw [hc] at h hout
    dsimp only at h hout
    have hname : c.name.isKey = true := by
      rw [name_of_compiling (by rw [hc])]
      rfl
    have hrefusal : (attemptAt s label path p).refusal? = none := by
      rw [Attempt.refusal?, hout]
    have hresult : (attemptAt s label path p).result? = some c := by
      rw [Attempt.result?, hout]
      rfl
    rw [apply_bind, apply_record hname] at h
    split at h
    · rename_i hr
      cases h
      obtain ⟨-, rfl⟩ := Prod.mk.inj hr
      refine ⟨?_, hresult⟩
      constructor
      case manifest => rw [hafter, hresult]; rfl
      case events => exact ⟨quiet, hquiet, by rw [hafter, hrefusal]; simp [attemptAt]⟩
      case refused => rw [hresult, hrefusal]; simp
      case unchanged => rw [hafter]; exact hunchanged
      case refreshes => rw [hafter]; rfl
      case loaded => rw [hafter]; rfl
    · cases h

end Action

/-! ## A batch -/

namespace Action

/-- The attempts of a batch, up to one that ends it. -/
def attempts (s : Settings) (label : String) : List String → Project → List Attempt
  | [], _ => []
  | path :: rest, p =>
    if isTableFile path then
      match (compileNext s label path).apply p with
      | (.ok _, q) => attemptAt s label path p :: attempts s label rest q
      | (.error _, _) => [attemptAt s label path p]
    else attempts s label rest p

lemma compileEach_cons_of_not {path : String} (h : isTableFile path = false) (s : Settings)
    (label : String) (paths : List Json) (p : Project) :
    (compileEach s label (.text path :: paths)).apply p = (compileEach s label paths).apply p := by
  rw [compileEach, h, if_neg Bool.false_ne_true, pure_bind]
  rw [apply_bind]
  rcases (compileEach s label paths).apply p with ⟨e | out, q⟩ <;> rfl

lemma compileEach_cons {path : String} (h : isTableFile path = true) (s : Settings)
    (label : String) (paths : List Json) (p : Project) :
    (compileEach s label (.text path :: paths)).apply p =
      match (compileNext s label path).apply p with
      | (.ok r, q) =>
        match (compileEach s label paths).apply q with
        | (.ok out, q') => (.ok (r.toList ++ out), q')
        | (.error e, q') => (.error e, q')
      | (.error e, q) => (.error e, q) := by
  rw [compileEach, h, if_pos rfl, apply_bind]
  rcases (compileNext s label path).apply p with ⟨e | r, q⟩
  · rfl
  · dsimp only
    rw [apply_bind]
    rcases (compileEach s label paths).apply q with ⟨e | out, q'⟩ <;> rfl

lemma compileEach_cons_of_ok {path : String} (h : isTableFile path = true) {s : Settings}
    {label : String} {paths : List Json} {p q r : Project} {result : Option Compilation}
    {out : List Compilation} (hnext : (compileNext s label path).apply p = (.ok result, q))
    (hrest : (compileEach s label paths).apply q = (.ok out, r)) :
    (compileEach s label (.text path :: paths)).apply p = (.ok (result.toList ++ out), r) := by
  rw [compileEach_cons h, hnext]
  dsimp only
  rw [hrest]

lemma attempts_of_ok {s : Settings} {label path : String} (h : isTableFile path = true)
    {p q : Project} {r : Option Compilation}
    (hnext : (compileNext s label path).apply p = (.ok r, q)) (paths : List String) :
    attempts s label (path :: paths) p =
      attemptAt s label path p :: attempts s label paths q := by
  rw [attempts, if_pos h, hnext]

/-- What a batch that ends well has done: every attempt has passed, and what they have done to the
project one after the other is what the batch has done. -/
structure Ran (run : List Attempt) (p q : Project) : Prop where
  passed : ∀ a ∈ run, a.Passed
  manifest : q.manifest = (run.filterMap Attempt.result?).foldl Manifest.insert p.manifest
  events : ∃ events, q.events = p.events ++ events ∧
    events.filter (fun e => decide (e.level = .error)) = run.filterMap Attempt.refusal?
  refreshes : q.refreshes = p.refreshes

lemma Ran.cons {a : Attempt} {run : List Attempt} {q : Project} (ha : a.Passed)
    (h : Ran run a.after q) : Ran (a :: run) a.before q := by
  obtain ⟨events, hevents, hfilter⟩ := h.events
  obtain ⟨quiet, hquiet, hafter⟩ := ha.events
  refine ⟨?_, ?_, ⟨quiet ++ a.refusal?.toList ++ events, ?_, ?_⟩, h.refreshes.trans ha.refreshes⟩
  · intro b hb
    rcases List.mem_cons.1 hb with rfl | hb
    · exact ha
    · exact h.passed b hb
  · rw [h.manifest, ha.manifest, ← List.foldl_append]
    cases hr : a.result? with
    | none => rw [List.filterMap_cons_none hr]; rfl
    | some c => rw [List.filterMap_cons_some hr]; rfl
  · rw [hevents, hafter]
    simp only [List.append_assoc]
  · have hnone : quiet.filter (fun e => decide (e.level = .error)) = [] := by
      rw [List.filter_eq_nil_iff]
      intro e he
      simpa using hquiet e he
    rw [List.filter_append, List.filter_append, hnone, hfilter, List.nil_append]
    cases hr : a.refusal? with
    | none => rw [List.filterMap_cons_none hr]; rfl
    | some e =>
      have hlevel : e.level = .error := by
        unfold Attempt.refusal? at hr
        split at hr
        · cases hr
        · exact level_of_refusal hr
      rw [List.filterMap_cons_some hr]
      simp [hlevel]

/-- A batch that ends well has attempted every workbook among its paths. -/
theorem compileEach_eq_ok {s : Settings} {label : String} {paths : List String} {p q : Project}
    {out : List Compilation} (h : (compileEach s label (paths.map .text)).apply p = (.ok out, q)) :
    (attempts s label paths p).map Attempt.path = paths.filter isTableFile ∧
      out = (attempts s label paths p).filterMap Attempt.result? ∧
      Ran (attempts s label paths p) p q := by
  induction paths generalizing p out with
  | nil =>
    cases h
    exact ⟨rfl, rfl, ⟨by simp [attempts], rfl, ⟨[], by simp, rfl⟩, rfl⟩⟩
  | cons path paths ih =>
    cases hpath : isTableFile path with
    | false =>
      rw [List.map_cons, compileEach_cons_of_not hpath] at h
      rw [attempts, hpath, if_neg Bool.false_ne_true, List.filter_cons_of_neg (by simp [hpath])]
      exact ih h
    | true =>
      rw [List.map_cons, compileEach_cons hpath] at h
      rcases hnext : (compileNext s label path).apply p with ⟨e | r, q'⟩
      · rw [hnext] at h
        cases h
      rw [hnext] at h
      dsimp only at h
      rcases hrest : (compileEach s label (paths.map .text)).apply q' with ⟨e | more, q''⟩
      · rw [hrest] at h
        cases h
      rw [hrest] at h
      cases h
      obtain ⟨hpassed, hafter, hresult⟩ := passed_of_compileNext hnext
      obtain ⟨hpaths, hout, hran⟩ := ih hrest
      rw [attempts_of_ok hpath hnext]
      refine ⟨?_, ?_, ?_⟩
      · rw [List.map_cons, List.filter_cons_of_pos hpath, hpaths]
        rfl
      · cases r with
        | none => rw [List.filterMap_cons_none hresult, ← hout]; rfl
        | some c => rw [List.filterMap_cons_some hresult, ← hout]; rfl
      · have hran' : Ran (attempts s label paths q') (attemptAt s label path p).after q := by
          rw [hafter]
          exact hran
        exact hran'.cons hpassed

end Action

/-! ## Attempts that can be left out -/

namespace Action

/-- An attempt looks at the files and the manifest alone. -/
theorem compileNext_alike {p p' : Project} (h : p.Alike p') (s : Settings) (label path : String) :
    ∃ r q q', (compileNext s label path).apply p = (r, q) ∧
      (compileNext s label path).apply p' = (r, q') ∧ q.Alike q' := by
  obtain ⟨registry, events, -, hp⟩ := shows_compileFile s label path p
  obtain ⟨registry', events', -, hp'⟩ := shows_compileFile s label path p'
  rw [apply_compileNext, apply_compileNext, hp, hp', ← h.files]
  rcases hc : (compiling s label path).apply p.files with ⟨failure | c, files⟩
  · dsimp only
    cases refusal? path failure with
    | none => exact ⟨_, _, _, rfl, rfl, h.loaded, h.manifest, rfl⟩
    | some event => exact ⟨_, _, _, rfl, rfl, h.loaded, h.manifest, rfl⟩
  · have hname : c.name.isKey = true := by
      rw [name_of_compiling (by rw [hc])]
      rfl
    dsimp only
    rw [apply_bind, apply_bind, apply_record hname, apply_record hname]
    dsimp only
    rw [← h.loaded, ← h.manifest]
    rcases (recording p.loaded (p.manifest.insert c)).apply files with ⟨e | u, files'⟩
    · exact ⟨_, _, _, rfl, rfl, rfl, rfl, rfl⟩
    · exact ⟨_, _, _, rfl, rfl, rfl, rfl, rfl⟩

/-- The paths of a batch that are not refused for what is read. -/
def keptPaths (run : List Attempt) : List String :=
  (run.filter fun a => !a.isRefused).map Attempt.path

/-- A batch ends the same without the paths that are no workbooks and those refused for what is
read. -/
theorem compileEach_keptPaths {s : Settings} {label : String} {paths : List String}
    {p q : Project} {out : List Compilation}
    (h : (compileEach s label (paths.map .text)).apply p = (.ok out, q)) {p' : Project}
    (halike : p.Alike p') :
    ∃ q', (compileEach s label ((keptPaths (attempts s label paths p)).map .text)).apply p' =
      (.ok out, q') ∧ q.Alike q' := by
  induction paths generalizing p p' out with
  | nil =>
    cases h
    exact ⟨p', rfl, halike⟩
  | cons path paths ih =>
    cases hpath : isTableFile path with
    | false =>
      rw [List.map_cons, compileEach_cons_of_not hpath] at h
      rw [attempts, hpath, if_neg Bool.false_ne_true]
      exact ih h halike
    | true =>
      rw [List.map_cons, compileEach_cons hpath] at h
      rcases hnext : (compileNext s label path).apply p with ⟨e | r, p₁⟩
      · rw [hnext] at h
        cases h
      rw [hnext] at h
      dsimp only at h
      rcases hrest : (compileEach s label (paths.map .text)).apply p₁ with ⟨e | more, p₂⟩
      · rw [hrest] at h
        cases h
      rw [hrest] at h
      cases h
      rw [attempts_of_ok hpath hnext, keptPaths]
      cases hr : (attemptAt s label path p).isRefused with
      | true =>
        obtain ⟨rfl, hsame⟩ := alike_of_isRefused hnext hr
        rw [List.filter_cons_of_neg (by simp [hr])]
        exact ih hrest (hsame.symm.trans halike)
      | false =>
        obtain ⟨r', p₁', p₁'', hn, hn', hsame⟩ := compileNext_alike halike s label path
        rw [hnext] at hn
        cases hn
        obtain ⟨q', hq', halike'⟩ := ih hrest hsame
        rw [List.filter_cons_of_pos (by simp [hr]), List.map_cons, List.map_cons]
        exact ⟨q', compileEach_cons_of_ok hpath hn' hq', halike'⟩

/-- The attempts of a batch on a project. -/
def attemptsOn (paths : List String) (label : String) (p : Project) : List Attempt :=
  attempts p.loaded label paths p

/-- A batch ends as its workbooks do, and then the listeners are told. -/
lemma apply_compileTables (paths : List String) (label : String) (p : Project) :
    (compileTables paths label).apply p =
      match (compileEach p.loaded label (paths.map .text)).apply p with
      | (.ok out, q) =>
        (.ok out,
          { q with events := q.events ++ [.parsingCompleted], refreshes := q.refreshes + 1 })
      | (.error e, q) => (.error e, { q with refreshes := q.refreshes + 1 }) := by
  have halways : (always (compileEach p.loaded label (paths.map .text)) refresh).apply p =
      (((compileEach p.loaded label (paths.map .text)).apply p).1,
        { ((compileEach p.loaded label (paths.map .text)).apply p).2 with
          refreshes :=
            ((compileEach p.loaded label (paths.map .text)).apply p).2.refreshes + 1 }) := rfl
  rw [compileTables, compileGroup, apply_bind, apply_get]
  dsimp only
  rw [apply_bind, halways]
  rcases (compileEach p.loaded label (paths.map .text)).apply p with ⟨e | out, q⟩ <;> rfl

/-- A batch that ends well has attempted every workbook among its paths, in order. It gives what the
attempts have recorded; a name stands in the manifest for what was recorded last under it, and else
for what it stood for before. Every attempt that records nothing reports one error, and nothing else
reports one; the listeners are told once. Attempts that are refused for what is read change nothing,
and a batch without them and without the paths that are no workbooks ends the same. -/
theorem compileTables_isolates {paths : List String} {label : String} {p q : Project}
    {out : List Compilation} (h : (compileTables paths label).apply p = (.ok out, q)) :
    (attemptsOn paths label p).map Attempt.path = paths.filter isTableFile ∧
      out = (attemptsOn paths label p).filterMap Attempt.result? ∧
      (∀ name, q.manifest.get? name =
        (out.reverse.find? fun c => decide (c.rank = name.rank)).or (p.manifest.get? name)) ∧
      (∃ events, q.events = p.events ++ events ∧
        events.filter (fun e => decide (e.level = .error)) =
          (attemptsOn paths label p).filterMap Attempt.refusal?) ∧
      (∀ a ∈ attemptsOn paths label p, a.result? = none ↔ a.refusal?.isSome = true) ∧
      q.refreshes = p.refreshes + 1 ∧
      (∀ a ∈ attemptsOn paths label p, a.isRefused = true →
        a.after.files = a.before.files ∧ a.after.manifest = a.before.manifest) ∧
      ∃ q', (compileTables (keptPaths (attemptsOn paths label p)) label).apply p = (.ok out, q') ∧
        q'.manifest = q.manifest ∧ q'.files = q.files := by
  rw [apply_compileTables] at h
  rcases heach : (compileEach p.loaded label (paths.map .text)).apply p with ⟨e | out', q₁⟩
  · rw [heach] at h
    cases h
  rw [heach] at h
  cases h
  obtain ⟨hpaths, hout, hran⟩ := compileEach_eq_ok heach
  obtain ⟨q₂, hkept, hsame⟩ := compileEach_keptPaths heach ⟨rfl, rfl, rfl⟩
  refine ⟨hpaths, hout, fun name => ?_, ?_, fun a ha => (hran.passed a ha).refused, ?_,
    fun a ha => (hran.passed a ha).unchanged, ?_⟩
  · dsimp only
    rw [hran.manifest, Manifest.get?_foldl_insert, ← hout]
  · obtain ⟨events, hevents, hfilter⟩ := hran.events
    refine ⟨events ++ [.parsingCompleted], ?_, ?_⟩
    · dsimp only
      rw [hevents, List.append_assoc]
    · rw [List.filter_append, hfilter]
      simp [Event.level, attemptsOn]
  · dsimp only
    rw [hran.refreshes]
  · refine ⟨{ q₂ with events := q₂.events ++ [.parsingCompleted], refreshes := q₂.refreshes + 1 },
      ?_, hsame.manifest.symm, hsame.files.symm⟩
    rw [apply_compileTables, attemptsOn, hkept]

/-- A project with a workbook of one constant. -/
def limitsProject : Project :=
  .ofFiles (.ofDirectories "Dist" "Resources")
    ⟨[(["Limits.xlsx"], .file (.workbook [[.text "ID", .text "Type", .text "Value"],
      [.text "Lives", .text "int", .integer 3]]))]⟩
    "Resources"

/-- Of these paths the first is no workbook, and the second leads nowhere. -/
def limitsPaths : List String := ["notes.txt", "Missing.xlsx", "Limits.xlsx"]

/-- What its table compiles to. -/
def limitsCompiled : Compiled :=
  ⟨Template.lines (Template.variableScriptTexts "Limits" [⟨"Lives", "int", "3"⟩]), none,
    .variableParsed "Limits" 1⟩

lemma compilesTo_limitsProject : CompilesTo limitsProject.loaded "Variable" "Limits.xlsx"
    limitsProject.files .variable
    (.ofCells [[.text "ID", .text "Type", .text "Value"],
      [.text "Lives", .text "int", .integer 3]]) limitsCompiled :=
  ⟨by decide, rfl, compiledIn_variable rfl rfl (by decide) rfl⟩

/-- The batch passes over both of them. -/
theorem limitsProject_batch :
    ∃ out q, (compileTables limitsPaths "Variable").apply limitsProject = (.ok out, q) ∧
      (attemptsOn limitsPaths "Variable" limitsProject).map Attempt.path =
        ["Missing.xlsx", "Limits.xlsx"] ∧
      q.refreshes = 1 ∧
      ∃ q', (compileTables (keptPaths (attemptsOn limitsPaths "Variable" limitsProject))
        "Variable").apply limitsProject = (.ok out, q') ∧ q'.files = q.files := by
  have hfiled : ((filing limitsProject .variable "Limits.xlsx" limitsCompiled).apply
      limitsProject.files).1.isOk = true := by decide +kernel
  have hmissing : ∃ f, (compiling limitsProject.loaded "Variable" "Missing.xlsx").apply
      limitsProject.files = (.error f, limitsProject.files) ∧
        (refusal? "Missing.xlsx" f).isSome = true := ⟨_, rfl, rfl⟩
  obtain ⟨f, hcompiling, hrefused⟩ := hmissing
  obtain ⟨registry, events, hfirst⟩ := compileNext_of_error hcompiling
  rw [if_pos hrefused] at hfirst
  obtain ⟨a, q₁, hsecond⟩ := exists_compileNext_of_compilesTo
    (p := { limitsProject with registry, events }) compilesTo_limitsProject hfiled
  have heach : (compileEach limitsProject.loaded "Variable" (limitsPaths.map .text)).apply
      limitsProject = (.ok [a], q₁) := by
    rw [limitsPaths, List.map_cons, compileEach_cons_of_not (by decide)]
    exact compileEach_cons_of_ok (by decide) hfirst (compileEach_cons_of_ok (by decide) hsecond rfl)
  rcases h : (compileTables limitsPaths "Variable").apply limitsProject with ⟨e | out, q⟩
  · rw [apply_compileTables, heach] at h
    cases h
  obtain ⟨hpaths, -, -, -, -, hrefreshes, -, q', hkept, -, hfiles⟩ := compileTables_isolates h
  exact ⟨out, q, rfl, hpaths, hrefreshes, q', hkept, hfiles⟩

end Action

end SheetCompiler
