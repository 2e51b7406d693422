import SheetCompiler.Proofs.Compile.Outputs

/-!
# Sessions

What is done to a project one after the other: its manifest is loaded, listed and changed, workbooks
are compiled and tables removed, and others may change its files in the meantime. A session is a
list of such operations; what each of them asks of the project that it comes to is a rule (`Obeys`).

Main statements:

* `recompile_eq_compileBatches`: compiling tables again is one batch for each of their kinds;
* `attempted_compileBatches`: batches are their attempts one after the other;
* `Attempted.induct`: what every attempt preserves, attempts one after the other preserve;
* `obeys_induct`: what every operation preserves, a session preserves;
* `answers_of_matches`: operations look at the settings, the manifest and the files alone.
-/

namespace SheetCompiler

open SheetCompiler.Stateful

/-! ## Batches one after the other -/

/-- Paths whose workbooks are compiled as tables of a kind. -/
structure Batch where
  paths : List String
  label : String

namespace Action

/-- Compiles batches one after the other. -/
def compileBatches : List Batch → Action (List Compilation)
  | [] => return []
  | b :: rest => do
    let first ← compileTables b.paths b.label
    return first ++ (← compileBatches rest)

/-- The attempts of batches with the labels of their kinds, up to one that ends its batch. -/
def attemptsIn : List Batch → Project → List (String × Attempt)
  | [], _ => []
  | b :: rest, p =>
    (attemptsOn b.paths b.label p).map (Prod.mk b.label) ++
      match (compileTables b.paths b.label).apply p with
      | (.ok _, q) => attemptsIn rest q
      | (.error _, _) => []

/-- The batch in which the tables of a kind among compilations are compiled again. -/
def batchOf (compilations : List Compilation) (kind : Json) : Batch :=
  ⟨((compilations.filter fun c => c.kind.equal kind).map Compilation.source).filterMap Json.text?,
    kind.display⟩

/-- The batches in which tables are compiled again. -/
def batchesOf (compilations : List Compilation) : List Batch :=
  (kindsOf compilations).map (batchOf compilations)

end Action

/-- Whether a compilation records texts alone. -/
def Compilation.IsOfTexts (c : Compilation) : Prop :=
  ∃ kind name source outputs, c = .ofTexts kind name source outputs

namespace Compilation.IsOfTexts

variable {c : Compilation}

lemma exists_name (h : c.IsOfTexts) : ∃ name, c.name = .text name := by
  obtain ⟨kind, name, source, outputs, rfl⟩ := h
  exact ⟨name, rfl⟩

lemma isListable (h : c.IsOfTexts) : c.IsListable := by
  obtain ⟨kind, name, source, outputs, rfl⟩ := h
  exact isListable_ofTexts kind name source outputs

lemma isKey_name (h : c.IsOfTexts) : c.name.isKey = true := by
  obtain ⟨name, hname⟩ := h.exists_name
  rw [hname]
  rfl

lemma isKey_kind (h : c.IsOfTexts) : c.kind.isKey = true := by
  obtain ⟨kind, name, source, outputs, rfl⟩ := h
  rfl

end Compilation.IsOfTexts

namespace Action

lemma recompileKinds_eq {compilations : List Compilation}
    (h : ∀ c ∈ compilations, c.IsOfTexts) (kinds : List Json) :
    recompileKinds compilations kinds = compileBatches (kinds.map (batchOf compilations)) := by
  have hsources (kind : Json) :
      (compilations.filter fun c => c.kind.equal kind).map Compilation.source =
        (batchOf compilations kind).paths.map .text := by
    have htexts : ∀ c ∈ compilations.filter fun c => c.kind.equal kind, c.IsOfTexts :=
      fun c hc => h c (List.mem_filter.1 hc).1
    unfold batchOf
    -- whatever the filter selects records texts, which are read back as they are
    generalize compilations.filter (fun c => c.kind.equal kind) = cs at htexts ⊢
    induction cs with
    | nil => rfl
    | cons c cs ih =>
      obtain ⟨kind', name, source, outputs, rfl⟩ := htexts c (by simp)
      have hrest := ih fun d hd => htexts d (by simp [hd])
      simp only [List.map_cons, Compilation.ofTexts, Json.text?, List.filterMap_cons] at hrest ⊢
      exact congrArg (Json.text source :: ·) hrest
  induction kinds with
  | nil => rfl
  | cons kind kinds ih =>
    rw [recompileKinds, List.map_cons, compileBatches, ih, hsources]
    rfl

/-- Tables that are recorded by texts are compiled again in one batch for each kind. -/
theorem recompile_eq_compileBatches {compilations : List Compilation}
    (h : ∀ c ∈ compilations, c.IsOfTexts) :
    recompile compilations = compileBatches (batchesOf compilations) := by
  have hkeys : (compilations.all fun c => c.kind.isKey) = true :=
    List.all_eq_true.2 fun c hc => (h c hc).isKey_kind
  rw [recompile, if_pos hkeys, recompileKinds_eq h, batchesOf]

end Action

/-! ## Projects that operations do not tell apart -/

/-- Two projects that no operation tells apart. -/
structure Project.Matches (p q : Project) : Prop extends p.Alike q where
  settings : p.settings = q.settings

namespace Project.Matches

variable {p q r : Project}

lemma refl (p : Project) : p.Matches p := ⟨⟨rfl, rfl, rfl⟩, rfl⟩

lemma symm (h : p.Matches q) : q.Matches p := ⟨h.toAlike.symm, h.settings.symm⟩

lemma trans (h : p.Matches q) (h' : q.Matches r) : p.Matches r :=
  ⟨h.toAlike.trans h'.toAlike, h.settings.trans h'.settings⟩

end Project.Matches

/-- The project after what a workbook compiles to has been written and recorded. -/
def Project.filed (p : Project) (kind : TableKind) (path : String) (c : Compiled) : Project :=
  let table := tableNameOf path
  let manifest := p.manifest.insert
    (.ofTexts kind.name table path (outputPlaces p.loaded kind table))
  { p with
    manifest
    files := ((recording p.loaded manifest).apply
      ((writing p.loaded kind table c).apply p.files).2).2 }

namespace Action

variable {α β : Type}

/-- An action does the same on projects that match. -/
def Agrees (a : Action α) : Prop :=
  ∀ p q, p.Matches q → (a.apply p).1 = (a.apply q).1 ∧ (a.apply p).2.Matches (a.apply q).2

lemma agrees_pure (x : α) : Agrees (pure x) := fun _ _ h => ⟨rfl, h⟩

lemma agrees_throw (e : Failure) : Agrees (throw e : Action α) := fun _ _ h => ⟨rfl, h⟩

lemma agrees_ofExcept (r : Except Failure α) : Agrees (ofExcept r) := by
  cases r with
  | ok x => exact agrees_pure x
  | error e => exact agrees_throw e

lemma agrees_modify {f : Project → Project} (hf : ∀ p q, p.Matches q → (f p).Matches (f q)) :
    Agrees (modify f) := fun p q h => ⟨rfl, hf p q h⟩

/-- A project may be looked at for what projects that match have in common. -/
lemma agrees_get {f : Project → Action α} (hf : ∀ p q, p.Matches q → f p = f q)
    (ha : ∀ p, Agrees (f p)) : Agrees (get >>= f) := by
  intro p q h
  rw [apply_bind, apply_bind, apply_get, apply_get]
  dsimp only
  rw [← hf p q h]
  exact ha p p q h

lemma Agrees.bind {a : Action α} {f : α → Action β} (ha : Agrees a) (hf : ∀ x, Agrees (f x)) :
    Agrees (a >>= f) := by
  intro p q h
  obtain ⟨hr, hm⟩ := ha p q h
  rw [apply_bind, apply_bind]
  rcases hp : a.apply p with ⟨e | x, p'⟩
  · rcases hq : a.apply q with ⟨e' | x', q'⟩
    · rw [hp, hq] at hr hm
      cases hr
      exact ⟨rfl, hm⟩
    · rw [hp, hq] at hr
      cases hr
  · rcases hq : a.apply q with ⟨e' | x', q'⟩
    · rw [hp, hq] at hr
      cases hr
    · rw [hp, hq] at hr hm
      cases hr
      exact hf x p' q' hm

lemma Agrees.forM {f : α → Action PUnit} (hf : ∀ x, Agrees (f x)) (xs : List α) :
    Agrees (xs.forM f) := by
  induction xs with
  | nil => exact agrees_pure _
  | cons x xs ih =>
    show Agrees (f x >>= fun _ => xs.forM f)
    exact (hf x).bind fun _ => ih

lemma apply_always (a : Action α) (after : Action Unit) (p : Project) :
    (always a after).apply p =
      match after.apply (a.apply p).2 with
      | (.ok _, q) => ((a.apply p).1, q)
      | (.error e, q) => (.error e, q) := by
  show always a after p = _
  rw [always]
  rcases a.apply p with ⟨r, q⟩
  dsimp only
  rcases after.apply q with ⟨e | _, q'⟩ <;> rfl

lemma apply_always_snd (a : Action α) (after : Action Unit) (p : Project) :
    ((always a after).apply p).2 = (after.apply (a.apply p).2).2 := by
  rw [apply_always]
  rcases after.apply (a.apply p).2 with ⟨e | _, q⟩ <;> rfl

lemma Agrees.always {a : Action α} {after : Action Unit} (ha : Agrees a) (hafter : Agrees after) :
    Agrees (always a after) := by
  intro p q h
  obtain ⟨hr, hm⟩ := ha p q h
  obtain ⟨hr', hm'⟩ := hafter _ _ hm
  rw [apply_always, apply_always, hr]
  rcases hp : after.apply (a.apply p).2 with ⟨e | _, p'⟩ <;>
    rcases hq : after.apply (a.apply q).2 with ⟨e' | _, q'⟩ <;> rw [hp, hq] at hr' hm'
  · cases hr'
    exact ⟨rfl, hm'⟩
  · cases hr'
  · cases hr'
  · exact ⟨rfl, hm'⟩

lemma agrees_report (e : Event) : Agrees (report e) :=
  agrees_modify fun _ _ h => ⟨⟨h.loaded, h.manifest, h.files⟩, h.settings⟩

lemma agrees_refresh : Agrees refresh :=
  agrees_modify fun _ _ h => ⟨⟨h.loaded, h.manifest, h.files⟩, h.settings⟩

lemma agrees_onFiles (u : FileTree.Update α) : Agrees (onFiles u) := by
  intro p q h
  rw [apply_onFiles, apply_onFiles, h.files]
  exact ⟨rfl, ⟨h.loaded, h.manifest, rfl⟩, h.settings⟩

lemma agrees_writeValue (path : String) (value : Json) : Agrees (writeValue path value) := by
  unfold writeValue
  split
  · exact agrees_onFiles _
  · exact (agrees_onFiles _).bind fun _ => agrees_throw _

lemma agrees_persist : Agrees persist := by
  refine agrees_get (fun p q h => by rw [h.manifest, h.loaded]) fun p => ?_
  split
  · exact agrees_writeValue _ _
  · exact agrees_throw _

lemma agrees_loadManifest : Agrees loadManifest := by
  intro p q h
  unfold loadManifest
  rw [apply_bind, apply_bind, apply_get, apply_get]
  dsimp only
  rw [← h.files, ← h.settings]
  cases Manifest.ofFile p.files p.settings.manifest with
  | error e => exact agrees_throw e p q h
  | ok found =>
    cases found with
    | none => exact ⟨rfl, ⟨rfl, rfl, rfl⟩, rfl⟩
    | some compilations =>
      have hload : Agrees (modify fun p =>
          { p with manifest := .ofList compilations, loaded := p.settings }) :=
        agrees_modify fun p q h => ⟨⟨h.settings, rfl, h.files⟩, h.settings⟩
      dsimp only
      refine (agrees_report _).bind (fun _ => ?_) p q h
      split
      · exact hload
      · exact agrees_throw _

lemma agrees_record (c : Compilation) : Agrees (record c) := by
  unfold record
  split
  · have hinsert : Agrees (modify fun p => { p with manifest := p.manifest.insert c }) :=
      agrees_modify fun p q h => ⟨⟨h.loaded, congrArg (·.insert c) h.manifest, h.files⟩, h.settings⟩
    exact hinsert.bind fun _ => agrees_persist
  · exact agrees_throw _

lemma agrees_deleteFile (place : Json) : Agrees (deleteFile place) := by
  refine agrees_get (fun p q h => by rw [h.files]) fun p => (agrees_ofExcept _).bind fun found => ?_
  split
  · split
    · exact (agrees_onFiles _).bind fun _ => agrees_report _
    · exact agrees_throw _
  · exact agrees_pure _

lemma agrees_discard (c : Compilation) : Agrees (discard c) := by
  refine agrees_get (fun p q h => by rw [h.loaded]) fun p => ?_
  refine (agrees_ofExcept _).bind fun files => ?_
  refine (Agrees.forM agrees_deleteFile files).bind fun _ => ?_
  split
  · exact agrees_modify fun p q h =>
      ⟨⟨h.loaded, congrArg (·.erase c.name) h.manifest, h.files⟩, h.settings⟩
  · exact agrees_throw _

lemma agrees_remove (compilations : List Compilation) : Agrees (remove compilations) :=
  (Agrees.forM agrees_discard compilations).always agrees_persist

lemma agrees_removeTables (compilations : List Compilation) : Agrees (removeTables compilations) :=
  ((agrees_remove compilations).always agrees_refresh).bind fun _ => agrees_report _

lemma agrees_compileNext (s : Settings) (label path : String) :
    Agrees (compileNext s label path) := by
  intro p q h
  rcases hc : (compiling s label path).apply p.files with ⟨f | c, files⟩
  · obtain ⟨_, _, hp⟩ := compileNext_of_error hc
    -- compiling looks at the files alone, which are the same
    rw [h.files] at hc
    obtain ⟨_, _, hq⟩ := compileNext_of_error hc
    rw [hp, hq]
    exact ⟨rfl, ⟨h.loaded, h.manifest, rfl⟩, h.settings⟩
  · obtain ⟨_, _, hp⟩ := compileNext_of_ok hc
    rw [h.files] at hc
    obtain ⟨_, _, hq⟩ := compileNext_of_ok hc
    rw [hp, hq, h.loaded, h.manifest]
    exact ⟨rfl, ⟨rfl, rfl, rfl⟩, h.settings⟩

lemma agrees_passBroken (label : String) (path : Text.BrokenText) :
    Agrees (passBroken label path) := by
  unfold passBroken
  split
  · split
    · exact agrees_report _
    · exact agrees_throw _
  · exact agrees_pure _

lemma agrees_compileEach (s : Settings) (label : String) (paths : List Json) :
    Agrees (compileEach s label paths) := by
  induction paths with
  | nil => exact agrees_pure _
  | cons path paths ih =>
    cases path with
    | text path =>
      have hrest (c : Option Compilation) : Agrees (do
          return c.toList ++ (← compileEach s label paths)) := ih.bind fun _ => agrees_pure _
      rw [compileEach]
      split
      · exact (agrees_compileNext s label path).bind hrest
      · exact (agrees_pure none).bind hrest
    | broken path => exact (agrees_passBroken label path).bind fun _ => ih
    | _ =>
      simp only [compileEach]
      exact agrees_throw _

lemma agrees_compileGroup (paths : List Json) (label : String) :
    Agrees (compileGroup paths label) := by
  refine agrees_get (fun p q h => by rw [h.loaded]) fun p => ?_
  refine ((agrees_compileEach p.loaded label paths).always agrees_refresh).bind fun _ => ?_
  exact (agrees_report _).bind fun _ => agrees_pure _

lemma agrees_recompile (compilations : List Compilation) : Agrees (recompile compilations) := by
  have hkinds (kinds : List Json) : Agrees (recompileKinds compilations kinds) := by
    induction kinds with
    | nil => exact agrees_pure _
    | cons kind kinds ih =>
      exact (agrees_compileGroup _ _).bind fun _ => ih.bind fun _ => agrees_pure _
  unfold recompile
  split
  · exact hkinds _
  · exact agrees_throw _

end Action

/-! ## Operations -/

/-- What is done in a session. In `replaceFiles` it is others that change the files. -/
inductive Operation
  | load
  | list
  | persist
  | record (c : Compilation)
  | remove (compilations : List Compilation)
  | compile (paths : List String) (label : String)
  | recompile (compilations : List Compilation)
  | removeTables (compilations : List Compilation)
  | replaceFiles (files : FileTree)

namespace Operation

/-- What an operation does, with the compilations that it answers. -/
def run : Operation → Action (List Compilation)
  | .load => do Action.loadManifest; return []
  | .list => do Action.ofExcept (← get).manifest.listing
  | .persist => do Action.persist; return []
  | .record c => do Action.record c; return []
  | .remove compilations => do Action.remove compilations; return []
  | .compile paths label => Action.compileTables paths label
  | .recompile compilations => Action.recompile compilations
  | .removeTables compilations => do Action.removeTables compilations; return []
  | .replaceFiles files => do modify fun p => { p with files }; return []

/-- The answer of an operation on a project, which may be a failure. -/
def answer (o : Operation) (p : Project) : Except Failure (List Compilation) := (o.run.apply p).1

/-- The project after an operation. -/
def after (o : Operation) (p : Project) : Project := (o.run.apply p).2

/-- The batches that an operation compiles. -/
def batches : Operation → List Batch
  | .compile paths label => [⟨paths, label⟩]
  | .recompile compilations => Action.batchesOf compilations
  | _ => []

/-- The attempts of an operation with the labels of their kinds. -/
def attempts (o : Operation) (p : Project) : List (String × Attempt) :=
  Action.attemptsIn o.batches p

/-- An operation gives the same answer on projects that match, and leaves them matching. -/
theorem agrees_run (o : Operation) : o.run.Agrees := by
  have hthen {a : Action Unit} (ha : a.Agrees) :
      (do a; return [] : Action (List Compilation)).Agrees :=
    ha.bind fun _ => Action.agrees_pure _
  cases o with
  | load => exact hthen Action.agrees_loadManifest
  | list =>
    exact Action.agrees_get (fun p q h => by rw [h.manifest]) fun p => Action.agrees_ofExcept _
  | persist => exact hthen Action.agrees_persist
  | record c => exact hthen (Action.agrees_record c)
  | remove compilations => exact hthen (Action.agrees_remove compilations)
  | compile paths label => exact Action.agrees_compileGroup _ label
  | recompile compilations => exact Action.agrees_recompile compilations
  | removeTables compilations => exact hthen (Action.agrees_removeTables compilations)
  | replaceFiles files =>
    exact hthen (Action.agrees_modify fun p q h => ⟨⟨h.loaded, h.manifest, rfl⟩, h.settings⟩)

end Operation

/-! ## Sessions -/

namespace Session

/-- The project after operations one after the other. -/
def after (os : List Operation) (p : Project) : Project := os.foldl (fun p o => o.after p) p

/-- The answers of operations one after the other. -/
def answers : List Operation → Project → List (Except Failure (List Compilation))
  | [], _ => []
  | o :: os, p => o.answer p :: answers os (o.after p)

/-- Every operation obeys a rule on the project that it comes to. -/
def Obeys (rule : Operation → Project → Prop) : List Operation → Project → Prop
  | [], _ => True
  | o :: os, p => rule o p ∧ Obeys rule os (o.after p)

lemma after_nil (p : Project) : after [] p = p := rfl

lemma after_cons (o : Operation) (os : List Operation) (p : Project) :
    after (o :: os) p = after os (o.after p) := rfl

lemma obeys_cons {rule : Operation → Project → Prop} {o : Operation} {os : List Operation}
    {p : Project} : Obeys rule (o :: os) p ↔ rule o p ∧ Obeys rule os (o.after p) := Iff.rfl

/-- What every operation that obeys a rule preserves, a session preserves. -/
theorem obeys_induct {rule : Operation → Project → Prop} {I : Project → Prop}
    (hstep : ∀ o p, I p → rule o p → I (o.after p)) {os : List Operation} {p : Project}
    (hp : I p) (hos : Obeys rule os p) : I (after os p) := by
  induction os generalizing p with
  | nil => exact hp
  | cons o os ih => exact ih (hstep o p hp hos.1) hos.2

/-- A session gives the same answers on projects that match, and leaves them matching. -/
theorem answers_of_matches {p q : Project} (h : p.Matches q) (os : List Operation) :
    answers os p = answers os q ∧ (after os p).Matches (after os q) := by
  induction os generalizing p q with
  | nil => exact ⟨rfl, h⟩
  | cons o os ih =>
    obtain ⟨hanswer, hafter⟩ := o.agrees_run p q h
    obtain ⟨hrest, hmatches⟩ := ih hafter
    refine ⟨?_, hmatches⟩
    rw [answers, answers, Operation.answer, Operation.answer, hanswer, Operation.after,
      Operation.after, hrest]

end Session

/-! ## Attempts one after the other -/

namespace Action

/-- Attempts, each with the label of its kind, that lead from a project to another one. What happens
between them no operation tells apart. -/
inductive Attempted : List (String × Attempt) → Project → Project → Prop
  | done {p q : Project} (h : p.Matches q) : Attempted [] p q
  | next {p q r : Project} {label path : String} {xs : List (String × Attempt)} (h : p.Matches q)
      (hrest : Attempted xs (attemptAt q.loaded label path q).after r) :
      Attempted ((label, attemptAt q.loaded label path q) :: xs) p r

variable {p q r : Project} {xs ys : List (String × Attempt)}

lemma Attempted.of_matches (hm : p.Matches q) (h : Attempted xs q r) : Attempted xs p r := by
  cases h with
  | done h => exact .done (hm.trans h)
  | next h hrest => exact .next (hm.trans h) hrest

lemma Attempted.append (h : Attempted xs p q) (h' : Attempted ys q r) :
    Attempted (xs ++ ys) p r := by
  induction h with
  | done h => exact h'.of_matches h
  | next h _ ih => exact .next h (ih h')

lemma matches_of_compileNext (s : Settings) (label path : String) (p : Project) :
    ((compileNext s label path).apply p).2.loaded = p.loaded ∧
      ((compileNext s label path).apply p).2.settings = p.settings := by
  rcases hc : (compiling s label path).apply p.files with ⟨f | c, files⟩
  · obtain ⟨_, _, hp⟩ := compileNext_of_error hc
    rw [hp]
    exact ⟨rfl, rfl⟩
  · obtain ⟨_, _, hp⟩ := compileNext_of_ok hc
    rw [hp]
    exact ⟨rfl, rfl⟩

lemma after_attemptAt (s : Settings) (label path : String) (p : Project) :
    (attemptAt s label path p).after = ((compileNext s label path).apply p).2 := rfl

/-- Workbooks are compiled by their attempts, also if one of them ends the batch. -/
lemma attempted_compileEach {s : Settings} (label : String) (paths : List String)
    (hs : p.loaded = s) :
    Attempted ((attempts s label paths p).map (Prod.mk label)) p
      ((compileEach s label (paths.map .text)).apply p).2 := by
  induction paths generalizing p with
  | nil => exact .done (.refl p)
  | cons path paths ih =>
    cases hpath : isTableFile path with
    | false =>
      rw [List.map_cons, compileEach_cons_of_not hpath, attempts, hpath,
        if_neg Bool.false_ne_true]
      exact ih hs
    | true =>
      have hloaded := (matches_of_compileNext s label path p).1.trans hs
      have hafter : (attemptAt p.loaded label path p).after =
          ((compileNext s label path).apply p).2 := by
        rw [hs, after_attemptAt]
      have hfirst {r : Project} {ys : List (String × Attempt)}
          (h : Attempted ys ((compileNext s label path).apply p).2 r) :
          Attempted ((label, attemptAt s label path p) :: ys) p r := by
        rw [← hafter] at h
        rw [← hs]
        exact .next (.refl p) h
      rw [List.map_cons, compileEach_cons hpath]
      -- an attempt that fails ends the batch and the list of its attempts
      rcases hn : (compileNext s label path).apply p with ⟨e | c, q⟩
      · rw [attempts, if_pos hpath, hn]
        rw [hn] at hfirst
        exact hfirst (.done (.refl q))
      · rw [hn] at hloaded hfirst
        have hrest := ih hloaded
        rw [attempts_of_ok hpath hn]
        dsimp only
        rcases hm : (compileEach s label (paths.map .text)).apply q with ⟨e | out, q'⟩ <;>
        · rw [hm] at hrest
          exact hfirst hrest

/-- Batches are compiled by their attempts. -/
theorem attempted_compileBatches (batches : List Batch) (p : Project) :
    Attempted (attemptsIn batches p) p ((compileBatches batches).apply p).2 := by
  induction batches generalizing p with
  | nil => exact .done (.refl p)
  | cons b batches ih =>
    have htables : Attempted ((attemptsOn b.paths b.label p).map (Prod.mk b.label)) p
        ((compileTables b.paths b.label).apply p).2 := by
      have heach := attempted_compileEach b.label b.paths (p := p) rfl
      rw [← List.append_nil (List.map _ _)]
      refine heach.append (.done ?_)
      -- what else is done for a batch is to refresh and to report, which no operation tells apart
      rw [apply_compileTables]
      rcases (compileEach p.loaded b.label (b.paths.map .text)).apply p with ⟨e | out, q⟩ <;>
        exact ⟨⟨rfl, rfl, rfl⟩, rfl⟩
    rw [attemptsIn, compileBatches, apply_bind]
    refine htables.append ?_
    rcases (compileTables b.paths b.label).apply p with ⟨e | out, q⟩
    · exact .done (.refl q)
    · have hrest := ih q
      dsimp only
      rw [apply_bind]
      rcases hm : (compileBatches batches).apply q with ⟨e | more, q'⟩ <;>
      · rw [hm] at hrest
        exact hrest

/-- The attempts of batches are those at their paths under their labels. -/
lemma exists_batch_of_mem {batches : List Batch} {x : String × Attempt}
    (hx : x ∈ attemptsIn batches p) : ∃ b ∈ batches, x.1 = b.label ∧ x.2.path ∈ b.paths := by
  have hpath {s : Settings} {label : String} {paths : List String} {p : Project} {a : Attempt}
      (ha : a ∈ attempts s label paths p) : a.path ∈ paths := by
    induction paths generalizing p with
    | nil => exact (List.not_mem_nil ha).elim
    | cons path paths ih =>
      rw [attempts] at ha
      split at ha
      · split at ha
        · rcases List.mem_cons.1 ha with rfl | ha
          · exact List.mem_cons_self
          · exact List.mem_cons_of_mem _ (ih ha)
        · rw [List.mem_singleton.1 ha]
          exact List.mem_cons_self
      · exact List.mem_cons_of_mem _ (ih ha)
  induction batches generalizing p with
  | nil => exact (List.not_mem_nil hx).elim
  | cons b batches ih =>
    rw [attemptsIn, List.mem_append] at hx
    rcases hx with hx | hx
    · obtain ⟨a, ha, rfl⟩ := List.mem_map.1 hx
      exact ⟨b, List.mem_cons_self, rfl, hpath ha⟩
    · split at hx
      · obtain ⟨b', hb', h⟩ := ih hx
        exact ⟨b', List.mem_cons_of_mem _ hb', h⟩
      · exact (List.not_mem_nil hx).elim

/-- What every attempt preserves, attempts one after the other preserve. -/
theorem Attempted.induct {I : Project → Prop} {C : String → Attempt → Prop}
    (hsame : ∀ p q, p.Matches q → I p → I q)
    (hnext : ∀ label path p, I p → C label (attemptAt p.loaded label path p) →
      I ((compileNext p.loaded label path).apply p).2)
    (h : Attempted xs p q) (hp : I p) (hC : ∀ x ∈ xs, C x.1 x.2) : I q := by
  induction h with
  | done h => exact hsame _ _ h hp
  | @next p q r label path xs h _ ih =>
    rw [List.forall_mem_cons] at hC
    exact ih (hnext label path q (hsame p q h hp) hC.1) hC.2

/-- An attempt comes to the project that those before it leave, and leaves one to those after it. -/
theorem Attempted.split {x : String × Attempt} (h : Attempted xs p q) (hx : x ∈ xs) :
    ∃ before after, xs = before ++ x :: after ∧ Attempted before p x.2.before ∧
      x.2 = attemptAt x.2.before.loaded x.1 x.2.path x.2.before ∧
      Attempted after x.2.after q := by
  induction h with
  | done _ => exact (List.not_mem_nil hx).elim
  | @next p q r label path xs h hrest ih =>
    rcases List.mem_cons.1 hx with rfl | hx
    · exact ⟨[], xs, rfl, .done h, rfl, hrest⟩
    · obtain ⟨before, after, rfl, hbefore, heq, hafter⟩ := ih hx
      exact ⟨_ :: before, after, rfl, .next h hbefore, heq, hafter⟩

end Action

namespace Operation

/-- An operation that answers nothing leaves what its action leaves. -/
lemma apply_then_snd (a : Action Unit) (p : Project) :
    ((do a; return [] : Action (List Compilation)).apply p).2 = (a.apply p).2 := by
  rw [apply_bind]
  rcases a.apply p with ⟨e | _, q⟩ <;> rfl

lemma after_remove (compilations : List Compilation) (p : Project) :
    (remove compilations).after p =
      (Action.persist.apply ((compilations.forM Action.discard).apply p).2).2 := by
  rw [after, run, apply_then_snd, Action.remove, Action.apply_always_snd]

lemma after_removeTables (compilations : List Compilation) (p : Project) :
    ((remove compilations).after p).Matches ((removeTables compilations).after p) := by
  have hrefresh (q : Project) : Action.refresh.apply q =
      (.ok (), { q with refreshes := q.refreshes + 1 }) := rfl
  rw [after, run, apply_then_snd, after, run, apply_then_snd, Action.removeTables, apply_bind,
    Action.apply_always, hrefresh]
  rcases (Action.remove compilations).apply p with ⟨e | _, q⟩ <;> exact ⟨⟨rfl, rfl, rfl⟩, rfl⟩

lemma after_compile (paths : List String) (label : String) (p : Project) :
    (compile paths label).after p =
      ((Action.compileBatches (compile paths label).batches).apply p).2 := by
  have hbatches : (compile paths label).batches = [⟨paths, label⟩] := rfl
  have hrun : (compile paths label).run = Action.compileTables paths label := rfl
  rw [after, hbatches, hrun, Action.compileBatches, apply_bind]
  rcases (Action.compileTables paths label).apply p with ⟨e | out, q⟩ <;> rfl

lemma after_recompile {compilations : List Compilation} (h : ∀ c ∈ compilations, c.IsOfTexts)
    (p : Project) :
    (recompile compilations).after p =
      ((Action.compileBatches (recompile compilations).batches).apply p).2 := by
  have hrun : (recompile compilations).run = Action.recompile compilations := rfl
  rw [after, hrun, Action.recompile_eq_compileBatches h]
  rfl

/-- What is compiled is compiled by its attempts. -/
lemma attempted_compile (paths : List String) (label : String) (p : Project) :
    Action.Attempted ((compile paths label).attempts p) p ((compile paths label).after p) := by
  rw [after_compile]
  exact Action.attempted_compileBatches _ p

lemma attempted_recompile {compilations : List Compilation} (h : ∀ c ∈ compilations, c.IsOfTexts)
    (p : Project) :
    Action.Attempted ((recompile compilations).attempts p) p
      ((recompile compilations).after p) := by
  rw [after_recompile h]
  exact Action.attempted_compileBatches _ p

/-- One workbook is attempted on the project as it is. -/
lemma attempts_compile_single {path : String} (h : isTableFile path = true) (label : String)
    (p : Project) :
    (compile [path] label).attempts p = [(label, Action.attemptAt p.loaded label path p)] := by
  have hone : Action.attemptsOn [path] label p = [Action.attemptAt p.loaded label path p] := by
    rw [Action.attemptsOn, Action.attempts, if_pos h]
    split <;> rfl
  have hbatches : (compile [path] label).batches = [⟨[path], label⟩] := rfl
  rw [attempts, hbatches, Action.attemptsIn, hone]
  split <;> rfl

/-- One workbook is compiled by its attempt. -/
lemma matches_compile_single {path : String} (h : isTableFile path = true) (label : String)
    (p : Project) :
    (Action.attemptAt p.loaded label path p).after.Matches ((compile [path] label).after p) := by
  have hran := attempted_compile [path] label p
  rw [attempts_compile_single h] at hran
  -- nothing comes after the only attempt
  obtain ⟨before, after, hsplit, -, -, hafter⟩ := hran.split List.mem_cons_self
  have hlength := congrArg List.length hsplit
  rw [List.length_append, List.length_cons, List.length_cons, List.length_nil] at hlength
  obtain rfl : after = [] := List.length_eq_zero_iff.1 (by omega)
  cases hafter with
  | done h => exact h

/-- A workbook that compiles leaves its files and the manifest, if its files can be written. -/
lemma matches_compile_of_compilesTo {path label : String} {p : Project} {kind : TableKind}
    {sheet : Sheet} {c : Compiled} (h : isTableFile path = true)
    (hc : CompilesTo p.loaded label path p.files kind sheet c)
    (hw : ((writing p.loaded kind (tableNameOf path) c).apply p.files).1.isOk = true) :
    (p.filed kind path c).Matches ((compile [path] label).after p) := by
  have hcompiling := hc.apply_compiling
  rcases hrun : (writing p.loaded kind (tableNameOf path) c).apply p.files with ⟨f | outputs, u⟩
  · rw [hrun] at hw
    cases hw
  · obtain ⟨rfl, -⟩ := writing_eq_ok (rows_of_compiledIn hc.compiled).2 hrun
    rw [apply_bind_of_ok hrun] at hcompiling
    obtain ⟨registry, events, hnext⟩ := Action.compileNext_of_ok hcompiling
    refine .trans ?_ (matches_compile_single h label p)
    rw [Action.after_attemptAt, hnext, Project.filed, hrun]
    exact ⟨⟨rfl, rfl, rfl⟩, rfl⟩

end Operation

end SheetCompiler
