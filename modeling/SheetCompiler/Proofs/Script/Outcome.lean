import SheetCompiler.Proofs.Script.Line
import SheetCompiler.Proofs.Table.Rows
import SheetCompiler.Script.Run

/-!
# Running scripts

What the steps of a script give and leave declared, unless they fail (`outcome?`): looking up names,
declaring them in the bodies of classes, and making classes of what a body has declared.

Main statements:

* `outcome?_find`: what a name stands for;
* `outcome?_classOf_plain`: the class of a body;
* `run_of_outcome?` and `run_of_outcome?_none`: what a script declares, or that it fails.
-/

namespace SheetCompiler.Script

open SheetCompiler.Text

/-! ## Outcomes of steps -/

variable {α β : Type}

/-- What a step gives and leaves declared, unless it fails. -/
def outcome? (x : Run α) (d : Declared) : Option (α × Declared) :=
  match x.apply d with
  | (.ok a, e) => some (a, e)
  | (.error _, _) => none

@[simp] lemma outcome?_pure (a : α) (d : Declared) : outcome? (pure a) d = some (a, d) := rfl

@[simp] lemma outcome?_get (d : Declared) : outcome? get d = some (d, d) := rfl

@[simp] lemma outcome?_bind (x : Run α) (f : α → Run β) (d : Declared) :
    outcome? (x >>= f) d = (outcome? x d).bind fun p => outcome? (f p.1) p.2 := by
  unfold outcome?
  rw [Stateful.apply_bind]
  rcases x.apply d with ⟨_ | _, _⟩ <;> rfl

lemma apply_of_outcome? {x : Run α} {a : α} {d e : Declared} (h : outcome? x d = some (a, e)) :
    x.apply d = (.ok a, e) := by
  unfold outcome? at h
  split at h
  · rename_i hx
    rw [Option.some.injEq, Prod.mk.injEq] at h
    rw [hx, h.1, h.2]
  · cases h

lemma apply_of_outcome?_none {x : Run α} {d : Declared} (h : outcome? x d = none) :
    ∃ fault e, x.apply d = (.error fault, e) := by
  unfold outcome? at h
  split at h
  · cases h
  · rename_i fault e hx
    exact ⟨fault, e, hx⟩

lemma outcome?_map (f : α → β) (x : Run α) (d : Declared) :
    outcome? (f <$> x) d = (outcome? x d).map fun p => (f p.1, p.2) := by
  rw [map_eq_pure_bind, outcome?_bind]
  cases outcome? x d <;> rfl

variable {d : Declared} {names : Pairs Object} {typed : List String} {o : Object}
  {owner name : String}

/-- The name that a name is declared under in the body of a class. -/
def boundName (owner name : String) : String := Scope.outerName ⟨some owner, [], []⟩ name

/-- A name stands for what it was given last: in the class, in the script, or beforehand. -/
lemma outcome?_find (scope : Scope) (name : String) (d : Declared) :
    outcome? (scope.find name) d =
      (((scope.names.get? (scope.outerName name)).or (d.names.get? (scope.outerName name))).or
        (alwaysThere.get? (scope.outerName name))).map fun o => (o, d) := by
  rw [Scope.find, outcome?_bind, outcome?_get, Option.bind_some]
  dsimp only
  cases scope.names.get? (scope.outerName name) <;>
    cases d.names.get? (scope.outerName name) <;>
      cases alwaysThere.get? (scope.outerName name) <;> rfl

lemma outcome?_find_own (h : names.get? (boundName owner name) = some o) :
    outcome? (Scope.find ⟨some owner, names, typed⟩ name) d = some (o, d) := by
  have hown : names.get? (Scope.outerName ⟨some owner, names, typed⟩ name) = some o := h
  rw [outcome?_find, hown]
  rfl

lemma outcome?_find_script (h : names.get? (boundName owner name) = none)
    (hd : d.names.get? (boundName owner name) = some o) :
    outcome? (Scope.find ⟨some owner, names, typed⟩ name) d = some (o, d) := by
  have hown : names.get? (Scope.outerName ⟨some owner, names, typed⟩ name) = none := h
  have hscript : d.names.get? (Scope.outerName ⟨some owner, names, typed⟩ name) = some o := hd
  rw [outcome?_find, hown, hscript]
  rfl

lemma outcome?_bind_owner : outcome? (Scope.bind ⟨some owner, names, typed⟩ name o) d =
    some (⟨some owner, names.put (boundName owner name) o, typed⟩, d) := rfl

lemma startsWith_eq_false {name : String} (h : name.toList.head? ≠ some '_') (start : String)
    (hs : start.toList.head? = some '_') : startsWith start name = false := by
  rw [startsWith, ← Bool.not_eq_true]
  intro hstarts
  obtain ⟨rest, hrest⟩ := List.isPrefixOf_iff_prefix.1 hstarts
  refine h ?_
  rw [← hrest]
  cases hstart : start.toList with
  | nil => rw [hstart] at hs; cases hs
  | cons c cs => rwa [hstart] at hs

/-- A name that does not begin with an underscore is declared as it is. -/
lemma boundName_of_plain (h : name.toList.head? ≠ some '_') (owner : String) :
    boundName owner name = name := by
  have hstart := startsWith_eq_false h "__" rfl
  simp [boundName, Scope.outerName, hstart]

/-! ## Bodies of classes -/

variable {module : Option Object} {qualified : String} {body : List Statement}

/-- The names that every body has before its first statement. -/
def bodyNames : List String := [moduleName, qualifiedName, descriptionName]

lemma mem_bodyNames (h : name ∈ (initialNames module qualified body).names) :
    name ∈ bodyNames := by
  cases module with
  | none => exact List.mem_cons_of_mem _ h
  | some o => exact h

lemma nodup_initialNames : (initialNames module qualified body).names.Nodup := by
  have hall : bodyNames.Nodup := by decide
  cases module with
  | none => exact (List.nodup_cons.1 hall).2
  | some o => exact hall

lemma get?_initialNames (h : name ∉ bodyNames) :
    (initialNames module qualified body).get? name = none :=
  Pairs.get?_eq_none_iff.2 fun hmem => h (mem_bodyNames hmem)

lemma get?_qualifiedName :
    (initialNames module qualified body).get? qualifiedName = some (.value (.text qualified)) := by
  cases module <;> rfl

lemma head?_of_mem_bodyNames (h : name ∈ bodyNames) : name.toList.head? = some '_' := by
  have hall : ∀ special ∈ bodyNames, special.toList.head? = some '_' := by decide
  exact hall name h

/-- There is a class of a body that declares none of the names that mean something else to every
class. -/
lemma bodyFault?_eq_none (text : String) (hslots : names.get? slotsName = none)
    (hqualified : names.get? qualifiedName = some (.value (.text text)))
    (hcell : names.get? cellName = none) : bodyFault? names = none := by
  have hnot : names.names.contains cellName = false := by
    rw [← Bool.not_eq_true, List.contains_iff_mem]
    exact Pairs.get?_eq_none_iff.1 hcell
  rw [bodyFault?, slotsFault?, hslots, hqualified, hnot]
  rfl

lemma outcome?_classOf_plain (name qualified : String) (scope : Scope) :
    outcome? (classOf .plain name qualified scope) d =
      if bodyFault? scope.names = none then some (.group name scope.names scope.typed, d)
      else none := by
  unfold classOf
  dsimp only
  cases bodyFault? scope.names with
  | none => rfl
  | some fault => rfl

/-- A class that is made from nothing else stands for its body, and is declared under its name. -/
theorem outcome?_group {decorators : List Expr} {objects : List Object} {script : String}
    (hdecorators : outcome? (evalAll .outermost decorators) d = some (objects, d))
    (hscript : d.names.get? scriptNameName = some (.value (.text script))) :
    outcome? (runStatement .plain "" .outermost (.declareClass decorators name none body)) d =
      (outcome? (runStatements .plain (name ++ ".")
        ⟨some name, initialNames (some (.value (.text script))) name body, []⟩ body) d).bind fun p =>
        if bodyFault? p.1.names = none then
          (outcome? (decorate objects (.group name p.1.names p.1.typed)) p.2).map fun r =>
            (.outermost, { r.2 with names := r.2.names.put name r.1 })
        else none := by
  have hname : "" ++ name = name := String.empty_append
  have hunder : Option.mapM (eval .outermost) none = pure none := rfl
  rw [runStatement]
  simp only [outcome?_bind, hdecorators, outcome?_pure, Option.bind_some, outcome?_get, hscript,
    hname, hunder, baseOf, outcome?_classOf_plain]
  refine Option.bind_congr fun p _ => ?_
  split_ifs
  · rw [Option.bind_some]
    cases outcome? (decorate objects (.group name p.1.names p.1.typed)) p.2 <;> rfl
  · rfl

/-! ## Whole scripts -/

section

variable {script text : String} {statements : List Statement}

/-- What a script declares that runs to its end. -/
lemma run_of_outcome? {scope : Scope} (h : statements? text = some statements)
    (hrun : outcome? (runStatements .plain "" .outermost statements) (.start script) =
      some (scope, d)) : run script text = (d, none) := by
  rw [run, h]
  dsimp only
  rw [apply_of_outcome? hrun]

/-- A script that does not run to its end fails. -/
lemma run_of_outcome?_none (h : statements? text = some statements)
    (hrun : outcome? (runStatements .plain "" .outermost statements) (.start script) = none) :
    ∃ declared fault, run script text = (declared, some fault) := by
  obtain ⟨fault, declared, hfault⟩ := apply_of_outcome?_none hrun
  rw [run, h]
  dsimp only
  rw [hfault]
  exact ⟨declared, fault, rfl⟩

end

end SheetCompiler.Script
