import SheetCompiler.Stateful
import Mathlib.Tactic.Lemma
import Mathlib.Data.List.Forall2

/-!
# What computations keep

A computation keeps a relation between states if its state afterwards is related to the one before,
whether or not it fails. A relation that is reflexive and transitive is kept by a whole computation
if its steps keep it (`Keeps.bind`, `Keeps.forM`).
-/

namespace SheetCompiler

/-! ## Results that may be failures -/

variable {ε ε' σ α β : Type}

lemma except_bind_eq_ok {x : Except ε α} {f : α → Except ε β} {y : β} :
    x >>= f = .ok y ↔ ∃ a, x = .ok a ∧ f a = .ok y := by
  cases x with
  | error e =>
    have hbind : ((.error e : Except ε α) >>= f) = .error e := rfl
    simp [hbind]
  | ok a =>
    have hbind : ((.ok a : Except ε α) >>= f) = f a := rfl
    simp [hbind]

lemma except_bind_eq_error {x : Except ε α} {f : α → Except ε β} {e : ε} :
    x >>= f = .error e ↔ x = .error e ∨ ∃ a, x = .ok a ∧ f a = .error e := by
  cases x with
  | error e' =>
    have hbind : ((.error e' : Except ε α) >>= f) = .error e' := rfl
    simp [hbind]
  | ok a =>
    have hbind : ((.ok a : Except ε α) >>= f) = f a := rfl
    simp [hbind]

/-- A list is read as a whole exactly if its elements are, one by one. -/
lemma mapM_eq_ok_iff {f : α → Except ε β} {xs : List α} {ys : List β} :
    xs.mapM f = .ok ys ↔ List.Forall₂ (fun x y => f x = .ok y) xs ys := by
  induction xs generalizing ys with
  | nil =>
    have hnil : ([].mapM f : Except ε (List β)) = .ok [] := rfl
    rw [hnil, List.forall₂_nil_left_iff, Except.ok.injEq, eq_comm]
  | cons x xs ih =>
    rw [List.mapM_cons, except_bind_eq_ok, List.forall₂_cons_left_iff]
    constructor
    · rintro ⟨y, hy, h⟩
      obtain ⟨rest, hrest, hdone⟩ := except_bind_eq_ok.1 h
      cases hdone
      exact ⟨y, rest, hy, ih.1 hrest, rfl⟩
    · rintro ⟨y, rest, hy, hrest, rfl⟩
      exact ⟨y, hy, except_bind_eq_ok.2 ⟨rest, ih.2 hrest, rfl⟩⟩

lemma exists_mapM_eq_ok {f : α → Except ε β} {xs : List α} (h : ∀ x ∈ xs, ∃ y, f x = .ok y) :
    ∃ ys, xs.mapM f = .ok ys := by
  induction xs with
  | nil => exact ⟨[], rfl⟩
  | cons x xs ih =>
    obtain ⟨y, hy⟩ := h x (by simp)
    obtain ⟨ys, hys⟩ := ih fun z hz => h z (by simp [hz])
    exact ⟨y :: ys, mapM_eq_ok_iff.2 (.cons hy (mapM_eq_ok_iff.1 hys))⟩

lemma mapM_isSome_iff {f : α → Option β} {xs : List α} :
    (xs.mapM f).isSome = true ↔ ∀ x ∈ xs, (f x).isSome = true := by
  induction xs with
  | nil => simp
  | cons x xs ih =>
    rw [List.mapM_cons, List.forall_mem_cons, ← ih]
    cases f x <;> cases xs.mapM f <;> simp

/-- A list is read to what its elements are read to. -/
lemma mem_iff_of_mapM_eq_some {f : α → Option β} {xs : List α} {ys : List β}
    (h : xs.mapM f = some ys) {y : β} : y ∈ ys ↔ ∃ x ∈ xs, f x = some y := by
  induction xs generalizing ys with
  | nil =>
    cases h
    simp
  | cons x xs ih =>
    rw [List.mapM_cons] at h
    obtain ⟨z, hz, hrest⟩ := Option.bind_eq_some_iff.1 h
    obtain ⟨zs, hzs, hdone⟩ := Option.bind_eq_some_iff.1 hrest
    cases hdone
    rw [List.mem_cons, ih hzs, List.exists_mem_cons_iff, hz, Option.some.injEq, eq_comm]

lemma exists_mem_of_forall₂ {R : α → β → Prop} {xs : List α} {ys : List β}
    (h : List.Forall₂ R xs ys) {y : β} (hy : y ∈ ys) : ∃ x ∈ xs, R x y := by
  induction h with
  | nil => cases hy
  | @cons x _ xs _ hxy _ ih =>
    rcases List.mem_cons.1 hy with rfl | hy
    · exact ⟨x, List.mem_cons_self, hxy⟩
    · obtain ⟨z, hz, hzy⟩ := ih hy
      exact ⟨z, List.mem_cons_of_mem _ hz, hzy⟩

/-- What holds of every element and those in front of it holds of the first one and, behind it, of
the others. -/
lemma forall_split_cons_iff (P : List α → α → Prop) {front : List α} {x : α} {xs : List α} :
    (∀ f y b, x :: xs = f ++ y :: b → P (front ++ f) y) ↔
      P front x ∧ ∀ f y b, xs = f ++ y :: b → P (front ++ [x] ++ f) y := by
  constructor
  · intro h
    refine ⟨by simpa using h [] x xs rfl, fun f y b heq => ?_⟩
    have hy := h (x :: f) y b (by rw [heq]; rfl)
    rwa [List.append_assoc]
  · rintro ⟨hfirst, hrest⟩ f y b heq
    cases f with
    | nil =>
      cases heq
      rwa [List.append_nil]
    | cons e f =>
      obtain ⟨rfl, hmore⟩ := List.cons.inj heq
      have hy := hrest f y b hmore
      rwa [List.append_assoc] at hy

lemma mapError_eq_ok {x : Except ε α} {f : ε → ε'} {a : α} :
    x.mapError f = .ok a ↔ x = .ok a := by
  cases x <;> simp [Except.mapError]

lemma eq_ok_of_toOption {x : Except ε α} {a : α} (h : x.toOption = some a) : x = .ok a := by
  cases x with
  | error e => cases h
  | ok b => rw [Option.some.inj h]

lemma mapError_eq_error {x : Except ε α} {f : ε → ε'} {e' : ε'} :
    x.mapError f = .error e' ↔ ∃ e, x = .error e ∧ f e = e' := by
  cases x <;> simp [Except.mapError]

end SheetCompiler

namespace SheetCompiler.Stateful

/-! ## Computations step by step -/

variable {ε σ α β : Type} {R : σ → σ → Prop}

/-- A computation that succeeds as a whole succeeds step by step. -/
lemma apply_bind_eq_ok {a : Stateful ε σ α} {f : α → Stateful ε σ β} {s t : σ} {y : β} :
    (a >>= f).apply s = (.ok y, t) ↔
      ∃ x u, a.apply s = (.ok x, u) ∧ (f x).apply u = (.ok y, t) := by
  rw [apply_bind]
  rcases a.apply s with ⟨_ | x, u⟩
  · simp
  · constructor
    · intro h
      exact ⟨x, u, rfl, h⟩
    · rintro ⟨x', u', hx, h⟩
      cases hx
      exact h

/-- A computation that fails as a whole fails in one of its steps. -/
lemma apply_bind_eq_error {a : Stateful ε σ α} {f : α → Stateful ε σ β} {s t : σ} {e : ε} :
    (a >>= f).apply s = (.error e, t) ↔
      a.apply s = (.error e, t) ∨
        ∃ x u, a.apply s = (.ok x, u) ∧ (f x).apply u = (.error e, t) := by
  rw [apply_bind]
  rcases a.apply s with ⟨e' | x, u⟩
  · simp
  · constructor
    · intro h
      exact .inr ⟨x, u, rfl, h⟩
    · rintro (h | ⟨x', u', hx, h⟩)
      · cases h
      · cases hx
        exact h

/-- The first part of a computation decides it if it fails. -/
lemma apply_bind_of_error {a : Stateful ε σ α} {s t : σ} {e : ε} (h : a.apply s = (.error e, t))
    (f : α → Stateful ε σ β) : (a >>= f).apply s = (.error e, t) := by
  rw [apply_bind, h]

lemma apply_bind_of_ok {a : Stateful ε σ α} {s t : σ} {x : α} (h : a.apply s = (.ok x, t))
    (f : α → Stateful ε σ β) : (a >>= f).apply s = (f x).apply t := by
  rw [apply_bind, h]

/-- A loop that fails has run through the elements in front of the one that it fails at. -/
lemma exists_of_forM_eq_error {f : α → Stateful ε σ PUnit} {xs : List α} {s t : σ} {e : ε}
    (h : (xs.forM f).apply s = (.error e, t)) :
    ∃ front x back u, xs = front ++ x :: back ∧ (front.forM f).apply s = (.ok ⟨⟩, u) ∧
      (f x).apply u = (.error e, t) := by
  induction xs generalizing s with
  | nil => cases h
  | cons x xs ih =>
    have hstep : (f x >>= fun _ => xs.forM f).apply s = (.error e, t) := h
    rcases apply_bind_eq_error.1 hstep with hfirst | ⟨_, u, hfirst, hrest⟩
    · exact ⟨[], x, xs, s, rfl, rfl, hfirst⟩
    · obtain ⟨front, y, back, v, rfl, hfront, hy⟩ := ih hrest
      refine ⟨x :: front, y, back, v, rfl, ?_, hy⟩
      show (f x >>= fun _ => front.forM f).apply s = _
      rw [apply_bind_of_ok hfirst, hfront]

/-! ## Relations that are kept -/

/-- The state after a computation is related to the one before. -/
def Keeps (R : σ → σ → Prop) (a : Stateful ε σ α) : Prop := ∀ s, R s (a.apply s).2

lemma Keeps.pure (hr : ∀ s, R s s) (x : α) : Keeps R (Pure.pure x : Stateful ε σ α) := fun s => hr s

lemma Keeps.throw (hr : ∀ s, R s s) (e : ε) :
    Keeps R (MonadExcept.throw e : Stateful ε σ α) := fun s => hr s

lemma Keeps.get (hr : ∀ s, R s s) : Keeps R (MonadState.get : Stateful ε σ σ) := fun s => hr s

lemma Keeps.bind (ht : ∀ s t u, R s t → R t u → R s u) {a : Stateful ε σ α}
    {f : α → Stateful ε σ β} (ha : Keeps R a) (hf : ∀ x, Keeps R (f x)) : Keeps R (a >>= f) := by
  intro s
  have hs := ha s
  rw [apply_bind]
  rcases ha' : a.apply s with ⟨_ | x, t⟩
  · rw [ha'] at hs
    exact hs
  · rw [ha'] at hs
    exact ht _ _ _ hs (hf x t)

lemma Keeps.forM (hr : ∀ s, R s s) (ht : ∀ s t u, R s t → R t u → R s u)
    {f : α → Stateful ε σ PUnit} {xs : List α} (hf : ∀ x ∈ xs, Keeps R (f x)) :
    Keeps R (xs.forM f) := by
  induction xs with
  | nil => exact Keeps.pure hr _
  | cons x xs ih =>
    show Keeps R (f x >>= fun _ => xs.forM f)
    exact Keeps.bind (R := R) ht (hf x (by simp)) fun _ => ih fun y hy => hf y (by simp [hy])

/-! ## Failures -/

variable {P : ε → Prop}

/-- A computation has no other failures than some. -/
def FailsWith (P : ε → Prop) (a : Stateful ε σ α) : Prop :=
  ∀ s e t, a.apply s = (.error e, t) → P e

lemma FailsWith.pure (x : α) : FailsWith P (Pure.pure x : Stateful ε σ α) := by
  intro s e t h
  cases h

lemma FailsWith.throw {e : ε} (h : P e) : FailsWith P (MonadExcept.throw e : Stateful ε σ α) := by
  intro s e' t he
  cases he
  exact h

lemma FailsWith.get : FailsWith P (MonadState.get : Stateful ε σ σ) := by
  intro s e t h
  cases h

lemma FailsWith.modify (f : σ → σ) : FailsWith P (modify f : Stateful ε σ PUnit) := by
  intro s e t h
  cases h

lemma FailsWith.bind {a : Stateful ε σ α} {f : α → Stateful ε σ β} (ha : FailsWith P a)
    (hf : ∀ x, FailsWith P (f x)) : FailsWith P (a >>= f) := by
  intro s e t h
  rcases apply_bind_eq_error.1 h with h | ⟨x, u, -, h⟩
  · exact ha s e t h
  · exact hf x u e t h

lemma FailsWith.forM {f : α → Stateful ε σ PUnit} {xs : List α} (hf : ∀ x ∈ xs, FailsWith P (f x)) :
    FailsWith P (xs.forM f) := by
  induction xs with
  | nil => exact FailsWith.pure _
  | cons x xs ih =>
    show FailsWith P (f x >>= fun _ => xs.forM f)
    exact FailsWith.bind (hf x (by simp)) fun _ => ih fun y hy => hf y (by simp [hy])

end SheetCompiler.Stateful
