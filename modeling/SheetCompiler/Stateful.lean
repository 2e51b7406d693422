/-!
# Computations with a state that may fail

A computation takes a state and gives a result or a failure, and in both cases the state afterwards:
what has been changed before a failure stays changed. The lemmas say what each building block does
to a state.
-/

namespace SheetCompiler

/-- A computation that changes a state of `σ` and gives an `α`, or fails with an `ε`. -/
abbrev Stateful (ε σ α : Type) := ExceptT ε (StateM σ) α

namespace Stateful

variable {ε σ α β : Type}

/-- Runs a computation on a state. -/
def apply (a : Stateful ε σ α) (s : σ) : Except ε α × σ := a.run s

@[simp] theorem apply_pure (a : α) (s : σ) : (pure a : Stateful ε σ α).apply s = (.ok a, s) := rfl

@[simp] theorem apply_throw (e : ε) (s : σ) :
    (throw e : Stateful ε σ α).apply s = (.error e, s) := rfl

@[simp] theorem apply_get (s : σ) : (get : Stateful ε σ σ).apply s = (.ok s, s) := rfl

@[simp] theorem apply_set (s t : σ) : (set t : Stateful ε σ PUnit).apply s = (.ok ⟨⟩, t) := rfl

@[simp] theorem apply_modify (f : σ → σ) (s : σ) :
    (modify f : Stateful ε σ PUnit).apply s = (.ok ⟨⟩, f s) := rfl

/-- The second part runs on the state that the first one leaves, unless the first one fails. -/
@[simp] theorem apply_bind (a : Stateful ε σ α) (f : α → Stateful ε σ β) (s : σ) :
    (a >>= f).apply s =
      match a.apply s with
      | (.ok x, t) => (f x).apply t
      | (.error e, t) => (.error e, t) := by
  change (match a.apply s with | (r, t) => ExceptT.bindCont f r t) = _
  rcases a.apply s with ⟨_ | _, t⟩ <;> rfl

end Stateful

end SheetCompiler
