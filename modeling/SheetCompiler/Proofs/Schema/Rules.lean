import SheetCompiler.Proofs.Stateful
import SheetCompiler.Schema.Fault

/-!
# Rules

What a table is checked for, as a list of rules in the order in which they count. A reader obeys
the rules (`Obeys`) if it gives its value where all of them are kept, and the fault of the first
broken one otherwise. Readers that do so one after the other obey the rules of the first and then
those of the second.

Main statements:

* `Obeys.bind` and `Obeys.check`: how readers are put together;
* `Obeys.eq_ok_iff` and `Obeys.eq_error_iff`: what a reader that obeys rules gives.
-/

namespace SheetCompiler

/-- Something that is checked, and the fault of what fails the check. -/
structure Rule where
  holds : Prop
  fault : Fault

namespace Rule

/-- Whether every rule of a list is kept. -/
def AllHold (rules : List Rule) : Prop := ∀ rule ∈ rules, rule.holds

/-- Whether a fault is that of the first rule of a list that is broken. -/
def FirstBroken (rules : List Rule) (fault : Fault) : Prop :=
  ∃ front rule back, rules = front ++ rule :: back ∧ AllHold front ∧ ¬ rule.holds ∧
    rule.fault = fault

variable {rules more : List Rule} {rule : Rule} {fault : Fault}

@[simp] lemma allHold_nil : AllHold [] := nofun

@[simp] lemma allHold_cons : AllHold (rule :: rules) ↔ rule.holds ∧ AllHold rules :=
  List.forall_mem_cons

@[simp] lemma allHold_append : AllHold (rules ++ more) ↔ AllHold rules ∧ AllHold more :=
  List.forall_mem_append

@[simp] lemma not_firstBroken_nil : ¬ FirstBroken [] fault := by
  rintro ⟨front, rule, back, hsplit, -⟩
  simp at hsplit

/-- The first broken rule is the first of all, or the first one is kept. -/
lemma firstBroken_cons :
    FirstBroken (rule :: rules) fault ↔
      (¬ rule.holds ∧ rule.fault = fault) ∨ rule.holds ∧ FirstBroken rules fault := by
  constructor
  · rintro ⟨front, broken, back, hsplit, hfront, hbroken, hfault⟩
    cases front with
    | nil =>
      obtain ⟨rfl, rfl⟩ := List.cons.inj hsplit
      exact .inl ⟨hbroken, hfault⟩
    | cons first front =>
      obtain ⟨rfl, rfl⟩ := List.cons.inj hsplit
      rw [allHold_cons] at hfront
      exact .inr ⟨hfront.1, front, broken, back, rfl, hfront.2, hbroken, hfault⟩
  · rintro (⟨hbroken, hfault⟩ | ⟨hrule, front, broken, back, rfl, hfront, hbroken, hfault⟩)
    · exact ⟨[], rule, rules, rfl, allHold_nil, hbroken, hfault⟩
    · exact ⟨rule :: front, broken, back, rfl, allHold_cons.2 ⟨hrule, hfront⟩, hbroken, hfault⟩

lemma firstBroken_append :
    FirstBroken (rules ++ more) fault ↔
      FirstBroken rules fault ∨ AllHold rules ∧ FirstBroken more fault := by
  induction rules with
  | nil => simp
  | cons rule rules ih =>
    rw [List.cons_append, firstBroken_cons, firstBroken_cons, ih, allHold_cons, and_or_left,
      or_assoc, and_assoc]

/-- Rules that are not all kept have a first broken one. -/
lemma exists_firstBroken (h : ¬ AllHold rules) : ∃ fault, FirstBroken rules fault := by
  induction rules with
  | nil => exact absurd allHold_nil h
  | cons rule rules ih =>
    by_cases hrule : rule.holds
    · obtain ⟨fault, hfault⟩ := ih fun hrules => h (allHold_cons.2 ⟨hrule, hrules⟩)
      exact ⟨fault, firstBroken_cons.2 (.inr ⟨hrule, hfault⟩)⟩
    · exact ⟨rule.fault, firstBroken_cons.2 (.inl ⟨hrule, rfl⟩)⟩

end Rule

open Rule

/-! ## Readers that obey rules -/

/-- A reading gives the value where all rules are kept, and the fault of the first broken one
otherwise. -/
structure Obeys {α : Type} (reading : Except Fault α) (rules : List Rule) (value : α) : Prop where
  ok : AllHold rules → reading = .ok value
  error : ∀ fault, FirstBroken rules fault → reading = .error fault

namespace Obeys

variable {α β : Type} {reading : Except Fault α} {rules more : List Rule} {value found : α}
  {fault : Fault}

/-- What is read is the value, and all rules are kept. -/
theorem eq_ok_iff (h : Obeys reading rules value) :
    reading = .ok found ↔ AllHold rules ∧ found = value := by
  constructor
  · intro hread
    have hkept : AllHold rules := by
      by_contra hnot
      obtain ⟨fault, hfault⟩ := exists_firstBroken hnot
      rw [h.error fault hfault] at hread
      cases hread
    rw [h.ok hkept] at hread
    exact ⟨hkept, (Except.ok.inj hread).symm⟩
  · rintro ⟨hkept, rfl⟩
    exact h.ok hkept

/-- Reading fails with the fault of the first broken rule. -/
theorem eq_error_iff (h : Obeys reading rules value) :
    reading = .error fault ↔ FirstBroken rules fault := by
  refine ⟨fun hread => ?_, h.error fault⟩
  have hnot : ¬ AllHold rules := by
    intro hkept
    rw [h.ok hkept] at hread
    cases hread
  obtain ⟨other, hother⟩ := exists_firstBroken hnot
  rw [h.error other hother] at hread
  rwa [← Except.error.inj hread]

lemma pure (value : α) : Obeys (.ok value) [] value :=
  ⟨fun _ => rfl, fun _ h => absurd h not_firstBroken_nil⟩

/-- The rules of what is read next count after those of what is read first, and only where these
are kept. -/
lemma bind_of_kept {f : α → Except Fault β} {value' : β} (h : Obeys reading rules value)
    (h' : AllHold rules → Obeys (f value) more value') :
    Obeys (reading >>= f) (rules ++ more) value' := by
  constructor
  · intro hkept
    rw [allHold_append] at hkept
    rw [h.ok hkept.1]
    exact (h' hkept.1).ok hkept.2
  · intro fault hfault
    rcases firstBroken_append.1 hfault with hfirst | ⟨hkept, hnext⟩
    · rw [h.error fault hfirst]
      rfl
    · rw [h.ok hkept]
      exact (h' hkept).error fault hnext

lemma bind {f : α → Except Fault β} {value' : β} (h : Obeys reading rules value)
    (h' : Obeys (f value) more value') : Obeys (reading >>= f) (rules ++ more) value' :=
  h.bind_of_kept fun _ => h'

lemma map (f : α → β) (h : Obeys reading rules value) :
    Obeys (reading >>= fun a => .ok (f a)) rules (f value) := by
  have hdone := h.bind (f := fun a => .ok (f a)) (.pure (f value))
  rwa [List.append_nil] at hdone

/-- A check counts before what is read after it. -/
lemma check {holds : Prop} {fault : Fault} {b : Prop} [Decidable b] (hrule : b ↔ ¬ holds)
    (h : Obeys reading rules value) :
    Obeys (if b then .error fault else reading) (⟨holds, fault⟩ :: rules) value := by
  constructor
  · intro hkept
    rw [allHold_cons] at hkept
    rw [if_neg fun hb => hrule.1 hb hkept.1]
    exact h.ok hkept.2
  · intro fault hfault
    rcases firstBroken_cons.1 hfault with ⟨hbroken, rfl⟩ | ⟨hrule', hnext⟩
    · rw [if_pos (hrule.2 hbroken)]
    · rw [if_neg fun hb => hrule.1 hb hrule']
      exact h.error fault hnext

/-- A rule that is kept says nothing. -/
lemma cons_of_holds {holds : Prop} (hrule : holds) (h : Obeys reading rules value) :
    Obeys reading (⟨holds, fault⟩ :: rules) value := by
  constructor
  · intro hkept
    exact h.ok (allHold_cons.1 hkept).2
  · intro other hother
    rcases firstBroken_cons.1 hother with ⟨hbroken, -⟩ | ⟨-, hnext⟩
    · exact absurd hrule hbroken
    · exact h.error other hnext

/-- A single rule that is kept. -/
lemma kept {holds : Prop} (h : holds) : Obeys (.ok value) [⟨holds, fault⟩] value :=
  (pure value).cons_of_holds h

/-- A rule that is broken, whatever comes after it. -/
lemma broken {holds : Prop} (h : ¬ holds) :
    Obeys (.error fault) (⟨holds, fault⟩ :: rules) value := by
  constructor
  · intro hkept
    exact absurd (allHold_cons.1 hkept).1 h
  · intro other hother
    rcases firstBroken_cons.1 hother with ⟨-, rfl⟩ | ⟨hkept, -⟩
    · rfl
    · exact absurd hkept h

/-- The rules and the value determine what is read. -/
lemma unique {other : Except Fault α} (h : Obeys reading rules value)
    (h' : Obeys other rules value) : other = reading := by
  by_cases hkept : AllHold rules
  · rw [h.ok hkept, h'.ok hkept]
  · obtain ⟨fault, hfault⟩ := exists_firstBroken hkept
    rw [h.error fault hfault, h'.error fault hfault]

end Obeys

end SheetCompiler
