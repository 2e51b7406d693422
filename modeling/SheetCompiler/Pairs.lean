/-!
# Named values in order

A list of pairs that stands for a finite map and keeps the order in which the names came. `put`
replaces the value of a name where it stands and adds a new name at the end, so names stay
distinct. Main statements: `get?_put_self`, `get?_put_of_ne` and `names_put`.
-/

namespace SheetCompiler

/-- Values under names, in order. -/
abbrev Pairs (α : Type) := List (String × α)

namespace Pairs

variable {α β : Type}

/-- The value of a name. -/
def get? : Pairs α → String → Option α
  | [], _ => none
  | (k, v) :: rest, name => if k = name then some v else get? rest name

/-- The names, in order. -/
def names (pairs : Pairs α) : List String := pairs.map Prod.fst

/-- Gives a name a value: in its place if the name is there, else at the end. -/
def put (name : String) (value : α) : Pairs α → Pairs α
  | [] => [(name, value)]
  | (k, v) :: rest => if k = name then (k, value) :: rest else (k, v) :: put name value rest

/-- Puts pairs one after the other. -/
def putAll (pairs : Pairs α) (more : List (String × α)) : Pairs α :=
  more.foldl (fun acc p => put p.1 p.2 acc) pairs

/-- The map of a list of pairs: the last value of a name counts, in the place of the first. -/
def ofList (pairs : List (String × α)) : Pairs α := putAll [] pairs

/-- The pairs without those of a name. -/
def erase (pairs : Pairs α) (name : String) : Pairs α := pairs.filter fun p => p.1 != name

@[simp] theorem get?_nil (name : String) : get? ([] : Pairs α) name = none := rfl

theorem get?_cons (k : String) (v : α) (rest : Pairs α) (name : String) :
    get? ((k, v) :: rest) name = if k = name then some v else get? rest name := rfl

theorem get?_eq_none_iff {pairs : Pairs α} {name : String} :
    get? pairs name = none ↔ name ∉ names pairs := by
  induction pairs with
  | nil => simp [names]
  | cons p rest ih =>
    obtain ⟨k, v⟩ := p
    by_cases h : k = name
    · simp [get?_cons, h, names]
    · simp only [get?_cons, h, if_false, ih, names, List.map_cons, List.mem_cons, not_or]
      exact ⟨fun hn => ⟨Ne.symm h, hn⟩, fun hn => hn.2⟩

@[simp] theorem get?_put_self (pairs : Pairs α) (name : String) (value : α) :
    get? (put name value pairs) name = some value := by
  induction pairs with
  | nil => simp [put, get?_cons]
  | cons p rest ih =>
    obtain ⟨k, v⟩ := p
    by_cases h : k = name <;> simp [put, h, get?_cons, ih]

theorem get?_put_of_ne {name other : String} (h : name ≠ other) (pairs : Pairs α) (value : α) :
    get? (put name value pairs) other = get? pairs other := by
  induction pairs with
  | nil => simp [put, get?_cons, h]
  | cons p rest ih =>
    obtain ⟨k, v⟩ := p
    by_cases hk : k = name
    · subst hk
      simp [put, get?_cons, h]
    · simp [put, hk, get?_cons, ih]

theorem names_put (pairs : Pairs α) (name : String) (value : α) :
    names (put name value pairs) =
      if name ∈ names pairs then names pairs else names pairs ++ [name] := by
  induction pairs with
  | nil => simp [put, names]
  | cons p rest ih =>
    obtain ⟨k, v⟩ := p
    by_cases h : k = name
    · simp [put, h, names]
    · simp only [names] at ih
      by_cases hm : name ∈ List.map Prod.fst rest
      · simp [put, h, names, ih, hm]
      · simp [put, h, names, ih, hm, Ne.symm h]

theorem nodup_names_put {pairs : Pairs α} (h : (names pairs).Nodup) (name : String) (value : α) :
    (names (put name value pairs)).Nodup := by
  rw [names_put]
  split
  · exact h
  · rename_i hn
    rw [List.nodup_append]
    exact ⟨h, by simp, by rintro a ha b hb rfl; simp at hb; exact hn (hb ▸ ha)⟩

theorem put_of_not_mem {pairs : Pairs α} {name : String} (h : name ∉ names pairs) (value : α) :
    put name value pairs = pairs ++ [(name, value)] := by
  induction pairs with
  | nil => rfl
  | cons p rest ih =>
    obtain ⟨k, v⟩ := p
    simp only [names, List.map_cons, List.mem_cons, not_or] at h
    simp [put, Ne.symm h.1, ih h.2]

theorem putAll_of_nodup {pairs : Pairs α} {more : List (String × α)}
    (h : (names (pairs ++ more)).Nodup) : putAll pairs more = pairs ++ more := by
  induction more generalizing pairs with
  | nil => simp [putAll]
  | cons p more ih =>
    have hp : p.1 ∉ names pairs := by
      simp only [names, List.map_append, List.map_cons, List.nodup_append] at h
      intro hmem
      exact h.2.2 p.1 hmem p.1 (by simp) rfl
    have : putAll pairs (p :: more) = putAll (put p.1 p.2 pairs) more := rfl
    rw [this, put_of_not_mem hp, ih (by simpa using h)]
    simp

/-- Pairs with distinct names are their own map. -/
theorem ofList_of_nodup {pairs : List (String × α)} (h : (names pairs).Nodup) :
    ofList pairs = pairs := by
  have : putAll [] pairs = [] ++ pairs := putAll_of_nodup (by simpa using h)
  simpa [ofList] using this

end Pairs

end SheetCompiler
