import SheetCompiler.Manifest.Compilation

/-!
# Manifests

The compiled tables of a project, one compilation a table, in the order of the tables' names. Main
statements: `get?_insert_self`, `get?_insert_of_ne` and `get?_erase` (a manifest is a map from names
to compilations), and `get?_eq_some_iff` (its entries are what it maps to).

A name that is read from a file may be another value than a text. Names of one rank are one name,
and names of different kinds, which have no order among each other, keep a manifest from being
listed.
-/

namespace SheetCompiler

open SheetCompiler.Json (Rank)

/-- The place of a compilation in a manifest. -/
def Compilation.rank (c : Compilation) : Rank := c.name.rank

/-- Compilations with strictly ascending names. -/
structure Manifest where
  entries : List Compilation
  sorted : entries.Pairwise fun a b => a.rank < b.rank

namespace Manifest

/-- A manifest without entries. -/
def empty : Manifest := ⟨[], .nil⟩

/-- Puts a compilation among others with ascending names, in the place of one with its name. -/
def place (c : Compilation) : List Compilation → List Compilation
  | [] => [c]
  | d :: rest =>
    if d.rank < c.rank then d :: place c rest
    else if c.rank = d.rank then c :: rest
    else c :: d :: rest

theorem mem_place {c d : Compilation} {entries : List Compilation} (h : d ∈ place c entries) :
    d = c ∨ d ∈ entries := by
  induction entries with
  | nil => simpa [place] using h
  | cons e rest ih =>
    simp only [place] at h
    split at h
    · simp only [List.mem_cons] at h ⊢
      rcases h with h | h
      · exact .inr (.inl h)
      · exact (ih h).imp id .inr
    · split at h
      · simp only [List.mem_cons] at h ⊢
        exact h.imp id .inr
      · simpa using h

theorem pairwise_place (c : Compilation) {entries : List Compilation}
    (h : entries.Pairwise fun a b => a.rank < b.rank) :
    (place c entries).Pairwise fun a b => a.rank < b.rank := by
  induction entries with
  | nil => simp [place]
  | cons d rest ih =>
    rw [List.pairwise_cons] at h
    simp only [place]
    split
    · rename_i hd
      rw [List.pairwise_cons]
      refine ⟨fun e he => ?_, ih h.2⟩
      rcases mem_place he with rfl | he
      · exact hd
      · exact h.1 e he
    · rename_i hd
      split
      · rename_i hc
        rw [List.pairwise_cons]
        exact ⟨fun e he => hc ▸ h.1 e he, h.2⟩
      · rename_i hc
        -- neither below nor equal, so above
        have hlt : c.rank < d.rank := by
          rcases Rank.lt_or_eq_or_lt c.rank d.rank with hl | he | hg
          · exact hl
          · exact absurd he hc
          · exact absurd hg hd
        rw [List.pairwise_cons]
        refine ⟨fun e he => ?_, List.pairwise_cons.2 h⟩
        rcases List.mem_cons.1 he with rfl | he
        · exact hlt
        · exact Rank.lt_trans hlt (h.1 e he)

/-- The manifest with a compilation in the place of one of the same name. -/
def insert (m : Manifest) (c : Compilation) : Manifest :=
  ⟨place c m.entries, pairwise_place c m.sorted⟩

/-- The manifest without the compilation of a name. -/
def erase (m : Manifest) (name : Json) : Manifest :=
  ⟨m.entries.filter fun c => decide (c.rank ≠ name.rank), m.sorted.filter _⟩

/-- The manifest of compilations put in one after the other. -/
def ofList (compilations : List Compilation) : Manifest := compilations.foldl insert empty

/-- The compilation of a name. -/
def get? (m : Manifest) (name : Json) : Option Compilation :=
  m.entries.find? fun c => decide (c.rank = name.rank)

/-- The names of the tables, in order. -/
def names (m : Manifest) : List Json := m.entries.map Compilation.name

/-- Whether the compilations can be brought into order. -/
def isOrdered (m : Manifest) : Bool := Json.areOrdered m.names

/-- The compilations in order, if they have one. -/
def listing (m : Manifest) : Except Failure (List Compilation) :=
  if m.isOrdered then .ok m.entries else .error .shape

/-- The value that records a manifest. -/
def toJson (m : Manifest) : Json := .list (m.entries.map Compilation.toJson)

/-- Whether a manifest can be written: its compilations have an order, and no text in it holds a
half. -/
def isWritable (m : Manifest) : Bool := m.isOrdered && m.toJson.isWhole

/-- The text of the file that records a manifest. -/
def print (m : Manifest) : String := m.toJson.print

/-- The compilations that the elements of a value record. -/
def compilationsOf (value : Json) : Except Failure (List Compilation) :=
  match value.elements? with
  | some items => items.mapM Compilation.ofJson
  | none => .error .shape

/-! ## A manifest as a map -/

theorem find?_place_self (c : Compilation) (entries : List Compilation) :
    (place c entries).find? (fun d => decide (d.rank = c.rank)) = some c := by
  induction entries with
  | nil => simp [place]
  | cons d rest ih =>
    simp only [place]
    split
    · rename_i hd
      have : d.rank ≠ c.rank := fun h => Rank.lt_irrefl _ (h ▸ hd)
      rw [List.find?_cons_of_neg (by simpa using this), ih]
    · split <;> simp

theorem find?_place_of_ne {c : Compilation} {r : Rank} (h : r ≠ c.rank)
    (entries : List Compilation) :
    (place c entries).find? (fun d => decide (d.rank = r)) =
      entries.find? fun d => decide (d.rank = r) := by
  have hc : ¬ c.rank = r := fun hc => h hc.symm
  induction entries with
  | nil => simp [place, hc]
  | cons d rest ih =>
    simp only [place]
    split
    · simp only [List.find?_cons, ih]
    · split
      · rename_i he
        have hd : ¬ d.rank = r := fun hd => h (hd.symm.trans he.symm)
        rw [List.find?_cons_of_neg (by simpa using hc), List.find?_cons_of_neg (by simpa using hd)]
      · rw [List.find?_cons_of_neg (by simpa using hc)]

@[simp] theorem get?_insert_self (m : Manifest) (c : Compilation) :
    (m.insert c).get? c.name = some c :=
  find?_place_self c m.entries

theorem get?_insert_of_ne (m : Manifest) {c : Compilation} {name : Json}
    (h : name.rank ≠ c.name.rank) : (m.insert c).get? name = m.get? name :=
  find?_place_of_ne h m.entries

theorem get?_erase (m : Manifest) (name other : Json) :
    (m.erase name).get? other = if other.rank = name.rank then none else m.get? other := by
  unfold get? erase
  split
  · rename_i h
    rw [List.find?_eq_none]
    intro c hc
    simp only [List.mem_filter, decide_eq_true_eq] at hc
    simp [h, hc.2]
  · rename_i h
    simp only
    induction m.entries with
    | nil => rfl
    | cons c rest ih =>
      by_cases hc : c.rank = name.rank
      · have hne : ¬ c.rank = other.rank := fun he => h (he ▸ hc)
        rw [List.filter_cons_of_neg (by simp [hc]), List.find?_cons_of_neg (by simpa using hne), ih]
      · rw [List.filter_cons_of_pos (by simp [hc])]
        simp only [List.find?_cons, ih]

theorem rank_of_get? {m : Manifest} {name : Json} {c : Compilation} (h : m.get? name = some c) :
    c.rank = name.rank := by
  simpa using List.find?_some h

theorem mem_of_get? {m : Manifest} {name : Json} {c : Compilation} (h : m.get? name = some c) :
    c ∈ m.entries :=
  List.mem_of_find?_eq_some h

/-- Every entry is the compilation of its name. -/
theorem get?_of_mem {m : Manifest} {c : Compilation} (h : c ∈ m.entries) :
    m.get? c.name = some c := by
  obtain ⟨entries, sorted⟩ := m
  simp only [get?] at h ⊢
  induction entries with
  | nil => simp at h
  | cons d rest ih =>
    rw [List.pairwise_cons] at sorted
    rcases List.mem_cons.1 h with rfl | h
    · simp [Compilation.rank]
    · have : ¬ d.rank = c.name.rank := fun he => Rank.lt_irrefl _ (he ▸ sorted.1 c h)
      rw [List.find?_cons_of_neg (by simpa using this), ih sorted.2 h]

theorem get?_eq_some_iff {m : Manifest} {c : Compilation} :
    m.get? c.name = some c ↔ c ∈ m.entries :=
  ⟨mem_of_get?, get?_of_mem⟩

/-- Compilations whose names are texts have an order. -/
theorem isOrdered_of_strings {m : Manifest} (h : ∀ c ∈ m.entries, c.name.IsString) :
    m.isOrdered = true := by
  refine Json.areOrdered_of_kind (k := 2) fun name hname => ?_
  obtain ⟨c, hc, rfl⟩ := List.mem_map.1 hname
  obtain ⟨points, hpoints⟩ := Option.isSome_iff_exists.1 (h c hc)
  rw [Json.rank_of_points? hpoints]

end Manifest

end SheetCompiler
