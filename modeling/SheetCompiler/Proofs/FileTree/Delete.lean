import SheetCompiler.Proofs.FileTree.Change

/-!
# Trees after files have been deleted

Deleting takes files away and leaves the directories, so every path that leads somewhere afterwards
led there before. After the files of some paths have been deleted one after the other (`Deleted`),
none of these paths leads anywhere and all other files are as before.

Main statements:

* `ShrinksAt.lookup`: what a path leads to after a deletion it led to before;
* `Deleted.union`: what two deletions one after the other have done;
* `Deleted.write`: what is left of it when a file is written afterwards.
-/

namespace SheetCompiler.FileTree

open SheetCompiler.Path SheetCompiler.Stateful

variable {locs : Set Location} {paths more : Set String} {t u v : FileTree} {path : String}

/-! ## Where paths lead -/

lemma contains_of_lookup {found : Location × Entry} (h : t.lookup path = .ok found) :
    t.contains path = true := by
  rw [contains, h]
  rfl

lemma isDirectory_iff : t.isDirectory path = true ↔
    t.locate path = .ok (location path) ∧ t.node? (location path) = some .directory := by
  unfold isDirectory lookup
  cases hl : t.locate path with
  | error cause => simp [bind, Except.bind]
  | ok l =>
    obtain rfl := (locate_eq_ok_iff.1 hl).2.2
    simp only [bind, Except.bind, true_and]
    cases hn : t.node? (location path) with
    | none => simp
    | some entry =>
      cases entry with
      | directory => simp
      | file content => by_cases hd : demandsDirectory path = true <;> simp [hd]

/-- What is there after a deletion was there before. -/
lemma ShrinksAt.node?_of_some (h : ShrinksAt locs t u) {l : Location} {entry : Entry}
    (hu : u.node? l = some entry) : t.node? l = some entry := by
  rcases h l with hsame | ⟨-, -, hnone⟩
  · rw [← hsame, hu]
  · rw [hnone] at hu
    cases hu

/-- What a path leads to after a deletion it led to before. -/
theorem ShrinksAt.lookup {found : Location × Entry} (h : ShrinksAt locs t u)
    (hu : u.lookup path = .ok found) : t.lookup path = .ok found := by
  obtain ⟨l, hlocate, hfound⟩ := except_bind_eq_ok.1 hu
  obtain ⟨hfollow, hpassed, hl⟩ := locate_eq_ok_iff.1 hlocate
  have hlocate' : t.locate path = .ok l :=
    locate_eq_ok_iff.2 ⟨hfollow, fun d hd => h.node?_of_some (hpassed d hd), hl⟩
  refine except_bind_eq_ok.2 ⟨l, hlocate', ?_⟩
  cases hn : u.node? l with
  | none =>
    rw [hn] at hfound
    cases hfound
  | some entry =>
    rw [hn] at hfound
    rw [h.node?_of_some hn]
    exact hfound

lemma ShrinksAt.contains_eq_false (h : ShrinksAt locs t u) (ht : t.contains path = false) :
    u.contains path = false := by
  cases hu : u.lookup path with
  | error cause =>
    rw [contains, hu]
    rfl
  | ok found =>
    rw [contains_of_lookup (h.lookup hu)] at ht
    cases ht

lemma ShrinksAt.isFile (h : ShrinksAt locs t u) (hu : u.IsFile path) : t.IsFile path := by
  obtain ⟨content, hr⟩ := hu
  have hlookup := h.lookup (lookup_eq_file_iff.2 (read_eq_ok_iff.1 hr))
  exact ⟨content, read_eq_ok_iff.2 (lookup_eq_file_iff.1 hlookup)⟩

/-- Deleting neither makes nor takes away a directory. -/
lemma ShrinksAt.isDirectory_eq (h : ShrinksAt locs t u) (path : String) :
    u.isDirectory path = t.isDirectory path := by
  rw [Bool.eq_iff_iff, isDirectory_iff, isDirectory_iff, locate_eq_ok_iff, locate_eq_ok_iff]
  have hdirectory (l : Location) : u.node? l = some .directory ↔ t.node? l = some .directory :=
    ⟨h.node?_of_some, h.changesAt.directories l⟩
  simp only [hdirectory]

/-! ## Deleting the files of paths -/

/-- The files that paths lead to are gone, and nothing else has changed. -/
structure Deleted (paths : Set String) (t u : FileTree) : Prop where
  shrinks : ShrinksAt {l | ∃ path ∈ paths, t.IsFile path ∧ location path = l} t u
  gone : ∀ path ∈ paths, u.contains path = false

lemma deleted_empty (t : FileTree) : Deleted ∅ t t :=
  ⟨.refl _ _, fun _ h => absurd h (Set.notMem_empty _)⟩

lemma deleted_of_contains_eq_false (h : t.contains path = false) : Deleted {path} t t := by
  refine ⟨.refl _ _, fun other ho => ?_⟩
  rw [Set.mem_singleton_iff.1 ho]
  exact h

lemma deleted_of_isFile (h : t.IsFile path) : Deleted {path} t (t.erase (location path)) := by
  obtain ⟨⟨content, hn⟩, -⟩ := removeFile_of_isFile h
  constructor
  · refine (shrinksAt_erase hn).mono ?_
    rintro l rfl
    exact ⟨path, rfl, h, rfl⟩
  · intro other ho
    rw [Set.mem_singleton_iff.1 ho]
    exact contains_of_node?_eq_none (node?_erase_file hn)

/-- A file that one deletion has taken away is gone for the next one as well. -/
theorem Deleted.union (h : Deleted paths t u) (h' : Deleted more u v) :
    Deleted (paths ∪ more) t v := by
  constructor
  · refine (h.shrinks.mono ?_).trans (h'.shrinks.mono ?_)
    · rintro l ⟨path, hp, hfile, hl⟩
      exact ⟨path, .inl hp, hfile, hl⟩
    · rintro l ⟨path, hp, hfile, hl⟩
      exact ⟨path, .inr hp, h.shrinks.isFile hfile, hl⟩
  · rintro path (hp | hp)
    · exact h'.shrinks.contains_eq_false (h.gone path hp)
    · exact h'.gone path hp

/-- Only where there was no directory, there is nothing afterwards. -/
lemma Deleted.isDirectory_eq_false (h : Deleted paths t u) (hp : path ∈ paths) :
    t.isDirectory path = false := by
  rw [← h.shrinks.isDirectory_eq path, Bool.eq_false_iff]
  intro hdirectory
  obtain ⟨hlocate, hnode⟩ := isDirectory_iff.1 hdirectory
  have hlookup : u.lookup path = .ok (location path, .directory) := by
    rw [lookup, hlocate]
    simp only [bind, Except.bind, hnode]
  have hgone := h.gone path hp
  rw [contains_of_lookup hlookup] at hgone
  cases hgone

/-- A file that has been deleted leaves its place free. -/
lemma Deleted.node?_eq_none (h : Deleted paths t u) (hp : path ∈ paths) (hfile : t.IsFile path) :
    u.node? (location path) = none := by
  rcases h.shrinks.isDeletable (.inl hfile) with hstill | hnone
  · have hgone := h.gone path hp
    rw [contains_of_isFile hstill] at hgone
    cases hgone
  · exact hnone

/-- A place that could be written to still can. -/
lemma ShrinksAt.admits {place : String} (h : ShrinksAt locs t u) (ht : t.Admits place) :
    u.Admits place :=
  ⟨ht.followable, ht.named, ht.noPoint, ht.noPoints, ht.apart,
    fun d hd content hfile => ht.clear d hd content (h.node?_of_some hfile),
    fun hdir => ht.free (h.node?_of_some hdir)⟩

/-! ## Writing a file afterwards -/

/-- What a deletion has done when a file has been written at another place: files elsewhere are as
before, and those that were there are gone. A path that led nowhere leads to a file only if it passes
a directory that was missing, and has been made for the file that was written. -/
structure DeletedBut (place : String) (paths : Set String) (t v : FileTree) : Prop where
  others : ∀ l, l ≠ location place → (∀ path ∈ paths, t.IsFile path → location path ≠ l) →
    v.content? l = t.content? l
  gone : ∀ path ∈ paths, t.IsFile path → v.node? (location path) = none
  passed : ∀ path ∈ paths, v.IsFile path →
    ∃ d ∈ directories path, d ∈ made place ∧ t.node? d = none

/-- A file is written after a deletion where it could be written before. -/
theorem Deleted.write {place : String} (h : Deleted paths t u) (hadmits : t.Admits place)
    (hapart : ∀ path ∈ paths, location path ≠ location place) (text : String) :
    ∃ v, (writeAtomic place text).apply u = (.ok (), v) ∧ DeletedBut place paths t v := by
  obtain ⟨v, hwrite⟩ := writeAtomic_of_admits (h.shrinks.admits hadmits) text
  refine ⟨v, hwrite, ?_⟩
  have hchanges := changesAt_writeAtomic hwrite
  rcases writeAtomic_cases place text u with ⟨e, x, hx, -⟩ | ⟨x, w, hx, hgrows, hwritten⟩
  · rw [hwrite] at hx
    cases hx
  rw [hwrite] at hx
  cases hx
  -- a directory that is made for the file takes the place of no file that was deleted
  have hmissing : ∀ l ∈ made place, u.node? l = none → t.node? l = none := by
    intro l hl hu
    rcases h.shrinks l with hsame | ⟨-, ⟨content, hfile⟩, -⟩
    · rw [← hsame, hu]
    · exact absurd hfile (hadmits.clear l (made_subset hadmits.named l hl) content)
  refine ⟨fun l hl hne => ?_, fun path hp hfile => ?_, fun path hp hfile => ?_⟩
  · rw [hchanges.files l hl]
    refine h.shrinks.changesAt.files l ?_
    rintro ⟨path, hp, hfile, he⟩
    exact hne path hp hfile he
  · have hnone := h.node?_eq_none hp hfile
    rw [hwritten.others _ (hapart path hp)]
    rcases hgrows (location path) with hsame | ⟨hmade, -, -⟩
    · rw [hsame, hnone]
    · obtain ⟨content, hread⟩ := hfile
      have hnode := (read_eq_ok_iff.1 hread).2.1
      rw [hmissing _ hmade hnone] at hnode
      cases hnode
  · obtain ⟨content, hread⟩ := hfile
    obtain ⟨hlocate, hnode, hdemands⟩ := read_eq_ok_iff.1 hread
    obtain ⟨hfollow, hpassed, -⟩ := locate_eq_ok_iff.1 hlocate
    rw [hwritten.others _ (hapart path hp), hgrows.file_iff] at hnode
    -- the file has been there all the time, so the way to it has not
    have hblocked : ¬∀ d ∈ directories path, u.node? d = some .directory := by
      intro hall
      have hstill : u.IsFile path :=
        ⟨content, read_eq_ok_iff.2 ⟨locate_eq_ok_iff.2 ⟨hfollow, hall, rfl⟩, hnode, hdemands⟩⟩
      have hgone := h.gone path hp
      rw [contains_of_isFile hstill] at hgone
      cases hgone
    simp only [not_forall] at hblocked
    obtain ⟨d, hd, hnot⟩ := hblocked
    have hne : d ≠ location place := by
      intro hc
      have hdirectory := hpassed d hd
      rw [hc, hwritten.place] at hdirectory
      cases hdirectory
    have hdirectory := hpassed d hd
    rw [hwritten.others d hne] at hdirectory
    rcases hgrows d with hsame | ⟨hmade, hnone, -⟩
    · exact absurd (hsame.symm.trans hdirectory) hnot
    · exact ⟨d, hd, hmade, hmissing d hmade hnone⟩

end SheetCompiler.FileTree
