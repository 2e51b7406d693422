import SheetCompiler.Proofs.FileTree.Delete

/-!
# The names in a tree

The components of a path have no slash in them, and a write makes nothing but what paths lead to. So
a tree in which no name has a slash (`IsProper`) stays one, and each of its entries has a path: that
of its directory, joined with its name.

Main statements:

* `IsProper.writeAtomic`: names are without slashes after a write if they were so before;
* `Extends.contains`: a path that leads somewhere still does when nothing is taken away.
-/

namespace SheetCompiler

open SheetCompiler.Stateful

/-! ## The names in a path -/

namespace Path

lemma mem_follow {loc : Location} {cs : List String} {name : String}
    (h : name ∈ FileTree.follow loc cs) : name ∈ loc ∨ name ∈ cs := by
  induction cs generalizing loc with
  | nil => exact .inl h
  | cons c cs ih =>
    rcases ih h with hstep | hmem
    · unfold FileTree.step at hstep
      split_ifs at hstep
      · exact .inl hstep
      · exact .inl (List.dropLast_subset _ hstep)
      · rcases List.mem_append.1 hstep with hloc | hc
        · exact .inl hloc
        · exact .inr (by simp [List.mem_singleton.1 hc])
    · exact .inr (List.mem_cons_of_mem c hmem)

lemma slash_notMem_of_mem_components {path name : String} (h : name ∈ components path) :
    '/' ∉ name.toList := by
  rw [components_eq] at h
  obtain ⟨piece, hpiece, rfl⟩ := List.mem_map.1 h
  rw [String.toList_ofList]
  exact Text.not_mem_of_mem_splitOn (List.mem_filter.1 hpiece).1

lemma slash_notMem_of_mem_location {path name : String} (h : name ∈ location path) :
    '/' ∉ name.toList := by
  rcases mem_follow h with hnil | hmem
  · cases hnil
  · exact slash_notMem_of_mem_components hmem

end Path

namespace FileTree

open SheetCompiler.Path

variable {t u : FileTree} {path name : String} {l : Location}

/-- No name in a tree has a slash in it. -/
def IsProper (t : FileTree) : Prop :=
  ∀ l name, t.node? (l ++ [name]) ≠ none → '/' ∉ name.toList

lemma isProper_of_entries (h : ∀ e ∈ t.entries, ∀ name ∈ e.1, '/' ∉ name.toList) :
    t.IsProper := by
  intro l name hl
  rw [ne_eq, node?_eq_none_iff, not_and, not_not] at hl
  obtain ⟨e, he, hplace⟩ := List.mem_map.1 (hl (by simp))
  exact h e he name (by simp [hplace])

/-- Names that come into a tree as those of paths have no slash in them. -/
lemma IsProper.of_new (h : t.IsProper)
    (hnew : ∀ l, u.node? l ≠ none → t.node? l ≠ none ∨ ∃ path, l = location path) :
    u.IsProper := by
  intro l name hl
  rcases hnew _ hl with hold | ⟨path, hpath⟩
  · exact h l name hold
  · have hmem : name ∈ location path := by
      rw [← hpath]
      simp
    exact slash_notMem_of_mem_location hmem

/-- A write keeps names without slashes, whether or not it succeeds. -/
lemma IsProper.of_isWriteTo (h : t.IsProper) (hw : IsWriteTo path t u) : u.IsProper := by
  have hgrows {v : FileTree} (hv : GrowsAt (made path) t v) (l : Location)
      (hl : v.node? l ≠ none) : t.node? l ≠ none ∨ ∃ path, l = location path := by
    rcases hv l with hsame | ⟨hmade, -, -⟩
    · exact .inl (hsame ▸ hl)
    · obtain ⟨place, -, rfl⟩ := List.mem_map.1 hmade
      exact .inr ⟨place, rfl⟩
  cases hw with
  | directories hmade => exact h.of_new (hgrows hmade)
  | file text w hmade hwritten =>
    refine h.of_new fun l hl => ?_
    by_cases hplace : l = location path
    · exact .inr ⟨path, hplace⟩
    · rw [hwritten.others l hplace] at hl
      exact hgrows hmade l hl

theorem IsProper.writeAtomic {text : String} {r : Except FileError Unit} (h : t.IsProper)
    (hw : (writeAtomic path text).apply t = (r, u)) : u.IsProper :=
  h.of_isWriteTo (isWriteTo_of_writeAtomic hw)

/-- What a directory lists has an entry. -/
lemma node?_of_mem_children (h : name ∈ t.children l) : t.node? (l ++ [name]) ≠ none := by
  rw [children, sortTexts, List.mem_mergeSort, List.mem_filterMap] at h
  obtain ⟨⟨loc, entry⟩, hmem, hname⟩ := h
  split_ifs at hname with hloc
  obtain ⟨hne, hdirectory⟩ := hloc
  have hsplit : loc = l ++ [name] := by
    rw [← hdirectory]
    exact (List.dropLast_append_getLast? name hname).symm
  rw [ne_eq, node?_eq_none_iff, not_and, not_not, ← hsplit]
  exact fun _ => List.mem_map_of_mem hmem

/-- A path that leads somewhere still does when nothing is taken away. -/
theorem Extends.contains (h : Extends t u) (hc : t.contains path = true) :
    u.contains path = true := by
  rcases contains_cases hc with ⟨content, hlookup, -⟩ | ⟨hlookup, -⟩
  · have hfile : t.IsFile path := ⟨content, by rw [read, hlookup]⟩
    exact contains_of_isFile (h.isFile hfile)
  · have hdirectory : t.isDirectory path = true := by rw [isDirectory, hlookup]
    obtain ⟨hlocate, hnode⟩ := isDirectory_iff.1 hdirectory
    obtain ⟨hfollow, habove, -⟩ := locate_eq_ok_iff.1 hlocate
    have hlocate' : u.locate path = .ok (location path) :=
      locate_eq_ok_iff.2 ⟨hfollow, fun d hd => h.directories d (habove d hd), rfl⟩
    have hthere : u.lookup path = .ok (location path, .directory) := by
      rw [lookup, hlocate']
      simp only [bind, Except.bind, h.directories _ hnode]
    exact contains_of_lookup hthere

end FileTree

end SheetCompiler
