import SheetCompiler.Proofs.FileTree.Change

/-!
# Trees after many writes

A tree after files have been written at some paths is told by the texts at these paths alone
(`WritesAt`): the directories above them are there, and everything else is as before. So the same
texts at the same paths make the same tree, in whatever order they are written. A text that is
written where it stands already changes no file.
-/

namespace SheetCompiler.FileTree

open SheetCompiler.Path SheetCompiler.Stateful

variable {locs : Set Location} {paths more : Set String} {t u v : FileTree} {path text : String}

/-- What has been written is read back as a text. -/
lemma read_of_writeAtomic (hw : (writeAtomic path text).apply t = (.ok (), u)) :
    u.read path = .ok (.text text) := by
  obtain ⟨content, hread⟩ := isFile_of_readText (readText_of_writeAtomic hw)
  have hnode := (read_eq_ok_iff.1 hread).2.1
  -- what is read is the node that the write leaves at its place
  rcases writeAtomic_cases path text t with ⟨e, v, hv, -⟩ | ⟨v, w, hv, -, hwritten⟩
  · rw [hw] at hv
    cases hv
  · rw [hw] at hv
    cases hv
    rw [hwritten.place, Option.some.injEq, Entry.file.injEq] at hnode
    rw [hread, hnode]

lemma readText_of_read (h : t.read path = .ok (.text text)) : t.readText path = .ok text := by
  rw [readText, h]

/-! ## Which directories are made -/

/-- Files are written at some paths, in the directories above them. -/
structure WritesAt (paths : Set String) (t u : FileTree) : Prop where
  directories : ∀ l, (∀ path ∈ paths, location path ≠ l) → (∃ path ∈ paths, l ∈ made path) →
    u.node? l = some .directory
  others : ∀ l, (∀ path ∈ paths, location path ≠ l) → (¬ ∃ path ∈ paths, l ∈ made path) →
    u.node? l = t.node? l

lemma WritesAt.refl (t : FileTree) : WritesAt ∅ t t :=
  ⟨fun _ _ h => absurd h.choose_spec.1 (Set.notMem_empty _), fun _ _ _ => rfl⟩

lemma writesAt_of_writeAtomic (hw : (writeAtomic path text).apply t = (.ok (), u)) :
    WritesAt {path} t u := by
  have hnamed := (admits_of_writeAtomic hw).named
  rcases writeAtomic_cases path text t with ⟨e, v, hv, -⟩ | ⟨v, w, hv, hgrows, hwritten⟩
  · rw [hw] at hv
    cases hv
  rw [hw] at hv
  cases hv
  constructor
  · rintro l hl ⟨other, rfl, hmade⟩
    have hne : l ≠ location other := Ne.symm (hl other rfl)
    rw [hwritten.others l hne]
    exact hwritten.above l (made_subset hnamed l hmade)
  · intro l hl hnot
    have hne : l ≠ location path := Ne.symm (hl path rfl)
    rw [hwritten.others l hne]
    rcases hgrows l with hsame | ⟨hmade, -, -⟩
    · exact hsame
    · exact absurd ⟨path, rfl, hmade⟩ hnot

lemma WritesAt.trans (h : WritesAt paths t u) (h' : WritesAt more u v) :
    WritesAt (paths ∪ more) t v := by
  constructor
  · rintro l hl ⟨path, hpath, hmade⟩
    have hfirst : ∀ path ∈ paths, location path ≠ l := fun path hp => hl path (.inl hp)
    have hsecond : ∀ path ∈ more, location path ≠ l := fun path hp => hl path (.inr hp)
    by_cases hlater : ∃ path ∈ more, l ∈ made path
    · exact h'.directories l hsecond hlater
    · -- it was made by the first writes and left alone by the others
      rw [h'.others l hsecond hlater]
      rcases hpath with hp | hp
      · exact h.directories l hfirst ⟨path, hp, hmade⟩
      · exact absurd ⟨path, hp, hmade⟩ hlater
  · intro l hl hnot
    have hearlier : ¬ ∃ path ∈ paths, l ∈ made path :=
      fun ⟨path, hp, hmade⟩ => hnot ⟨path, .inl hp, hmade⟩
    have hlater : ¬ ∃ path ∈ more, l ∈ made path :=
      fun ⟨path, hp, hmade⟩ => hnot ⟨path, .inr hp, hmade⟩
    rw [h'.others l (fun path hp => hl path (.inr hp)) hlater]
    exact h.others l (fun path hp => hl path (.inl hp)) hearlier

/-- The same texts at the same paths make the same tree. -/
theorem WritesAt.node?_eq (h : WritesAt paths t u) (h' : WritesAt paths t v)
    (htexts : ∀ path ∈ paths, ∃ text,
      u.read path = .ok (.text text) ∧ v.read path = .ok (.text text)) (l : Location) :
    u.node? l = v.node? l := by
  -- a place is written, or a directory that was made above one, or left alone
  by_cases hl : ∃ path ∈ paths, location path = l
  · obtain ⟨path, hp, rfl⟩ := hl
    obtain ⟨text, hu, hv⟩ := htexts path hp
    rw [(read_eq_ok_iff.1 hu).2.1, (read_eq_ok_iff.1 hv).2.1]
  · have hne : ∀ path ∈ paths, location path ≠ l := fun path hp he => hl ⟨path, hp, he⟩
    by_cases hmade : ∃ path ∈ paths, l ∈ made path
    · rw [h.directories l hne hmade, h'.directories l hne hmade]
    · rw [h.others l hne hmade, h'.others l hne hmade]

/-! ## Writing what stands there -/

/-- A text that is written where it stands changes no file, whether or not the write succeeds. -/
theorem changesAt_of_rewritten {r : Except FileError Unit} (h : t.read path = .ok (.text text))
    (hw : (writeAtomic path text).apply t = (r, u)) : ChangesAt ∅ t u := by
  have hchanges := changesAt_writeAtomic hw
  refine ⟨hchanges.directories, fun l _ => ?_⟩
  by_cases hl : l = location path
  · subst hl
    have hcontent := content?_eq_some_iff.2 (read_eq_ok_iff.1 h).2.1
    -- a write that fails only makes directories, and one that succeeds puts the same text there
    rcases writeAtomic_cases path text t with ⟨e, v, hv, hgrows⟩ | ⟨v, w, hv, -, hwritten⟩
    · rw [hw] at hv
      cases hv
      have hunchanged : ChangesAt ∅ t u := hgrows.changesAt
      exact hunchanged.files _ (Set.notMem_empty _)
    · rw [hw] at hv
      cases hv
      rw [hcontent, content?_eq_some_iff.2 hwritten.place]
  · exact hchanges.files l hl

end SheetCompiler.FileTree
