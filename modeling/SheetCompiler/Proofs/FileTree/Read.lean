import SheetCompiler.Proofs.FileTree.Write

/-!
# Reading what has been written

A path is read if it can be followed to a file, and a file that has been written is read back.

Main statements:

* `read_eq_ok_iff`: when a path is read;
* `readText_writeAtomic_self`: a written text is read back.
-/

namespace SheetCompiler

namespace Path

open SheetCompiler.Text

/-- The base of a path is what stands behind the last slash. -/
lemma base_append (cs : List Char) {name : String} (h : '/' ∉ name.toList) :
    base (String.ofList (cs ++ '/' :: name.toList)) = name := by
  have htake : (name.toList.reverse ++ '/' :: cs.reverse).takeWhile (· ≠ '/') =
      name.toList.reverse := by
    rw [List.takeWhile_append_of_pos (by
      intro c hc
      have : c ≠ '/' := fun heq => h (heq ▸ List.mem_reverse.1 hc)
      simpa using this)]
    simp
  rw [base, String.toList_ofList, List.reverse_append, List.reverse_cons, List.append_assoc,
    List.singleton_append, htake, List.reverse_reverse, String.ofList_toList]

/-- A path whose base is a name can be that of a file. -/
lemma demandsDirectory_of_base {path : String} (h : base path ≠ "") (h₁ : base path ≠ ".") :
    demandsDirectory path = false := by
  have hpoint : "/.".toList = ['/', '.'] := rfl
  have hdot : ".".toList = ['.'] := rfl
  rw [demandsDirectory, endsWith_slash_of_base_ne h, Bool.false_or, Bool.or_eq_false_iff]
  constructor
  · rw [Bool.eq_false_iff, endsWith, hpoint]
    intro hend
    obtain ⟨cs, hcs⟩ := List.isSuffixOf_iff_suffix.1 hend
    refine h₁ ?_
    have hpath : path = String.ofList (cs ++ '/' :: ".".toList) := by
      rw [← String.toList_inj, String.toList_ofList, ← hcs, hdot]
    rw [hpath, base_append cs (by decide)]
  · rw [decide_eq_false_iff_not]
    rintro rfl
    exact h₁ (by decide)

/-- A path without a base ends in a slash. -/
lemma endsWith_slash_of_base_eq {path : String} (h : base path = "") (hne : path ≠ "") :
    endsWith "/" path = true := by
  have hlist : path.toList = beforeBase path.toList := by
    have hsplit := toList_eq_beforeBase_append path
    rwa [h, String.toList_empty, List.append_nil] at hsplit
  rcases beforeBase_eq_nil_or path.toList with hnil | ⟨front, hfront⟩
  · exact (hne (String.toList_inj.1 (hlist.trans hnil))).elim
  · rw [endsWith, List.isSuffixOf_iff_suffix]
    exact ⟨front, (hlist.trans hfront).symm⟩

/-- The base of a path that can be that of a file is a name. -/
lemma base_of_demandsDirectory {path : String} (h : demandsDirectory path = false)
    (hne : path ≠ "") : base path ≠ "" ∧ base path ≠ "." := by
  rw [demandsDirectory, Bool.or_eq_false_iff, Bool.or_eq_false_iff] at h
  obtain ⟨⟨hslash, hend⟩, hpoint⟩ := h
  constructor
  · intro hb
    rw [endsWith_slash_of_base_eq hb hne] at hslash
    cases hslash
  · intro hb
    have hsplit := toList_eq_beforeBase_append path
    rw [hb] at hsplit
    -- the point is all of the path, or it stands behind a slash
    rcases beforeBase_eq_nil_or path.toList with hnil | ⟨front, hfront⟩
    · rw [hnil, List.nil_append, String.toList_inj] at hsplit
      exact of_decide_eq_false hpoint hsplit
    · rw [hfront, List.append_assoc] at hsplit
      rw [Bool.eq_false_iff] at hend
      refine hend ?_
      rw [endsWith, List.isSuffixOf_iff_suffix]
      exact ⟨front, hsplit.symm⟩

end Path

namespace FileTree

open SheetCompiler.Path SheetCompiler.Stateful

/-- A path leads to a file if it can be followed to one. -/
lemma lookup_eq_file_iff {t : FileTree} {path : String} {l : Location} {content : Content} :
    t.lookup path = .ok (l, .file content) ↔
      t.locate path = .ok l ∧ t.node? l = some (.file content) ∧
        demandsDirectory path = false := by
  unfold lookup
  cases hl : t.locate path with
  | error cause => simp [bind, Except.bind]
  | ok l' =>
    simp only [bind, Except.bind, Except.ok.injEq]
    constructor
    · intro h
      split at h
      · cases h
      · rename_i content' hn
        split at h
        · cases h
        · rename_i hd
          cases h
          exact ⟨rfl, hn, by simpa using hd⟩
      · cases h
    · rintro ⟨rfl, hn, hd⟩
      rw [hn]
      dsimp only
      rw [hd, if_neg Bool.false_ne_true]

lemma read_eq_ok_iff {t : FileTree} {path : String} {content : Content} :
    t.read path = .ok content ↔
      t.locate path = .ok (location path) ∧ t.node? (location path) = some (.file content) ∧
        demandsDirectory path = false := by
  have hlocation {l : Location} (hl : t.locate path = .ok l) : l = location path :=
    (locate_eq_ok_iff.1 hl).2.2
  unfold read
  constructor
  · intro h
    split at h
    · rename_i l content' hl
      cases h
      obtain ⟨hloc, hn, hd⟩ := lookup_eq_file_iff.1 hl
      obtain rfl := hlocation hloc
      exact ⟨hloc, hn, hd⟩
    · cases h
    · cases h
  · intro h
    rw [lookup_eq_file_iff.2 h]

lemma readText_of_written {path text : String} {v u : FileTree} (h : Written path text v u)
    (hbase : base path ≠ "") (hpoint : base path ≠ ".") : u.readText path = .ok text := by
  have hloc : u.locate path = .ok (location path) := by
    refine locate_eq_ok_iff.2 ⟨h.followable, fun d hd => ?_, rfl⟩
    have hne : d ≠ location path := fun hc => h.noDirectory (hc ▸ h.above d hd)
    rw [h.others d hne, h.above d hd]
  have hread : u.read path = .ok (.text text) :=
    read_eq_ok_iff.2 ⟨hloc, h.place, demandsDirectory_of_base hbase hpoint⟩
  rw [readText, hread]

/-- What a successful write has written is read back. -/
theorem readText_writeAtomic_self {t u : FileTree} {path text : String}
    (hw : (writeAtomic path text).apply t = (.ok (), u)) (hbase : base path ≠ "")
    (hpoint : base path ≠ ".") : u.readText path = .ok text := by
  rcases writeAtomic_cases path text t with ⟨e, v, hv, -⟩ | ⟨v, w, hv, -, hwritten⟩
  · rw [hw] at hv
    cases hv
  · rw [hw] at hv
    cases hv
    exact readText_of_written hwritten hbase hpoint

end FileTree

end SheetCompiler
