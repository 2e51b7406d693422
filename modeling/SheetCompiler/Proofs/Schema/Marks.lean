import SheetCompiler.Schema.TypeToken
import Mathlib.Tactic.Lemma

/-!
# Array marks

Marks are dropped wherever they stand in a text, and what is left are the pieces between them
(`exists_pieces`). Where a text has no marks nothing is dropped, so what has been normalized stays
as it is unless dropping the marks made new ones.
-/

namespace SheetCompiler

open SheetCompiler.Text

/-- What is left of a text are its pieces between the marks. -/
lemma exists_pieces (cs : List Char) :
    ∃ first rest, cs = joinWith arrayMark.toList (first :: rest) ∧
      dropMarks cs = (first :: rest).flatten := by
  induction cs using dropMarks.induct with
  | case1 cs ih =>
    obtain ⟨first, rest, hcs, hdrop⟩ := ih
    refine ⟨[], first :: rest, ?_, ?_⟩
    · rw [joinWith, ← hcs]
      rfl
    · rw [dropMarks, hdrop]
      rfl
  | case2 c cs hmark ih =>
    obtain ⟨first, rest, hcs, hdrop⟩ := ih
    refine ⟨c :: first, rest, ?_, ?_⟩
    · cases rest with
      | nil => exact congrArg (c :: ·) hcs
      | cons next rest => exact congrArg (c :: ·) hcs
    · rw [dropMarks.eq_2 _ _ hmark, hdrop]
      rfl
  | case3 => exact ⟨[], [], rfl, rfl⟩

lemma dropMarks_eq_self {cs : List Char}
    (h : ∀ front back, cs ≠ front ++ arrayMark.toList ++ back) : dropMarks cs = cs := by
  obtain ⟨first, rest, hcs, hdrop⟩ := exists_pieces cs
  cases rest with
  | nil => rw [hdrop, hcs, joinWith, List.flatten_singleton]
  | cons next rest => exact absurd hcs (h first _)

lemma dropMarks_append_mark (cs : List Char) :
    dropMarks (cs ++ arrayMark.toList) = dropMarks cs := by
  induction cs using dropMarks.induct with
  | case1 cs ih => exact ih
  | case2 c cs hmark ih =>
    have hmark' : ∀ tail, c = '[' → cs ++ arrayMark.toList = ']' :: tail → False := by
      intro tail hc htail
      cases cs with
      | nil => cases htail
      | cons d cs =>
        rw [List.cons_append, List.cons.injEq] at htail
        exact hmark cs hc (by rw [htail.1])
    rw [List.cons_append, dropMarks.eq_2 _ _ hmark', dropMarks.eq_2 _ _ hmark, ih]
  | case3 => rfl

lemma dropMarks_sublist (cs : List Char) : (dropMarks cs).Sublist cs := by
  induction cs using dropMarks.induct with
  | case1 cs ih => exact (ih.cons ']').cons '['
  | case2 c cs hmark ih =>
    rw [dropMarks.eq_2 _ _ hmark]
    exact ih.cons_cons c
  | case3 => exact List.nil_sublist []

/-- A normalized text without marks stays as it is. -/
lemma normalize_normalize {text : String}
    (h : ∀ front back, (normalize text).toList ≠ front ++ arrayMark.toList ++ back) :
    normalize (normalize text) = normalize text := by
  have hblanks : dropBlanks (normalize text).toList = (normalize text).toList := by
    refine dropBlanks_eq_self fun c hc => ?_
    rw [normalize, String.toList_ofList] at hc
    exact isBlank_eq_false_of_mem_dropBlanks ((dropMarks_sublist _).mem hc)
  rw [normalize, hblanks, dropMarks_eq_self h, String.ofList_toList]

end SheetCompiler
