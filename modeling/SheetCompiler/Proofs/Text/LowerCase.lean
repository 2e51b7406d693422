import SheetCompiler.Text.LowerCase
import Mathlib.Data.Char
import Mathlib.Tactic.Lemma

/-!
# Words in any case

Beyond ASCII only two letters have a lower-case form with an ASCII letter in it, a dotted capital I
and the sign of the kelvin. So a text whose lower-case form is an ASCII word without an `i` and a
`k` is an ASCII text, and it is enough to change the case of its ASCII letters.

Main statement: `lower_eq_iff`.
-/

namespace SheetCompiler.Text

/-- Whether a letter stands in the lower-case forms of ASCII letters only. -/
def isPlainLower (d : Char) : Bool := d.isLower && d != 'i' && d != 'k'

lemma isPlainLower_iff {d : Char} :
    isPlainLower d = true ↔ (97 ≤ d.toNat ∧ d.toNat ≤ 122) ∧ d ≠ 'i' ∧ d ≠ 'k' := by
  have hlower : d.isLower = (decide (97 ≤ d.toNat) && decide (d.toNat ≤ 122)) := rfl
  rw [isPlainLower, hlower, Bool.and_eq_true, Bool.and_eq_true, bne_iff_ne, bne_iff_ne, and_assoc,
    Bool.and_eq_true, decide_eq_true_iff, decide_eq_true_iff]

/-! ## Characters -/

/-- No run of letters has ASCII letters as its lower-case forms, save the one of the kelvin. -/
lemma target_of_mem_lowerRuns :
    ∀ run ∈ lowerRuns, 128 ≤ run.target ∨ (run.first = run.last ∧ run.target = 'k'.toNat) := by
  decide +kernel

lemma toNat_ofNat (n : Nat) : (Char.ofNat n).toNat = n ∨ (Char.ofNat n).toNat = 0 := by
  by_cases hvalid : n.isValidChar
  · rw [Char.ofNat, dif_pos hvalid]
    exact .inl rfl
  · rw [Char.ofNat, dif_neg hvalid]
    exact .inr rfl

lemma not_isPlainLower_of_lower? {run : LetterRun} (hrun : run ∈ lowerRuns) {n m : Nat}
    (h : run.lower? n = some m) : ¬ isPlainLower (Char.ofNat m) = true := by
  rw [isPlainLower_iff]
  rintro ⟨hlower, -, hk⟩
  unfold LetterRun.lower? at h
  split at h
  · rename_i hrange
    rw [Option.some.injEq] at h
    rcases target_of_mem_lowerRuns run hrun with hbeyond | ⟨hone, htarget⟩
    · rcases toNat_ofNat m with hm | hm <;> omega
    · have hm : m = 'k'.toNat := by omega
      rw [hm, Char.ofNat_toNat] at hk
      exact hk rfl
  · cases h

/-- A character with such a letter in its lower-case form is an ASCII character. -/
lemma isAscii_of_mem_lowerChar {c d : Char} (hd : isPlainLower d = true) (h : d ∈ lowerChar c) :
    isAscii c = true := by
  by_contra hascii
  unfold lowerChar at h
  rw [if_neg hascii] at h
  split at h
  · -- the dotted capital I
    rcases List.mem_cons.1 h with rfl | h
    · exact absurd hd (by decide)
    · rw [List.mem_singleton.1 h] at hd
      exact absurd hd (by decide)
  · split at h
    · rename_i m hm
      obtain ⟨run, hrun, hlower⟩ := List.exists_of_findSome?_eq_some hm
      rw [List.mem_singleton.1 h] at hd
      exact not_isPlainLower_of_lower? hrun hlower hd
    · rw [List.mem_singleton.1 h, isPlainLower_iff] at hd
      rw [isAscii, decide_eq_true_iff] at hascii
      omega

lemma lowerChar_ne_nil (c : Char) : lowerChar c ≠ [] := by
  unfold lowerChar
  split_ifs
  · exact List.cons_ne_nil _ _
  · exact List.cons_ne_nil _ _
  · split <;> exact List.cons_ne_nil _ _

/-! ## Texts -/

lemma lowerFrom_of_ascii {read cs : List Char} (h : ∀ c ∈ cs, isAscii c = true) :
    lowerFrom read cs = cs.map Char.toLower := by
  induction cs generalizing read with
  | nil => rfl
  | cons c cs ih =>
    rw [List.forall_mem_cons] at h
    have hsigma : c ≠ capitalSigma := by
      rintro rfl
      exact absurd h.1 (by decide)
    rw [lowerFrom, if_neg fun hends => hsigma hends.1, lowerChar, if_pos h.1, ih h.2]
    rfl

lemma isAscii_of_lowerFrom {read cs : List Char}
    (h : ∀ d ∈ lowerFrom read cs, isPlainLower d = true) : ∀ c ∈ cs, isAscii c = true := by
  induction cs generalizing read with
  | nil => exact fun _ hc => absurd hc List.not_mem_nil
  | cons c cs ih =>
    rw [lowerFrom, List.forall_mem_append] at h
    refine List.forall_mem_cons.2 ⟨?_, ih h.2⟩
    have hfirst := h.1
    split at hfirst
    · exact absurd (hfirst _ List.mem_cons_self) (by decide)
    · obtain ⟨d, hd⟩ := List.exists_mem_of_ne_nil _ (lowerChar_ne_nil c)
      exact isAscii_of_mem_lowerChar (hfirst d hd) hd

lemma isAscii_of_toLower {c : Char} (h : isPlainLower c.toLower = true) : isAscii c = true := by
  rw [isPlainLower_iff] at h
  rw [isAscii, decide_eq_true_iff]
  unfold Char.toLower at h
  split at h
  · rename_i hupper
    have hle : c.toNat ≤ 90 := hupper.2
    omega
  · omega

/-- The lower-case form of a text is a word of such letters exactly if the text is the word in
letters of any case. -/
theorem lower_eq_iff {word text : String} (hword : ∀ d ∈ word.toList, isPlainLower d = true) :
    lower text = word ↔ isCaselessly word text = true := by
  have hlist : lower text = word ↔ lowerFrom [] text.toList = word.toList := by
    rw [lower, ← String.toList_inj, String.toList_ofList]
  rw [hlist, isCaselessly, decide_eq_true_iff]
  constructor
  · intro h
    rw [← h] at hword
    rw [← h, lowerFrom_of_ascii (isAscii_of_lowerFrom hword)]
  · intro h
    have hascii : ∀ c ∈ text.toList, isAscii c = true := by
      intro c hc
      refine isAscii_of_toLower (hword _ ?_)
      rw [← h]
      exact List.mem_map_of_mem hc
    rw [lowerFrom_of_ascii hascii, h]

end SheetCompiler.Text
