import SheetCompiler.Proofs.Schema.Rules
import SheetCompiler.Schema.Header
import Mathlib.Data.List.TakeWhile

/-!
# Places that are read one after the other

Headers, members and data rows are read alike. Each place has a label; the first blank label ends
the reading, places whose label is left out are passed over, and what is read of a place depends on
the labels before it (`readEach`). So the places that count are told by the labels alone
(`labelled`), and a reader that obeys its rules at each of them obeys the rules of all, place by
place.

Main statements:

* `obeys_readEach`: the rules of all places;
* `labelled_range'_congr`: labels behind the end do not matter;
* `readEach_range'_congr`: nor does how many places there are behind it.
-/

namespace SheetCompiler

variable {α : Type} {label : Nat → String} {places : List Nat}

/-- Reads places one after the other, with the labels of those before. -/
def readEach (label : Nat → String) (read : List String → Nat → Except Fault α) :
    List Nat → List String → Except Fault (List α)
  | [], _ => .ok []
  | i :: rest, seen =>
    if label i = "" then .ok []
    else if isExcluded (label i) then readEach label read rest seen
    else do
      let a ← read seen i
      return a :: (← readEach label read rest (label i :: seen))

/-- The places up to the first blank label. -/
def upToBlank (label : Nat → String) (places : List Nat) : List Nat :=
  places.takeWhile fun i => decide (label i ≠ "")

/-- The places up to the first blank label whose labels are not left out. -/
def labelled (label : Nat → String) (places : List Nat) : List Nat :=
  (upToBlank label places).filter fun i => !isExcluded (label i)

/-- The label of a place is not reserved, and none of the places in front has it. -/
def IsNew (label : Nat → String) (reserved : List String) (among : List Nat) (i : Nat) : Prop :=
  label i ∉ reserved ∧ ∀ before ∈ among, before < i → label before ≠ label i

lemma isNew_congr {label' : Nat → String} {reserved : List String} {among : List Nat} {i : Nat}
    (h : ∀ j ∈ among, label' j = label j) (hi : i ∈ among) :
    IsNew label' reserved among i = IsNew label reserved among i := by
  rw [IsNew, IsNew, h i hi]
  exact propext (and_congr_right fun _ => forall₂_congr fun j hj => by rw [h j hj])

lemma mem_labelled {i : Nat} (h : i ∈ labelled label places) :
    i ∈ places ∧ label i ≠ "" ∧ isExcluded (label i) = false := by
  obtain ⟨hmem, hnot⟩ := List.mem_filter.1 h
  refine ⟨(List.takeWhile_prefix _).mem hmem, ?_, by simpa using hnot⟩
  simpa using List.mem_takeWhile_imp hmem

lemma sublist_labelled : (labelled label places).Sublist places :=
  List.filter_sublist.trans (List.takeWhile_prefix _).sublist

section

variable {i : Nat} {rest : List Nat}

lemma labelled_cons_of_blank (h : label i = "") : labelled label (i :: rest) = [] := by
  rw [labelled, upToBlank, List.takeWhile_cons_of_neg (by simpa using h), List.filter_nil]

lemma labelled_cons_of_excluded (h : label i ≠ "") (hex : isExcluded (label i) = true) :
    labelled label (i :: rest) = labelled label rest := by
  rw [labelled, upToBlank, List.takeWhile_cons_of_pos (by simpa using h),
    List.filter_cons_of_neg (by simpa using hex), labelled, upToBlank]

lemma labelled_cons (h : label i ≠ "") (hex : isExcluded (label i) = false) :
    labelled label (i :: rest) = i :: labelled label rest := by
  rw [labelled, upToBlank, List.takeWhile_cons_of_pos (by simpa using h),
    List.filter_cons_of_pos (by simpa using hex), labelled, upToBlank]

end

/-! ## The rules of all places -/

/-- What stands in front of a place among places in order. -/
lemma isNew_iff {reserved : List String} {front back : List Nat} {i : Nat}
    (h : (front ++ i :: back).Pairwise (· < ·)) :
    IsNew label reserved (front ++ i :: back) i ↔
      label i ∉ reserved ∧ ∀ before ∈ front, label before ≠ label i := by
  rw [List.pairwise_append, List.pairwise_cons] at h
  obtain ⟨-, ⟨hback, -⟩, hfront⟩ := h
  refine and_congr_right fun _ => ⟨fun hall before hmem => ?_, fun hall before hmem hlt => ?_⟩
  · exact hall before (List.mem_append_left _ hmem) (hfront before hmem i List.mem_cons_self)
  · rcases List.mem_append.1 hmem with hmem | hmem
    · exact hall before hmem
    · rcases List.mem_cons.1 hmem with rfl | hmem
      · exact absurd hlt (Nat.lt_irrefl _)
      · exact absurd hlt (Nat.lt_asymm (hback before hmem))

/-- A reader that obeys its rules at each place, of which one may be that the label is new, obeys
the rules of all places, one place after the other. -/
theorem obeys_readEach (rules : Prop → Nat → List Rule) {value : Nat → α}
    {read : List String → Nat → Except Fault α} {reserved : List String}
    (hsorted : places.Pairwise (· < ·))
    (hread : ∀ seen, ∀ i ∈ labelled label places,
      Obeys (read seen i) (rules (label i ∉ seen) i) (value i)) :
    Obeys (readEach label read places reserved)
      ((labelled label places).flatMap fun i =>
        rules (IsNew label reserved (labelled label places) i) i)
      ((labelled label places).map value) := by
  -- the labels seen so far are those reserved and those of the places in front
  suffices hgeneral : ∀ rest front seen,
      (front ++ labelled label rest).Pairwise (· < ·) →
      (∀ seen, ∀ i ∈ labelled label rest,
        Obeys (read seen i) (rules (label i ∉ seen) i) (value i)) →
      (∀ s, s ∈ seen ↔ s ∈ reserved ∨ ∃ before ∈ front, label before = s) →
      Obeys (readEach label read rest seen)
        ((labelled label rest).flatMap fun i =>
          rules (IsNew label reserved (front ++ labelled label rest) i) i)
        ((labelled label rest).map value) from
    hgeneral places [] reserved (hsorted.sublist sublist_labelled) hread (by simp)
  intro rest
  induction rest with
  | nil => exact fun front seen _ _ _ => .pure []
  | cons i rest ih =>
    intro front seen hsorted hread hseen
    rw [readEach]
    by_cases hblank : label i = ""
    · rw [if_pos hblank, labelled_cons_of_blank hblank]
      exact .pure []
    rw [if_neg hblank]
    cases hex : isExcluded (label i) with
    | true =>
      rw [if_pos rfl]
      rw [labelled_cons_of_excluded hblank hex] at hsorted hread ⊢
      exact ih front seen hsorted hread hseen
    | false =>
      rw [if_neg Bool.false_ne_true]
      rw [labelled_cons hblank hex] at hsorted hread ⊢
      have hnew : label i ∉ seen ↔
          IsNew label reserved (front ++ i :: labelled label rest) i := by
        rw [isNew_iff hsorted, hseen, not_or]
        simp
      have hfirst := hread seen i List.mem_cons_self
      rw [propext hnew] at hfirst
      have hsplit : front ++ i :: labelled label rest = front ++ [i] ++ labelled label rest := by
        rw [List.append_assoc, List.singleton_append]
      rw [hsplit] at hsorted hfirst ⊢
      have hmore := ih (front ++ [i]) (label i :: seen) hsorted
        (fun seen j hj => hread seen j (List.mem_cons_of_mem _ hj)) fun s => by
          rw [List.mem_cons, hseen, or_comm, or_assoc]
          simp [or_and_right, exists_or, eq_comm]
      exact hfirst.bind (hmore.map (value i :: ·))

/-! ## Places behind the end -/

/-- Places in a row up to a blank label are places in a row. -/
lemma upToBlank_range' (start n : Nat) : upToBlank label (List.range' start n) =
    List.range' start (upToBlank label (List.range' start n)).length := by
  obtain ⟨k, -, htake, -⟩ := List.range'_eq_append_iff.1
    (List.takeWhile_append_dropWhile (p := fun i => decide (label i ≠ ""))
      (l := List.range' start n)).symm
  rw [upToBlank, htake, List.length_range']

/-- Labelled places stand in front of the end. -/
lemma lt_of_mem_labelled_range' {start n i : Nat} (h : i ∈ labelled label (List.range' start n)) :
    start ≤ i ∧ i < start + (upToBlank label (List.range' start n)).length := by
  have hmem := List.mem_of_mem_filter h
  rwa [upToBlank_range', List.mem_range'_1] at hmem

/-- Places in a row end where the label is blank for the first time, and what is behind that does
not matter. Where there are no more places, labels are blank. -/
lemma upToBlank_range'_congr {label' : Nat → String} {start n n' : Nat}
    (hblank : ∀ i, start + n ≤ i → label i = "") (hblank' : ∀ i, start + n' ≤ i → label' i = "")
    (h : ∀ i, start ≤ i → i ≤ start + (upToBlank label (List.range' start n)).length →
      label' i = label i) :
    upToBlank label' (List.range' start n') = upToBlank label (List.range' start n) := by
  induction n generalizing start n' with
  | zero =>
    cases n' with
    | zero => rfl
    | succ n' =>
      have hfirst : label' start = "" := by
        rw [h start (Nat.le_refl _) (Nat.le_add_right _ _), hblank start (by omega)]
      rw [List.range'_succ, upToBlank, List.takeWhile_cons_of_neg (by simpa using hfirst)]
      rfl
  | succ n ih =>
    have hfirst : label' start = label start := h start (Nat.le_refl _) (Nat.le_add_right _ _)
    by_cases hend : label start = ""
    · have hnone : upToBlank label (List.range' start (n + 1)) = [] := by
        rw [List.range'_succ, upToBlank, List.takeWhile_cons_of_neg (by simpa using hend)]
      rw [hnone]
      cases n' with
      | zero => rfl
      | succ n' =>
        rw [List.range'_succ, upToBlank,
          List.takeWhile_cons_of_neg (by simpa [hfirst] using hend)]
    · have hsome : upToBlank label (List.range' start (n + 1)) =
          start :: upToBlank label (List.range' (start + 1) n) := by
        rw [List.range'_succ, upToBlank, List.takeWhile_cons_of_pos (by simpa using hend),
          upToBlank]
      rw [hsome] at h ⊢
      cases n' with
      | zero =>
        rw [hblank' start (by omega)] at hfirst
        exact absurd hfirst.symm hend
      | succ n' =>
        rw [List.range'_succ, upToBlank,
          List.takeWhile_cons_of_pos (by simpa [hfirst] using hend), ← upToBlank,
          ih (fun i hi => hblank i (by omega)) (fun i hi => hblank' i (by omega)) fun i hi hle =>
            h i (by omega) (by rw [List.length_cons]; omega)]

/-- Labels behind the end do not tell which places count. -/
lemma labelled_range'_congr {label' : Nat → String} {start n n' : Nat}
    (hblank : ∀ i, start + n ≤ i → label i = "") (hblank' : ∀ i, start + n' ≤ i → label' i = "")
    (h : ∀ i, start ≤ i → i ≤ start + (upToBlank label (List.range' start n)).length →
      label' i = label i) :
    labelled label' (List.range' start n') = labelled label (List.range' start n) := by
  rw [labelled, labelled, upToBlank_range'_congr hblank hblank' h]
  refine List.filter_congr fun i hi => ?_
  rw [upToBlank_range', List.mem_range'_1] at hi
  rw [h i hi.1 (Nat.le_of_lt hi.2)]

/-- Places behind the end are not read. -/
lemma readEach_upToBlank {read : List String → Nat → Except Fault α} {seen : List String} :
    readEach label read (upToBlank label places) seen = readEach label read places seen := by
  induction places generalizing seen with
  | nil => rfl
  | cons i places ih =>
    by_cases hblank : label i = ""
    · rw [upToBlank, List.takeWhile_cons_of_neg (by simpa using hblank), readEach, readEach,
        if_pos hblank]
    · rw [upToBlank, List.takeWhile_cons_of_pos (by simpa using hblank), ← upToBlank, readEach,
        readEach, if_neg hblank, if_neg hblank, ih]
      simp only [ih]

/-- Where the labels of all further places are blank, it does not matter how many there are. -/
lemma readEach_range'_congr {read : List String → Nat → Except Fault α} {seen : List String}
    {start n n' : Nat} (hblank : ∀ i, start + n ≤ i → label i = "")
    (hblank' : ∀ i, start + n' ≤ i → label i = "") :
    readEach label read (List.range' start n') seen =
      readEach label read (List.range' start n) seen := by
  have hplaces : upToBlank label (List.range' start n') =
      upToBlank label (List.range' start n) :=
    upToBlank_range'_congr hblank hblank' fun _ _ _ => rfl
  rw [← readEach_upToBlank, hplaces, readEach_upToBlank]

end SheetCompiler
