import SheetCompiler.Text.Compatible
import SheetCompiler.Text.Identifier
import Mathlib.Data.Char

/-!
# Characters of compatible forms

The compatible form of an identifier begins with an underscore only if the identifier does. The
underscore is no part of another character's composition, and the characters that decompose to it
may not begin an identifier. And a letter that nothing is composed with stays where it is, like the
first of the last two letters of `Type`.

Main statements:

* `head?_compatibleForm_ne`: how compatible forms begin;
* `mem_compatibleForm_append`: a letter that they keep.
-/

namespace SheetCompiler.Text

namespace Compatible

/-- The code point of the underscore. -/
def underscore : Nat := 0x5f

/-! ## Decomposition -/

lemma head?_of_mem_expansions :
    ∀ e ∈ expansions, e.2.head? ≠ some underscore ∧ e.2 ≠ [] := by
  decide +kernel

/-- What decomposes to the underscore may not begin an identifier. -/
lemma start_of_mem_singleRuns :
    ∀ r ∈ singleRuns, r.2.2 ≤ underscore → underscore ≤ r.2.2 + (r.2.1 - r.1) →
      128 ≤ r.1 + (underscore - r.2.2) ∧
        Identifier.startRanges.contains (r.1 + (underscore - r.2.2)) = false := by
  decide +kernel

lemma decompose_ne_nil (n : Nat) : decompose n ≠ [] := by
  unfold decompose
  split
  · rename_i parts hsyllable
    unfold splitSyllable? at hsyllable
    split at hsyllable
    · rw [← Option.some.inj hsyllable]
      split <;> exact List.cons_ne_nil _ _
    · cases hsyllable
  · split
    · rename_i e he
      exact (head?_of_mem_expansions e (List.mem_of_find?_eq_some he)).2
    · split <;> exact List.cons_ne_nil _ _

/-- A character that begins an identifier decomposes to an underscore only if it is one. -/
lemma head?_decompose {c : Char} (hc : startsIdentifier c = true)
    (h : (decompose c.toNat).head? = some underscore) : c = '_' := by
  unfold decompose at h
  split at h
  · rename_i parts hsyllable
    unfold splitSyllable? at hsyllable
    split at hsyllable
    · have hfirst : ∀ index : Nat, 0x1100 + index ≠ underscore := by
        intro index hindex
        unfold underscore at hindex
        omega
      rw [← Option.some.inj hsyllable] at h
      split at h <;>
      · rw [List.head?_cons, Option.some.injEq] at h
        exact absurd h (hfirst _)
    · cases hsyllable
  · split at h
    · rename_i e he
      exact absurd h (head?_of_mem_expansions e (List.mem_of_find?_eq_some he)).1
    · split at h
      · rename_i r hr
        have hrange := List.find?_some hr
        rw [Bool.and_eq_true, decide_eq_true_eq, decide_eq_true_eq] at hrange
        rw [List.head?_cons, Option.some.injEq] at h
        obtain ⟨hbeyond, hstart⟩ := start_of_mem_singleRuns r (List.mem_of_find?_eq_some hr)
          (by omega) (by omega)
        have hn : r.1 + (underscore - r.2.2) = c.toNat := by omega
        rw [hn] at hbeyond hstart
        unfold startsIdentifier at hc
        rw [if_neg (by rw [isAscii, decide_eq_true_eq]; omega), hstart] at hc
        cases hc
      · rw [List.head?_cons, Option.some.injEq] at h
        exact Char.toNat_inj.1 h

/-! ## Order and composition -/

lemma insertMark_ne_nil (n : Nat) (done : List Nat) : insertMark n done ≠ [] := by
  unfold insertMark
  split
  · exact List.cons_ne_nil _ _
  · split <;> exact List.cons_ne_nil _ _

/-- A mark that moves does not become the first character in front of an underscore. -/
lemma getLast?_insertMark {n : Nat} {done : List Nat} (hne : done ≠ [])
    (h : (insertMark n done).getLast? = some underscore) : done.getLast? = some underscore := by
  have hclass : combiningClass underscore = 0 := by decide +kernel
  induction done with
  | nil => exact absurd rfl hne
  | cons m done ih =>
    rw [insertMark] at h
    split at h
    · rename_i hmoves
      cases done with
      | nil =>
        -- the underscore itself never moves
        rw [insertMark, List.getLast?_cons_cons, List.getLast?_singleton, Option.some.injEq] at h
        rw [h] at hmoves
        exact absurd hclass hmoves.1
      | cons k done =>
        obtain ⟨a, as, ha⟩ := List.exists_cons_of_ne_nil (insertMark_ne_nil n (k :: done))
        rw [ha, List.getLast?_cons_cons, ← ha] at h
        rw [List.getLast?_cons_cons]
        exact ih (List.cons_ne_nil _ _) h
    · rwa [List.getLast?_cons_cons] at h

lemma getLast?_foldl_insertMark {text done : List Nat} (hne : done ≠ [])
    (h : (text.foldl (fun done n => insertMark n done) done).getLast? = some underscore) :
    done.getLast? = some underscore := by
  induction text generalizing done with
  | nil => exact h
  | cons n text ih => exact getLast?_insertMark hne (ih (insertMark_ne_nil n done) h)

lemma head?_orderMarks {n : Nat} {rest : List Nat}
    (h : (orderMarks (n :: rest)).head? = some underscore) : n = underscore := by
  rw [orderMarks, List.head?_reverse, List.foldl_cons] at h
  have hlast := getLast?_foldl_insertMark (insertMark_ne_nil n []) h
  have hone : insertMark n [] = [n] := rfl
  rw [hone, List.getLast?_singleton, Option.some.injEq] at hlast
  exact hlast

lemma joinPair?_ne (a b : Nat) : joinPair? a b ≠ some underscore := by
  have hpairs : ∀ p ∈ pairs, p.2.2 ≠ underscore := by decide +kernel
  intro h
  unfold joinPair? at h
  split at h
  · rename_i n hsyllable
    unfold joinSyllable? at hsyllable
    unfold underscore at h
    split at hsyllable
    · simp only [Option.some.injEq] at hsyllable h
      omega
    · split at hsyllable
      · simp only [Option.some.injEq] at hsyllable h
        omega
      · cases hsyllable
  · obtain ⟨p, hp, hunderscore⟩ := Option.map_eq_some_iff.1 h
    exact hpairs p (List.mem_of_find?_eq_some hp) hunderscore

lemma head?_composeFrom {starter : Nat} {marks rest : List Nat}
    (h : (composeFrom starter marks rest).head? = some underscore) : starter = underscore := by
  induction rest generalizing starter marks with
  | nil =>
    rw [composeFrom, List.head?_cons, Option.some.injEq] at h
    exact h
  | cons n rest ih =>
    rw [composeFrom.eq_def] at h
    dsimp only at h
    split at h
    · rename_i joined hjoined
      rw [ih h] at hjoined
      rw [ite_eq_iff] at hjoined
      rcases hjoined with ⟨-, hjoined⟩ | ⟨-, hjoined⟩
      · exact absurd hjoined (joinPair?_ne _ _)
      · cases hjoined
    · split at h
      · rw [List.cons_append, List.head?_cons, Option.some.injEq] at h
        exact h
      · exact ih h

lemma head?_compose {n : Nat} {rest : List Nat}
    (h : (compose (n :: rest)).head? = some underscore) : n = underscore := by
  rw [compose] at h
  split at h
  · exact head?_composeFrom h
  · rw [List.head?_cons, Option.some.injEq] at h
    exact h

/-! ## Letters that stay -/

/-- A code point that is no mark and is composed with nothing in front of it, in front of one that is
no mark and is not composed with it. -/
structure Stays (n m : Nat) : Prop where
  starter : combiningClass n = 0
  next : combiningClass m = 0
  before : ∀ a, joinPair? a n = none
  behind : joinPair? n m = none

variable {n m : Nat}

lemma composeFrom_pair (h : Stays n m) : composeFrom n [] [m] = n :: composeFrom m [] [] := by
  rw [composeFrom.eq_def]
  dsimp only
  rw [if_pos rfl, h.behind]
  dsimp only
  rw [if_pos h.next]
  rfl

lemma mem_composeFrom (h : Stays n m) (starter : Nat) (marks text : List Nat) :
    n ∈ composeFrom starter marks (text ++ [n, m]) := by
  induction text generalizing starter marks with
  | nil =>
    rw [List.nil_append, composeFrom.eq_def]
    dsimp only
    rw [h.before, ite_self]
    dsimp only
    rw [if_pos h.starter, composeFrom_pair h]
    simp
  | cons k text ih =>
    rw [List.cons_append, composeFrom.eq_def]
    dsimp only
    split
    · exact ih _ _
    · split
      · exact List.mem_append_right _ (ih _ _)
      · exact ih _ _

lemma mem_compose (h : Stays n m) (text : List Nat) : n ∈ compose (text ++ [n, m]) := by
  induction text with
  | nil =>
    rw [List.nil_append, compose, if_pos h.starter, composeFrom_pair h]
    exact List.mem_cons_self
  | cons k text ih =>
    rw [List.cons_append, compose]
    split
    · exact mem_composeFrom h _ _ _
    · exact List.mem_cons_of_mem _ ih

lemma orderMarks_append (h : Stays n m) (text : List Nat) :
    orderMarks (text ++ [n, m]) = orderMarks text ++ [n, m] := by
  have hstarter {k : Nat} (hk : combiningClass k = 0) (done : List Nat) :
      insertMark k done = k :: done := by
    cases done with
    | nil => rfl
    | cons l done => rw [insertMark, if_neg fun hmoves => hmoves.1 hk]
  rw [orderMarks, List.foldl_append, List.foldl_cons, List.foldl_cons, List.foldl_nil,
    hstarter h.starter, hstarter h.next, orderMarks]
  simp

lemma stays_pe : Stays 'p'.toNat 'e'.toNat := by
  have hpairs : ∀ p ∈ pairs, p.2.1 ≠ 'p'.toNat := by decide +kernel
  refine ⟨by decide +kernel, by decide +kernel, fun a => ?_, by decide +kernel⟩
  have hsyllable : joinSyllable? a 'p'.toNat = none := by
    have hp : 'p'.toNat = 112 := rfl
    rw [joinSyllable?, hp, if_neg (by omega), if_neg (by omega)]
  rw [joinPair?, hsyllable]
  dsimp only
  rw [Option.map_eq_none_iff, List.find?_eq_none]
  intro p hp heq
  rw [Bool.and_eq_true, beq_iff_eq, beq_iff_eq] at heq
  exact hpairs p hp heq.2

end Compatible

open Compatible

/-- The compatible form of an identifier that does not begin with an underscore does not either. -/
theorem head?_compatibleForm_ne {name : String} (h : isIdentifierChars name.toList = true)
    (hne : name.toList.head? ≠ some '_') : (compatibleForm name).toList.head? ≠ some '_' := by
  obtain ⟨c, cs, hcs⟩ : ∃ c cs, name.toList = c :: cs := by
    cases hn : name.toList with
    | nil => rw [hn] at h; cases h
    | cons c cs => exact ⟨c, cs, rfl⟩
  have hstart : startsIdentifier c = true := by
    rw [hcs, isIdentifierChars, Bool.and_eq_true] at h
    exact h.1
  rw [compatibleForm]
  split
  · exact hne
  · intro hhead
    rw [String.toList_ofList, List.head?_map, Option.map_eq_some_iff] at hhead
    obtain ⟨n, hn, hchar⟩ := hhead
    have hunderscore : n = underscore := by
      have hcode : (Char.ofNat n).toNat = underscore := by rw [hchar]; rfl
      by_cases hv : n.isValidChar
      · rw [Char.ofNat, dif_pos hv] at hcode
        exact hcode
      · rw [Char.ofNat, dif_neg hv] at hcode
        cases hcode
    rw [hunderscore] at hn
    -- from the composed text back to the first character
    cases hparts : decompose c.toNat with
    | nil => exact decompose_ne_nil _ hparts
    | cons m parts =>
      rw [hcs, List.flatMap_cons, hparts, List.cons_append] at hn
      cases hordered : orderMarks (m :: (parts ++ cs.flatMap fun c => decompose c.toNat)) with
      | nil => rw [hordered] at hn; cases hn
      | cons k rest =>
        rw [hordered] at hn
        have hk := head?_compose hn
        have hm : m = underscore := by
          have hfirst : (orderMarks (m :: (parts ++ cs.flatMap fun c => decompose c.toNat))).head? =
              some underscore := by
            rw [hordered, List.head?_cons, hk]
          exact head?_orderMarks hfirst
        have hc : c = '_' := by
          refine head?_decompose hstart ?_
          rw [hparts, List.head?_cons, hm]
        rw [hcs, hc] at hne
        exact hne rfl

/-- A name that ends in `pe` keeps the first of these letters. -/
theorem mem_compatibleForm_append (start : String) :
    'p' ∈ (compatibleForm (start ++ "pe")).toList := by
  have hlist : (start ++ "pe").toList = start.toList ++ ['p', 'e'] := String.toList_append
  rw [compatibleForm]
  split
  · rw [hlist]
    simp
  · have hp : decompose 'p'.toNat = ['p'.toNat] := by decide +kernel
    have he : decompose 'e'.toNat = ['e'.toNat] := by decide +kernel
    have hcodes : ((start ++ "pe").toList.flatMap fun c => decompose c.toNat) =
        (start.toList.flatMap fun c => decompose c.toNat) ++ ['p'.toNat, 'e'.toNat] := by
      rw [hlist, List.flatMap_append, List.flatMap_cons, List.flatMap_cons, hp, he]
      rfl
    rw [String.toList_ofList, hcodes, orderMarks_append stays_pe]
    exact List.mem_map.2 ⟨_, mem_compose stays_pe _, rfl⟩

end SheetCompiler.Text
