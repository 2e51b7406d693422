import SheetCompiler.Proofs.Json.RoundTrip
import SheetCompiler.Proofs.Number.Shortest
import SheetCompiler.Proofs.Script.Numeral

/-!
# Numbers of data files

An integer is read back from its digits, unless they are too many. A real number is read back from
its shortest decimal: however the decimal is laid out, it is read as a decimal of the same value.

Main statements:

* `readNumber_integer` and `readNumber_real`: how numbers are read;
* `denotes_render`: however a decimal is laid out, its text denotes it;
* `readNumber_writeReal`: a finite number is read back.
-/

namespace SheetCompiler.Json

open SheetCompiler.Text SheetCompiler.Number
open SheetCompiler.Script (AreDigits areDigits_toDigits valueOfDigits_toDigits toList_toString
  head?_toDigits isDigit_of_mem_replicate takeWhile_append_of_stop dropWhile_append_of_stop
  digitValue?_of_isDigit ne_of_isDigit)

variable {whole part rest : List Char} {mark : Option Int}

/-! ## Parts of numbers -/

lemma isDigit_iff {c : Char} : isDigit c = true ↔ c.isDigit = true := by
  rw [isDigit, Char.isDigit, Bool.and_eq_true, Bool.and_eq_true, decide_eq_true_iff,
    decide_eq_true_iff, decide_eq_true_iff, decide_eq_true_iff]
  exact Iff.rfl

lemma head_of_endsValue (h : endsValue rest = true) {c : Char} (hc : rest.head? = some c) :
    c = ',' ∨ c = '\n' := by
  rw [endsValue, hc, Option.all_some, List.contains_iff_mem] at h
  exact List.mem_pair.1 h

lemma not_isDigit_of_endsValue (h : endsValue rest = true) :
    rest.head?.all (fun c => !isDigit c) = true := by
  cases hc : rest.head? with
  | none => rfl
  | some c =>
    rcases head_of_endsValue h hc with rfl | rfl <;> rfl

/-- Whether digits have no zero in front, or are one alone. -/
def IsWhole (whole : List Char) : Prop :=
  AreDigits whole ∧ (whole = ['0'] ∨ whole.head? ≠ some '0')

lemma IsWhole.exists_cons (h : IsWhole whole) : ∃ c cs, whole = c :: cs ∧ c.isDigit = true := by
  obtain ⟨c, cs, rfl⟩ := List.exists_cons_of_ne_nil h.1.1
  exact ⟨c, cs, rfl, h.1.2 c List.mem_cons_self⟩

lemma isWhole_toDigits (n : Nat) : IsWhole (Nat.toDigits 10 n) := by
  refine ⟨areDigits_toDigits n, ?_⟩
  rcases Nat.eq_zero_or_pos n with rfl | hn
  · exact .inl rfl
  · exact .inr (head?_toDigits hn.ne')

lemma wholeDigits_append (h : IsWhole whole)
    (hrest : rest.head?.all (fun c => !isDigit c) = true) :
    wholeDigits (whole ++ rest) = (whole, rest) := by
  have hdigits : ∀ c ∈ whole, isDigit c = true := fun c hc => isDigit_iff.2 (h.1.2 c hc)
  rcases h.2 with rfl | hzero
  · rfl
  · obtain ⟨c, cs, rfl, -⟩ := h.exists_cons
    rw [List.head?_cons, Ne, Option.some.injEq] at hzero
    rw [wholeDigits, takeWhile_append_of_stop hdigits hrest, dropWhile_append_of_stop hdigits hrest]
    rintro cs' heq
    exact hzero (List.cons.inj heq).1

/-- The digits behind a point, if there are any. -/
def pointText (part : List Char) : List Char := if part = [] then [] else '.' :: part

lemma pointDigits_append (hpart : ∀ c ∈ part, c.isDigit = true)
    (hrest : rest.head?.all (fun c => !isDigit c) = true) (hpoint : rest.head? ≠ some '.') :
    pointDigits (pointText part ++ rest) = (part, rest) := by
  have hdigits : ∀ c ∈ part, isDigit c = true := fun c hc => isDigit_iff.2 (hpart c hc)
  unfold pointText
  split_ifs with hempty
  · subst hempty
    rw [List.nil_append, pointDigits]
    rintro cs rfl
    exact hpoint rfl
  · rw [List.cons_append, pointDigits, takeWhile_append_of_stop hdigits hrest,
      dropWhile_append_of_stop hdigits hrest, List.isEmpty_eq_false_iff.2 hempty]
    rfl

/-- An exponent behind its mark, if there is one. -/
def markText (mark : Option Int) : List Char := (mark.map fun e => (exponentText e).toList).getD []

/-- An exponent has a sign and digits that denote its size. -/
lemma exists_exponentText (e : Int) : ∃ ds, AreDigits ds ∧ valueOfDigits ds = e.natAbs ∧
    (exponentText e).toList = 'e' :: (if e < 0 then '-' else '+') :: ds := by
  have hdigits := areDigits_toDigits e.natAbs
  have htext (ds : String) :
      ("e" ++ (if e < 0 then "-" else "+") ++ ds).toList =
        'e' :: (if e < 0 then '-' else '+') :: ds.toList := by
    rw [String.toList_append, String.toList_append]
    split_ifs <;> rfl
  unfold exponentText
  dsimp only
  rw [htext]
  rcases lt_or_ge (toString e.natAbs).length 2 with hshort | hlong
  · rw [if_pos hshort]
    refine ⟨'0' :: Nat.toDigits 10 e.natAbs, ⟨List.cons_ne_nil _ _, ?_⟩,
      valueOfDigits_toDigits e.natAbs, ?_⟩
    · rw [List.forall_mem_cons]
      exact ⟨rfl, hdigits.2⟩
    · rw [String.toList_append, toList_toString]
      rfl
  · rw [if_neg (not_lt.2 hlong), toList_toString]
    exact ⟨_, hdigits, valueOfDigits_toDigits e.natAbs, rfl⟩

lemma exponentDigits_append (hrest : endsValue rest = true) :
    exponentDigits (markText mark ++ rest) = (mark, rest) := by
  cases mark with
  | none =>
    have hmark : markText none ++ rest = rest := rfl
    rw [hmark]
    cases rest with
    | nil => rfl
    | cons c rest =>
      rcases head_of_endsValue hrest rfl with rfl | rfl <;> rfl
  | some e =>
    obtain ⟨ds, hds, hvalue, htext⟩ := exists_exponentText e
    have hdigits : ∀ c ∈ ds, isDigit c = true := fun c hc => isDigit_iff.2 (hds.2 c hc)
    have hstop := not_isDigit_of_endsValue hrest
    have hsign : splitSign ((if e < 0 then '-' else '+') :: (ds ++ rest)) =
        (decide (e < 0), ds ++ rest) := by
      split_ifs with he
      · rw [decide_eq_true he]
        rfl
      · rw [decide_eq_false he]
        rfl
    have hsigned : signed (decide (e < 0)) e.natAbs = e := by
      unfold signed
      split_ifs with he
      · rw [decide_eq_true_iff] at he
        omega
      · rw [decide_eq_true_iff] at he
        omega
    have hmark : markText (some e) = 'e' :: (if e < 0 then '-' else '+') :: ds := htext
    rw [hmark, List.cons_append, List.cons_append, exponentDigits, if_pos (.inl rfl), hsign]
    dsimp only
    rw [takeWhile_append_of_stop hdigits hstop, dropWhile_append_of_stop hdigits hstop,
      List.isEmpty_eq_false_iff.2 hds.1, hvalue, hsigned]
    rfl

/-! ## Numbers -/

/-- What is read of a number behind its sign. -/
def readUnsigned (negative : Bool) (body : List Char) : Except ReadFault (Json × List Char) :=
  let (whole, rest) := wholeDigits body
  if whole.isEmpty then .error .malformed
  else
    let (part, rest) := pointDigits rest
    let (mark, rest) := exponentDigits rest
    if part.isEmpty && mark.isNone then
      if digitLimit < whole.length then .error (.numeral (.tooManyDigits whole.length))
      else .ok (.integer (signed negative (valueOfDigits whole)), rest)
    else
      let exponent : Int := mark.getD 0 - part.length
      .ok (.real (.ofDecimal negative (valueOfDigits (whole ++ part)) exponent), rest)

lemma readNumber_append (negative : Bool) (h : IsWhole whole) (rest : List Char) :
    readNumber ((signText negative).toList ++ (whole ++ rest)) =
      readUnsigned negative (whole ++ rest) := by
  obtain ⟨c, cs, rfl, hc⟩ := h.exists_cons
  cases negative with
  | true => rfl
  | false =>
    have hsign : (signText false).toList ++ (c :: cs ++ rest) = c :: cs ++ rest := rfl
    rw [hsign, readNumber]
    · rfl
    · intro rest' heq
      exact ne_of_isDigit hc rfl (List.cons.inj heq).1

/-- Digits that nothing goes on behind are an integer. -/
lemma readNumber_integer (negative : Bool) (h : IsWhole whole) (hlength : whole.length ≤ digitLimit)
    (hrest : endsValue rest = true) :
    readNumber ((signText negative).toList ++ (whole ++ rest)) =
      .ok (.integer (signed negative (valueOfDigits whole)), rest) := by
  have hstop := not_isDigit_of_endsValue hrest
  have hpoint : rest.head? ≠ some '.' := by
    intro hc
    rcases head_of_endsValue hrest hc with h | h <;> cases h
  have hnil : ∀ c ∈ ([] : List Char), c.isDigit = true := fun _ hc => (List.not_mem_nil hc).elim
  have hpart : pointDigits rest = ([], rest) := pointDigits_append hnil hstop hpoint
  have hmark : exponentDigits rest = (none, rest) := @exponentDigits_append rest none hrest
  rw [readNumber_append negative h, readUnsigned, wholeDigits_append h hstop]
  dsimp only
  rw [List.isEmpty_eq_false_iff.2 h.1.1, hpart]
  dsimp only
  rw [hmark]
  dsimp only
  rw [if_neg Bool.false_ne_true, if_neg (not_lt.2 hlength)]
  rfl

/-- Digits with a point and digits behind it, an exponent or both are a real number. -/
lemma readNumber_real (negative : Bool) (h : IsWhole whole) (hpart : ∀ c ∈ part, c.isDigit = true)
    (hreal : part ≠ [] ∨ mark ≠ none) (hrest : endsValue rest = true) :
    readNumber ((signText negative).toList ++
        (whole ++ (pointText part ++ (markText mark ++ rest)))) =
      .ok (.real (.ofDecimal negative (valueOfDigits (whole ++ part)) (mark.getD 0 - part.length)),
        rest) := by
  -- neither a point nor a mark is a digit, and a mark is no point
  have hmark : (markText mark ++ rest).head?.all (fun c => !isDigit c) = true ∧
      (markText mark ++ rest).head? ≠ some '.' := by
    cases mark with
    | none =>
      refine ⟨not_isDigit_of_endsValue hrest, fun hc => ?_⟩
      rcases head_of_endsValue hrest hc with h | h <;> cases h
    | some e =>
      obtain ⟨ds, -, -, htext⟩ := exists_exponentText e
      have hmark : markText (some e) = 'e' :: (if e < 0 then '-' else '+') :: ds := htext
      rw [hmark]
      exact ⟨rfl, nofun⟩
  have hstop : (pointText part ++ (markText mark ++ rest)).head?.all (fun c => !isDigit c) =
      true := by
    unfold pointText
    split_ifs
    · exact hmark.1
    · rfl
  have hboth : (part.isEmpty && mark.isNone) = false := by
    rw [Bool.and_eq_false_iff, List.isEmpty_eq_false_iff, Option.isNone_eq_false_iff]
    exact hreal.imp id Option.isSome_iff_ne_none.2
  rw [readNumber_append negative h, readUnsigned, wholeDigits_append h hstop]
  dsimp only
  rw [List.isEmpty_eq_false_iff.2 h.1.1, pointDigits_append hpart hmark.1 hmark.2]
  dsimp only
  rw [exponentDigits_append hrest]
  dsimp only
  rw [if_neg Bool.false_ne_true, hboth]
  rfl

/-! ## Layout -/

lemma foldl_digits (ds : List Char) (n : Nat) :
    ds.foldl (fun n c => 10 * n + (digitValue? c).getD 0) n =
      n * 10 ^ ds.length + valueOfDigits ds := by
  induction ds generalizing n with
  | nil => simp [valueOfDigits]
  | cons c ds ih =>
    rw [valueOfDigits, List.foldl_cons, List.foldl_cons, ih, ih, List.length_cons, pow_succ]
    ring

lemma valueOfDigits_append (ds ds' : List Char) :
    valueOfDigits (ds ++ ds') = valueOfDigits ds * 10 ^ ds'.length + valueOfDigits ds' := by
  rw [valueOfDigits, List.foldl_append, foldl_digits]
  rfl

lemma valueOfDigits_replicate (n : Nat) : valueOfDigits (List.replicate n '0') = 0 := by
  induction n with
  | zero => rfl
  | succ n ih => exact ih

/-- Whether a text has the parts of a real number, which denote a value together. -/
def Denotes (text : List Char) (value : ℚ) : Prop :=
  ∃ (whole part : List Char) (mark : Option Int),
    text = whole ++ (pointText part ++ markText mark) ∧ IsWhole whole ∧
      (∀ c ∈ part, c.isDigit = true) ∧ (part ≠ [] ∨ mark ≠ none) ∧
      (valueOfDigits (whole ++ part) : ℚ) * 10 ^ (mark.getD 0 - part.length) = value

/-- Zeros in front of the digits. -/
lemma denotes_zeros_front (n k : Nat) :
    Denotes ('0' :: '.' :: (List.replicate k '0' ++ Nat.toDigits 10 n))
      (n * 10 ^ (-(k + (Nat.toDigits 10 n).length : Int))) := by
  have hdigits := areDigits_toDigits n
  have hne : List.replicate k '0' ++ Nat.toDigits 10 n ≠ [] := by simp [hdigits.1]
  refine ⟨['0'], List.replicate k '0' ++ Nat.toDigits 10 n, none, ?_,
    ⟨⟨by decide, by decide⟩, .inl rfl⟩, fun c hc => ?_, .inl hne, ?_⟩
  · rw [pointText, if_neg hne]
    simp [markText]
  · rcases List.mem_append.1 hc with hc | hc
    · exact isDigit_of_mem_replicate hc
    · exact hdigits.2 c hc
  · have hvalue : valueOfDigits (['0'] ++ (List.replicate k '0' ++ Nat.toDigits 10 n)) = n := by
      have hzeros : ['0'] ++ (List.replicate k '0' ++ Nat.toDigits 10 n) =
          List.replicate (k + 1) '0' ++ Nat.toDigits 10 n := rfl
      rw [hzeros, valueOfDigits_append, valueOfDigits_replicate, zero_mul, zero_add,
        valueOfDigits_toDigits]
    rw [hvalue, Option.getD_none, zero_sub, List.length_append, List.length_replicate]
    push_cast
    rfl

/-- Zeros behind the digits. -/
lemma denotes_zeros_behind {n k : Nat} (hzero : n = 0 → k = 0) :
    Denotes (Nat.toDigits 10 n ++ List.replicate k '0' ++ ['.', '0']) (n * 10 ^ (k : Int)) := by
  have hdigits := areDigits_toDigits n
  refine ⟨Nat.toDigits 10 n ++ List.replicate k '0', ['0'], none, rfl, ⟨?_, ?_⟩, by decide,
    .inl (by decide), ?_⟩
  · exact hdigits.append fun c hc => isDigit_of_mem_replicate hc
  · rcases (isWhole_toDigits n).2 with h | h
    · have hn : n = 0 := by
        have hvalue := valueOfDigits_toDigits n
        rw [h] at hvalue
        exact hvalue.symm
      refine .inl ?_
      rw [h, hzero hn]
      rfl
    · refine .inr ?_
      rwa [List.head?_append_of_ne_nil _ hdigits.1]
  · rw [valueOfDigits_append, valueOfDigits_append, valueOfDigits_toDigits, valueOfDigits_replicate,
      List.length_replicate, zpow_natCast]
    have hlast : valueOfDigits ['0'] = 0 := rfl
    rw [hlast, Option.getD_none]
    push_cast
    norm_num
    ring

/-- A point among the digits. -/
lemma denotes_point {n w : Nat} (hw : 0 < w) (hless : w < (Nat.toDigits 10 n).length) :
    Denotes ((Nat.toDigits 10 n).take w ++ '.' :: (Nat.toDigits 10 n).drop w)
      (n * 10 ^ ((w : Int) - (Nat.toDigits 10 n).length)) := by
  have hdigits := areDigits_toDigits n
  have htake : (Nat.toDigits 10 n).take w ≠ [] := by
    rw [Ne, List.take_eq_nil_iff, not_or]
    exact ⟨hw.ne', hdigits.1⟩
  have hdrop : (Nat.toDigits 10 n).drop w ≠ [] := by
    rw [Ne, List.drop_eq_nil_iff]
    exact not_le.2 hless
  have hhead : (Nat.toDigits 10 n).head? ≠ some '0' := by
    refine head?_toDigits fun hn => ?_
    rw [hn] at hless
    exact absurd hless (not_lt.2 hw)
  refine ⟨(Nat.toDigits 10 n).take w, (Nat.toDigits 10 n).drop w, none, ?_,
    ⟨⟨htake, fun c hc => hdigits.2 c (List.mem_of_mem_take hc)⟩, .inr ?_⟩,
    fun c hc => hdigits.2 c (List.mem_of_mem_drop hc), .inl hdrop, ?_⟩
  · rw [pointText, if_neg hdrop]
    simp [markText]
  · rwa [List.head?_take, if_neg hw.ne']
  · rw [List.take_append_drop, valueOfDigits_toDigits, Option.getD_none, List.length_drop,
      Nat.cast_sub hless.le]
    congr 2
    omega

/-- A point behind the first digit, if there are more, and an exponent. -/
lemma denotes_mark {n : Nat} {c : Char} {cs : List Char} (h : Nat.toDigits 10 n = c :: cs)
    (e : Int) :
    Denotes (c :: (pointText cs ++ (exponentText e).toList)) (n * 10 ^ (e - cs.length)) := by
  have hdigits := areDigits_toDigits n
  rw [h] at hdigits
  refine ⟨[c], cs, some e, rfl, ⟨⟨List.cons_ne_nil _ _, ?_⟩, ?_⟩,
    fun d hd => hdigits.2 d (List.mem_cons_of_mem _ hd), .inr nofun, ?_⟩
  · exact fun d hd => hdigits.2 d (List.mem_singleton.1 hd ▸ List.mem_cons_self)
  · rcases eq_or_ne c '0' with rfl | hc
    · exact .inl rfl
    · exact .inr fun hhead => hc (Option.some.inj hhead)
  · rw [List.singleton_append, ← h, valueOfDigits_toDigits, Option.getD_some]

/-- However a decimal is laid out, its text denotes it. Zero has no exponent. -/
theorem denotes_render {d : Decimal} (hzero : d.digits = 0 → d.exponent = 0) :
    Denotes (DecimalStyle.plain.render d).toList d.value := by
  have hlength : (Nat.toDigits 10 d.digits).length = (toString d.digits).length :=
    (length_toString _).symm
  have hpos := length_toString_pos d.digits
  have hone (h : d.digits = 0) : (toString d.digits).length = 1 := by
    rw [h]
    rfl
  have hlaid {text laid : List Char} {e : Int} (htext : text = laid) (he : e = d.exponent)
      (h : Denotes laid (d.digits * 10 ^ e)) : Denotes text d.value := by
    rw [he] at h
    rw [htext]
    exact h
  unfold DecimalStyle.render DecimalStyle.plain
  dsimp only
  generalize hfirst : d.exponent + ((toString d.digits).length : Int) - 1 = first
  split_ifs with hplace hneg hlong hpoint
  · refine hlaid ?_ ?_ (denotes_zeros_front d.digits (-first - 1).toNat)
    · simp only [String.toList_append, toList_toString, String.toList_ofList, List.append_assoc]
      rfl
    · rw [hlength]
      omega
  · refine hlaid ?_ ?_ (denotes_zeros_behind (n := d.digits)
      (k := (first + 1).toNat - (toString d.digits).length) fun hn => ?_)
    · rw [String.toList_append, String.toList_append, toList_toString, String.toList_ofList]
      rfl
    · omega
    · rw [hone hn] at hfirst ⊢
      rw [hzero hn] at hfirst
      omega
  · exact absurd rfl hpoint
  · refine hlaid ?_ ?_ (denotes_point (n := d.digits) (w := (first + 1).toNat) (by omega) ?_)
    · simp only [String.toList_append, toList_toString, String.toList_ofList, List.append_assoc]
      rfl
    · rw [hlength]
      omega
    · rw [hlength]
      omega
  · rw [toList_toString]
    obtain ⟨c, cs, hcs⟩ := List.exists_cons_of_ne_nil (areDigits_toDigits d.digits).1
    have hcount : cs.length + 1 = (toString d.digits).length := by
      rw [← hlength, hcs, List.length_cons]
    rw [hcs]
    refine hlaid ?_ ?_ (denotes_mark hcs first)
    · cases cs with
      | nil =>
        rw [String.toList_append, String.toList_ofList]
        rfl
      | cons c' cs =>
        simp only [String.toList_append, String.toList_ofList, List.append_assoc]
        rfl
    · omega

/-- A text that denotes a value is read as a decimal of this value. -/
lemma readNumber_of_denotes (negative : Bool) {text : List Char} {value : ℚ}
    (h : Denotes text value) (hrest : endsValue rest = true) :
    ∃ (digits : Nat) (exponent : Int), (digits : ℚ) * 10 ^ exponent = value ∧
      readNumber ((signText negative).toList ++ text ++ rest) =
        .ok (.real (.ofDecimal negative digits exponent), rest) := by
  obtain ⟨whole, part, mark, rfl, hwhole, hpart, hreal, hvalue⟩ := h
  refine ⟨_, _, hvalue, ?_⟩
  rw [← readNumber_real negative hwhole hpart hreal hrest]
  simp only [List.append_assoc]

/-- What is written for a number denotes its shortest decimal. -/
lemma denotes_shortest {m : Nat} {e : Int} (h : Binary64.IsPair m e) :
    Denotes (DecimalStyle.plain.render (shortest m e)).toList (shortest m e).value := by
  refine denotes_render fun hzero => ?_
  rcases Nat.eq_zero_or_pos m with rfl | hm
  · rw [shortest_zero]
  · exact absurd hzero (digits_shortest_pos h hm).ne'

/-- A finite number is read back. -/
theorem readNumber_writeReal {negative : Bool} {m : Nat} {e : Int} (h : Binary64.IsPair m e)
    (hrest : endsValue rest = true) :
    readNumber (writeReal (.finite negative m e) ++ rest) =
      .ok (.real (.finite negative m e), rest) := by
  have hwrite : writeReal (.finite negative m e) =
      (signText negative ++ DecimalStyle.plain.render (shortest m e)).toList := rfl
  obtain ⟨digits, exponent, hvalue, hread⟩ :=
    readNumber_of_denotes negative (denotes_shortest h) hrest
  rw [hwrite, String.toList_append, hread]
  rcases Nat.eq_zero_or_pos m with rfl | hm
  · -- zero is read with the least exponent
    have he : e = Binary64.leastExponent := h.normal.resolve_left (by decide)
    have hdigits : digits = 0 := by
      rw [shortest_zero, Decimal.value, Nat.cast_zero, zero_mul, mul_eq_zero] at hvalue
      exact_mod_cast hvalue.resolve_right (zpow_ne_zero _ (by norm_num))
    rw [hdigits, he]
    rfl
  · have hholds := holds_shortest h hm
    rw [← hvalue] at hholds
    rw [ofDecimal_of_holds negative h hm hholds]

end SheetCompiler.Json
