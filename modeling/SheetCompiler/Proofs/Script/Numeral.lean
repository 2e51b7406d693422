import SheetCompiler.Number.Decimal
import SheetCompiler.Proofs.Number.Conversion
import SheetCompiler.Proofs.Script.Line

/-!
# Numbers in scripts

A number without its sign is one token: an integer is its digits, a real number has a point with
digits behind it, an exponent, or both. The texts that numbers are written as have these forms.

Main statements:

* `plainNumber?_integer` and `plainNumber?_real`: how numbers are read;
* `isReal_render`: how real numbers are written;
* `HasTokens.integer` and `HasTokens.real`: numbers are tokens.
-/

namespace SheetCompiler.Script

open SheetCompiler.Text SheetCompiler.Number

/-! ## Digits -/

/-- Digits, at least one. -/
def AreDigits (cs : List Char) : Prop := cs ≠ [] ∧ ∀ c ∈ cs, c.isDigit = true

lemma digitValue?_of_isDigit {c : Char} (h : c.isDigit = true) :
    digitValue? c = some (c.toNat - 48) := by
  rw [Char.isDigit, Bool.and_eq_true, decide_eq_true_eq, decide_eq_true_eq] at h
  have hge : 48 ≤ c.toNat := h.1
  have hle : c.toNat ≤ 57 := h.2
  rw [digitValue?, if_pos (by omega), if_pos ⟨hge, hle⟩]

lemma isDecimal_of_isDigit {c : Char} (h : c.isDigit = true) : isDecimal c = true := by
  rw [isDecimal, digitValue?_of_isDigit h]
  rfl

lemma continuesIdentifier_of_isDigit {c : Char} (h : c.isDigit = true) :
    continuesIdentifier c = true := by
  have hascii : isAscii c = true := by
    rw [Char.isDigit, Bool.and_eq_true, decide_eq_true_eq, decide_eq_true_eq] at h
    have hle : c.toNat ≤ 57 := h.2
    rw [isAscii, decide_eq_true_eq]
    omega
  rw [continuesIdentifier, if_pos hascii, Char.isAlphanum, h, Bool.or_true, Bool.true_or]

lemma areDigits_toDigits (n : Nat) : AreDigits (Nat.toDigits 10 n) :=
  ⟨Nat.toDigits_ne_nil, fun _ hc => Nat.isDigit_of_mem_toDigits (by decide) (by decide) hc⟩

/-- The digits of a number denote it. -/
lemma valueOfDigits_toDigits (n : Nat) : valueOfDigits (Nat.toDigits 10 n) = n := by
  have hfold := Nat.ofDigitChars_ten_toDigits (n := n)
  rw [Nat.ofDigitChars_eq_foldl] at hfold
  rw [valueOfDigits]
  refine (List.foldl_ext _ _ _ ?_).trans hfold
  intro value c hc
  rw [digitValue?_of_isDigit ((areDigits_toDigits n).2 c hc), Option.getD_some]
  rfl

/-- Only zero is written with a zero in front. -/
lemma head?_toDigits {n : Nat} (h : n ≠ 0) : (Nat.toDigits 10 n).head? ≠ some '0' := by
  induction n using Nat.strongRecOn with
  | ind n ih =>
    rw [Nat.toDigits_eq_if (by decide)]
    split_ifs with hn
    · rw [List.head?_cons, Ne, Option.some.injEq, Nat.digitChar_eq_zero]
      exact h
    · rw [List.head?_append_of_ne_nil _ Nat.toDigits_ne_nil]
      exact ih (n / 10) (by omega) (by omega)

lemma isInteger_toDigits (n : Nat) : isInteger (Nat.toDigits 10 n) = true := by
  by_cases h : n = 0
  · rw [h]
    rfl
  · rw [isInteger, decide_eq_true (head?_toDigits h), Bool.true_or]

/-! ## Numbers -/

/-- Whether a number ends in front of a text. -/
def endsNumber (rest : List Char) : Bool :=
  rest.head?.all fun c => !continuesIdentifier c && c != '.'

/-- What may stand between the digits of a number and its exponent: a point with digits behind it. -/
def IsPart (part : List Char) : Prop := part = [] ∨ ∃ ds, AreDigits ds ∧ part = '.' :: ds

/-- What may stand at the end of a number: an exponent with its sign. -/
def IsExponent (exponent : List Char) : Prop :=
  exponent = [] ∨ ∃ sign ds, (sign = '+' ∨ sign = '-') ∧ AreDigits ds ∧ exponent = 'e' :: sign :: ds

variable {whole part exponent rest : List Char}

lemma takeWhile_append_of_stop {p : Char → Bool} {front back : List Char}
    (h : ∀ c ∈ front, p c = true) (hstop : back.head?.all (fun c => !p c) = true) :
    (front ++ back).takeWhile p = front := by
  have hnil : back.takeWhile p = [] := by
    cases back with
    | nil => rfl
    | cons c back =>
      rw [List.head?_cons, Option.all_some, Bool.not_eq_true'] at hstop
      exact List.takeWhile_cons_of_neg (by rw [hstop]; exact Bool.false_ne_true)
  rw [List.takeWhile_append_of_pos h, hnil, List.append_nil]

lemma dropWhile_append_of_stop {p : Char → Bool} {front back : List Char}
    (h : ∀ c ∈ front, p c = true) (hstop : back.head?.all (fun c => !p c) = true) :
    (front ++ back).dropWhile p = back := by
  have hboth := List.takeWhile_append_dropWhile (p := p) (l := front ++ back)
  rw [takeWhile_append_of_stop h hstop] at hboth
  exact List.append_cancel_left hboth

lemma not_isDigit_of_endsNumber (h : endsNumber rest = true) :
    rest.head?.all (fun c => !c.isDigit) = true := by
  cases rest with
  | nil => rfl
  | cons c rest =>
    rw [endsNumber, List.head?_cons, Option.all_some, Bool.and_eq_true, Bool.not_eq_true'] at h
    rw [List.head?_cons, Option.all_some, Bool.not_eq_true']
    by_contra hdigit
    rw [Bool.not_eq_false] at hdigit
    rw [continuesIdentifier_of_isDigit hdigit] at h
    cases h.1

/-- The exponent of a number is found in front of what ends the number. -/
lemma splitExponent_append (he : IsExponent exponent) (hrest : endsNumber rest = true) :
    splitExponent (exponent ++ rest) = (exponent, rest) := by
  rcases he with rfl | ⟨sign, ds, hsign, hds, rfl⟩
  · cases rest with
    | nil => rfl
    | cons c rest =>
      rw [endsNumber, List.head?_cons, Option.all_some, Bool.and_eq_true, Bool.not_eq_true'] at hrest
      have hne : ¬(c = 'e' ∨ c = 'E') := by
        rintro (rfl | rfl)
        · exact absurd hrest.1 (by decide)
        · exact absurd hrest.1 (by decide)
      rw [List.nil_append, splitExponent, if_neg hne]
  · obtain ⟨d, ds', rfl⟩ := List.exists_cons_of_ne_nil hds.1
    have hd : (decide (d = '+') || decide (d = '-')) = false := by
      have hdigit := hds.2 d List.mem_cons_self
      rw [Bool.or_eq_false_iff, decide_eq_false_iff_not, decide_eq_false_iff_not]
      constructor
      · rintro rfl
        exact absurd hdigit (by decide)
      · rintro rfl
        exact absurd hdigit (by decide)
    have hs : (decide (sign = '+') || decide (sign = '-')) = true := by
      rcases hsign with rfl | rfl <;> rfl
    have htake : (sign :: (d :: ds' ++ rest)).takeWhile
        (fun c => decide (c = '+') || decide (c = '-')) = [sign] := by
      rw [List.takeWhile_cons_of_pos (by exact hs), List.cons_append,
        List.takeWhile_cons_of_neg (by rw [hd]; exact Bool.false_ne_true)]
    have hdigits : (d :: ds' ++ rest).takeWhile Char.isDigit = d :: ds' :=
      takeWhile_append_of_stop hds.2 (not_isDigit_of_endsNumber hrest)
    have hcons : 'e' :: sign :: d :: ds' ++ rest = 'e' :: sign :: (d :: ds' ++ rest) := rfl
    rw [hcons, splitExponent, if_pos (.inl rfl), htake]
    have hdrop : (sign :: (d :: ds' ++ rest)).drop [sign].length = d :: ds' ++ rest := rfl
    dsimp only
    rw [hdrop, hdigits, List.drop_left]
    rfl

/-- Digits that nothing goes on behind are an integer. -/
lemma plainNumber?_integer {i : Int} (hw : AreDigits whole) (hrest : endsNumber rest = true)
    (hi : readInteger (String.ofList whole) = .ok i) (hz : isInteger whole = true) :
    plainNumber? (whole ++ rest) = some (.integer i, rest) := by
  have hwhole : (whole ++ rest).takeWhile Char.isDigit = whole :=
    takeWhile_append_of_stop hw.2 (not_isDigit_of_endsNumber hrest)
  have hexponent : splitExponent rest = ([], rest) := splitExponent_append (.inl rfl) hrest
  unfold plainNumber?
  dsimp only
  rw [hwhole, List.drop_left]
  split
  · simp [endsNumber] at hrest
  · rw [List.length_nil, List.drop_zero, hexponent]
    simp [hi, hz]

/-- Digits with a point and digits behind it, an exponent or both are a real number. -/
lemma plainNumber?_real {x : Binary64} (hw : AreDigits whole) (hp : IsPart part)
    (he : IsExponent exponent) (hne : part ≠ [] ∨ exponent ≠ []) (hrest : endsNumber rest = true)
    (hx : readReal (String.ofList (whole ++ part ++ exponent)) = .ok x) :
    plainNumber? (whole ++ (part ++ (exponent ++ rest))) = some (.real x, rest) := by
  have hempty : (part.isEmpty && exponent.isEmpty) = false := by
    rw [Bool.and_eq_false_iff, List.isEmpty_eq_false_iff, List.isEmpty_eq_false_iff]
    exact hne
  -- neither a point nor an exponent begins with a digit
  have hstop : (exponent ++ rest).head?.all (fun c => !c.isDigit) = true := by
    rcases he with rfl | ⟨sign, ds, -, -, rfl⟩
    · exact not_isDigit_of_endsNumber hrest
    · rfl
  have hstop' : (part ++ (exponent ++ rest)).head?.all (fun c => !c.isDigit) = true := by
    rcases hp with rfl | ⟨ds, -, rfl⟩
    · exact hstop
    · rfl
  have hwhole : (whole ++ (part ++ (exponent ++ rest))).takeWhile Char.isDigit = whole :=
    takeWhile_append_of_stop hw.2 hstop'
  have hexponent := splitExponent_append he hrest
  unfold plainNumber?
  dsimp only
  rw [hwhole, List.drop_left]
  split
  · rename_i tail heq
    rcases hp with rfl | ⟨ds, hds, rfl⟩
    · obtain ⟨sign, ds, -, -, rfl⟩ := he.resolve_left (hne.resolve_left (fun h => h rfl))
      exact absurd (List.cons.inj heq).1 (by decide)
    · rw [List.cons_append, List.cons.injEq] at heq
      have htail : tail.takeWhile Char.isDigit = ds := by
        rw [← heq.2]
        exact takeWhile_append_of_stop hds.2 hstop
      rw [htail, List.drop_left, hexponent, hempty, hx]
      rfl
  · rename_i hnot
    rcases hp with rfl | ⟨ds, -, rfl⟩
    · rw [List.nil_append, List.length_nil, List.drop_zero, hexponent, hempty, hx]
      rfl
    · exact absurd rfl (hnot _)

/-- The parts of a real number without its sign. -/
def IsReal (cs : List Char) : Prop :=
  ∃ whole part exponent, cs = whole ++ part ++ exponent ∧ AreDigits whole ∧ IsPart part ∧
    IsExponent exponent ∧ (part ≠ [] ∨ exponent ≠ [])

/-! ## Texts of real numbers -/

lemma toList_toString (n : Nat) : (toString n).toList = Nat.toDigits 10 n := by
  rw [Nat.toString_eq_ofList_toDigits, String.toList_ofList]

/-- An integer is written as its sign and the digits of its magnitude. -/
lemma toList_toString_int (i : Int) :
    (toString i).toList = (signText (decide (i < 0))).toList ++ Nat.toDigits 10 i.natAbs := by
  cases i with
  | ofNat n => exact toList_toString n
  | negSucc n =>
    have hsign : signText (decide (Int.negSucc n < 0)) = "-" := if_pos (by simp)
    have hneg : toString (Int.negSucc n) = "-" ++ toString (n + 1) := rfl
    rw [hsign, hneg, String.toList_append, toList_toString]
    rfl

lemma natAbs_signed (negative : Bool) (n : Nat) : (signed negative n).natAbs = n := by
  unfold signed
  split_ifs
  · rw [Int.natAbs_neg, Int.natAbs_natCast]
  · rw [Int.natAbs_natCast]

lemma signed_natAbs (i : Int) : signed (decide (i < 0)) i.natAbs = i := by
  unfold signed
  split_ifs with hneg
  · rw [decide_eq_true_iff] at hneg
    omega
  · rw [decide_eq_true_iff] at hneg
    omega

lemma AreDigits.append {ds ds' : List Char} (h : AreDigits ds) (h' : ∀ c ∈ ds', c.isDigit = true) :
    AreDigits (ds ++ ds') := by
  refine ⟨by simp [h.1], fun c hc => ?_⟩
  rcases List.mem_append.1 hc with hc | hc
  · exact h.2 c hc
  · exact h' c hc

lemma isDigit_of_mem_replicate {n : Nat} {c : Char} (h : c ∈ List.replicate n '0') :
    c.isDigit = true := by
  rw [List.eq_of_mem_replicate h]
  rfl

lemma isExponent_exponentText (e : Int) : IsExponent (exponentText e).toList := by
  have hdigits := areDigits_toDigits e.natAbs
  have hds : AreDigits
      (if (toString e.natAbs).length < 2 then "0" ++ toString e.natAbs
        else toString e.natAbs).toList := by
    split_ifs
    · rw [String.toList_append, toList_toString]
      exact AreDigits.append ⟨by decide, by decide⟩ hdigits.2
    · rwa [toList_toString]
  refine .inr ⟨if e < 0 then '-' else '+', _, ?_, hds, ?_⟩
  · split_ifs <;> simp
  · rw [exponentText, String.toList_append, String.toList_append]
    split_ifs <;> rfl

/-- A decimal is laid out as a real number if whole ones keep their point. -/
lemma isReal_render {style : DecimalStyle} (hstyle : style.pointZero = true) (d : Decimal) :
    IsReal (style.render d).toList := by
  have hdigits := areDigits_toDigits d.digits
  have hzero : AreDigits ['0'] := ⟨by decide, by decide⟩
  have hlength : (toString d.digits).length = (Nat.toDigits 10 d.digits).length := by
    rw [← String.length_toList, toList_toString]
  unfold DecimalStyle.render
  dsimp only
  rw [hlength, hstyle, if_pos rfl]
  generalize d.exponent + ((Nat.toDigits 10 d.digits).length : Int) - 1 = first
  split_ifs with hplace hneg hwhole
  · -- zeros stand in front of the digits
    refine ⟨['0'], '.' :: (List.replicate (-first - 1).toNat '0' ++ Nat.toDigits 10 d.digits), [],
      ?_, hzero, .inr ⟨_, ⟨by simp [hdigits.1], fun c hc => ?_⟩, rfl⟩, .inl rfl, .inl (by simp)⟩
    · rw [String.toList_append, String.toList_append, toList_toString, String.toList_ofList]
      simp
    · rcases List.mem_append.1 hc with hc | hc
      · exact isDigit_of_mem_replicate hc
      · exact hdigits.2 c hc
  · -- zeros stand behind the digits
    refine ⟨Nat.toDigits 10 d.digits ++
        List.replicate ((first + 1).toNat - (Nat.toDigits 10 d.digits).length) '0',
      ".0".toList, [], ?_, hdigits.append fun c hc => isDigit_of_mem_replicate hc,
      .inr ⟨['0'], hzero, rfl⟩, .inl rfl, .inl (by decide)⟩
    rw [String.toList_append, String.toList_append, toList_toString, String.toList_ofList,
      List.append_nil]
  · -- the point stands among the digits
    have htake : (Nat.toDigits 10 d.digits).take (first + 1).toNat ≠ [] := by
      rw [Ne, List.take_eq_nil_iff, not_or]
      exact ⟨by omega, hdigits.1⟩
    have hdrop : (Nat.toDigits 10 d.digits).drop (first + 1).toNat ≠ [] := by
      rw [Ne, List.drop_eq_nil_iff]
      exact hwhole
    refine ⟨(Nat.toDigits 10 d.digits).take (first + 1).toNat,
      '.' :: (Nat.toDigits 10 d.digits).drop (first + 1).toNat, [], ?_,
      ⟨htake, fun c hc => hdigits.2 c (List.mem_of_mem_take hc)⟩,
      .inr ⟨_, ⟨hdrop, fun c hc => hdigits.2 c (List.mem_of_mem_drop hc)⟩, rfl⟩, .inl rfl,
      .inl (by simp)⟩
    have hpoint : ".".toList = ['.'] := rfl
    simp [hpoint]
  · -- the digits are followed by an exponent
    have hexponent := isExponent_exponentText first
    have hne : (exponentText first).toList ≠ [] := by
      rw [exponentText, String.toList_append, String.toList_append]
      exact List.cons_ne_nil _ _
    obtain ⟨c, cs, hcs⟩ := List.exists_cons_of_ne_nil hdigits.1
    have hc : AreDigits [c] := ⟨by simp, fun e he => hdigits.2 e (by
      rw [hcs]
      exact List.mem_cons.2 (.inl (List.mem_singleton.1 he)))⟩
    rw [toList_toString, hcs]
    cases cs with
    | nil =>
      refine ⟨[c], [], _, ?_, hc, .inl rfl, hexponent, .inr hne⟩
      rw [String.toList_append, String.toList_ofList, List.append_nil]
    | cons c' cs =>
      refine ⟨[c], '.' :: c' :: cs, _, ?_, hc, .inr ⟨c' :: cs, ⟨by simp, fun e he => ?_⟩, rfl⟩,
        hexponent, .inr hne⟩
      · simp only [String.toList_append, String.toList_ofList, List.append_assoc]
        rfl
      · exact hdigits.2 e (by rw [hcs]; exact List.mem_cons_of_mem _ he)

/-- A decimal is laid out as a real number in the plain style. -/
lemma isReal_plain (d : Decimal) : IsReal (DecimalStyle.plain.render d).toList := isReal_render rfl d

lemma matchesReal_of_isReal {cs : List Char} (h : IsReal cs) : matchesReal cs = true := by
  obtain ⟨whole, part, exponent, rfl, hw, hp, he, hne⟩ := h
  have hdecimal {ds : List Char} (hds : AreDigits ds) : ∀ c ∈ ds, isDecimal c = true :=
    fun c hc => isDecimal_of_isDigit (hds.2 c hc)
  have hexponent : matchesExponent exponent = true := by
    rcases he with rfl | ⟨sign, ds, hsign, hds, rfl⟩
    · rfl
    · have hinteger : matchesInteger (sign :: ds) = true := by
        have hsplit : (splitSign (sign :: ds)).2 = ds := by
          rcases hsign with rfl | rfl <;> rfl
        rw [matchesInteger_iff, hsplit]
        exact ⟨hds.1, hdecimal hds⟩
      rw [matchesExponent, hinteger]
      rfl
  have hstop : exponent.head?.all (fun c => !isDecimal c) = true := by
    rcases he with rfl | ⟨sign, ds, -, -, rfl⟩
    · rfl
    · rfl
  have hstop' : (part ++ exponent).head?.all (fun c => !isDecimal c) = true := by
    rcases hp with rfl | ⟨ds, -, rfl⟩
    · exact hstop
    · rfl
  -- there is no sign in front of the digits
  have hsign : splitSign (whole ++ part ++ exponent) = (false, whole ++ part ++ exponent) := by
    obtain ⟨c, cs, rfl⟩ := List.exists_cons_of_ne_nil hw.1
    have hdigit := hw.2 c List.mem_cons_self
    rw [List.cons_append, List.cons_append, splitSign]
    · rintro ds heq
      rw [(List.cons.inj heq).1] at hdigit
      exact absurd hdigit (by decide)
    · rintro ds heq
      rw [(List.cons.inj heq).1] at hdigit
      exact absurd hdigit (by decide)
  have htake : (whole ++ part ++ exponent).takeWhile isDecimal = whole := by
    rw [List.append_assoc]
    exact takeWhile_append_of_stop (hdecimal hw) hstop'
  have hdrop : (whole ++ part ++ exponent).dropWhile isDecimal = part ++ exponent := by
    rw [List.append_assoc]
    exact dropWhile_append_of_stop (hdecimal hw) hstop'
  have hwhole : whole.isEmpty = false := by
    rw [List.isEmpty_eq_false_iff]
    exact hw.1
  rw [matchesReal, hsign]
  dsimp only
  rw [htake, hdrop, hwhole]
  rcases hp with rfl | ⟨ds, hds, rfl⟩
  · obtain ⟨sign, ds, -, -, rfl⟩ := he.resolve_left (hne.resolve_left fun h => h rfl)
    exact hexponent
  · have htail : (ds ++ exponent).dropWhile isDecimal = exponent :=
      dropWhile_append_of_stop (hdecimal hds) hstop
    have hreal : ((!false || !((ds ++ exponent).takeWhile isDecimal).isEmpty) &&
        matchesExponent ((ds ++ exponent).dropWhile isDecimal)) = true := by
      rw [htail, hexponent]
      rfl
    exact hreal

/-! ## Tokens -/

variable {opened : Nat} {ts : List Token}

lemma ne_of_isDigit {c d : Char} (h : c.isDigit = true) (hd : d.isDigit = false) : c ≠ d := by
  rintro rfl
  rw [h] at hd
  cases hd

lemma HasTokens.number {c : Char} {cs : List Char} {v : Json} (hc : c.isDigit = true)
    (hnumber : plainNumber? (c :: cs) = some (v, rest)) (hrest : endsNumber rest = true)
    (hlength : rest.length ≤ cs.length) (h : HasTokens opened rest ts) :
    HasTokens opened (c :: cs) (.constant v :: ts) := by
  have hends : rest.head?.any continuesIdentifier = false := by
    cases rest with
    | nil => rfl
    | cons d rest =>
      rw [endsNumber, List.head?_cons, Option.all_some, Bool.and_eq_true, Bool.not_eq_true'] at hrest
      exact hrest.1
  have hquotes : ¬(c = '"' ∨ c = '\x27') := by
    rintro (rfl | rfl)
    · exact absurd hc (by decide)
    · exact absurd hc (by decide)
  have hbreaks : breaksTokens c = false := by
    have h₁ := ne_of_isDigit hc (d := ' ') rfl
    have h₂ := ne_of_isDigit hc (d := '\t') rfl
    have h₃ := ne_of_isDigit hc (d := '\x0c') rfl
    have h₄ := ne_of_isDigit hc (d := '\n') rfl
    have h₅ := ne_of_isDigit hc (d := '\\') rfl
    have h₆ := ne_of_isDigit hc (d := '#') rfl
    simp [breaksTokens, isSpace, h₁, h₂, h₃, h₄, h₅, h₆]
  have htoken : token? (c :: cs) = some (.constant v, rest) := by
    rw [token?, if_neg hquotes, hc, Bool.true_or, if_pos rfl, number?, hnumber]
    dsimp only
    rw [hends]
    rfl
  exact .cons hbreaks htoken hlength h

/-- The digits of an integer are one token. -/
theorem HasTokens.integer {n : Nat} (hn : (Nat.toDigits 10 n).length ≤ digitLimit)
    (hrest : endsNumber rest = true) (h : HasTokens opened rest ts) :
    HasTokens opened (Nat.toDigits 10 n ++ rest) (.constant (.integer n) :: ts) := by
  have hdigits := areDigits_toDigits n
  have hsign : splitSign (Nat.toDigits 10 n) = (false, Nat.toDigits 10 n) := by
    obtain ⟨c, cs, hcs⟩ := List.exists_cons_of_ne_nil hdigits.1
    have hc : c.isDigit = true := hdigits.2 c (by rw [hcs]; exact List.mem_cons_self)
    rw [hcs, splitSign]
    · rintro ds heq
      exact ne_of_isDigit hc rfl (List.cons.inj heq).1
    · rintro ds heq
      exact ne_of_isDigit hc rfl (List.cons.inj heq).1
  have hmatches : matchesInteger (String.ofList (Nat.toDigits 10 n)).toList = true := by
    rw [String.toList_ofList, matchesInteger_iff, hsign]
    exact ⟨hdigits.1, fun c hc => isDecimal_of_isDigit (hdigits.2 c hc)⟩
  have hread : readInteger (String.ofList (Nat.toDigits 10 n)) = .ok (n : Int) := by
    rw [readInteger_of_matches hmatches, String.toList_ofList, hsign]
    dsimp only
    rw [if_neg (by omega), valueOfDigits_toDigits]
    rfl
  have hnumber := plainNumber?_integer hdigits hrest hread (isInteger_toDigits n)
  obtain ⟨c, cs, hcs⟩ := List.exists_cons_of_ne_nil hdigits.1
  have hc : c.isDigit = true := hdigits.2 c (by rw [hcs]; exact List.mem_cons_self)
  rw [hcs, List.cons_append] at hnumber ⊢
  exact .number hc hnumber hrest (by rw [List.length_append]; omega) h

/-- A real number without its sign is one token. -/
theorem HasTokens.real {cs : List Char} {x : Binary64} (hcs : IsReal cs)
    (hx : readReal (String.ofList cs) = .ok x) (hrest : endsNumber rest = true)
    (h : HasTokens opened rest ts) : HasTokens opened (cs ++ rest) (.constant (.real x) :: ts) := by
  obtain ⟨whole, part, exponent, rfl, hw, hp, he, hne⟩ := hcs
  have hnumber := plainNumber?_real hw hp he hne hrest hx
  have happend : whole ++ part ++ exponent ++ rest = whole ++ (part ++ (exponent ++ rest)) := by
    rw [List.append_assoc, List.append_assoc]
  obtain ⟨c, cs, rfl⟩ := List.exists_cons_of_ne_nil hw.1
  rw [happend]
  refine .number (hw.2 c List.mem_cons_self) hnumber hrest ?_ h
  rw [List.append_eq, List.length_append, List.length_append, List.length_append]
  omega

end SheetCompiler.Script
