import SheetCompiler.Proofs.Stateful
import SheetCompiler.Schema.Primitive
import Mathlib.Data.List.TakeWhile

/-!
# Valid texts have values

The strict grammars of table cells lie within what is converted: a text that a cell may hold has a
value, save that an integer numeral with too many digits is refused for their number.

Main statements:

* `readInteger_of_matches` and `readReal_of_matches`: how the numerals of cells are read;
* `isValid_eq_error_iff`: the one way in which checking a text fails;
* `convert_of_isValid`: valid texts have values.
-/

namespace SheetCompiler.Number

open SheetCompiler.Text

/-! ## Characters of numerals -/

/-- Whether a character may stand in the numeral of a cell. -/
def isNumeralChar (c : Char) : Bool := isDecimal c || ['+', '-', '.', 'e', 'E'].contains c

lemma isDecimal_of_lt {c : Char} (h : c.toNat < 128) (hd : isDecimal c = true) :
    48 ≤ c.toNat ∧ c.toNat ≤ 57 := by
  unfold isDecimal digitValue? at hd
  rw [if_pos h] at hd
  split at hd
  · assumption
  · cases hd

/-- No decimal digit separates words. -/
lemma isBlank_of_isDecimal {c : Char} (h : isDecimal c = true) : isBlank c = false := by
  have hapart : ∀ z ∈ decimalZeros, ∀ r ∈ blankRanges, r.2 < z ∨ z + 9 < r.1 := by decide
  have hascii : ∀ r ∈ blankRanges, r.2 < 48 ∨ 57 < r.1 := by decide
  rw [Bool.eq_false_iff]
  intro hb
  obtain ⟨r, hr, hfirst, hlast⟩ := Ranges.contains_iff.1 hb
  by_cases hc : c.toNat < 128
  · have := isDecimal_of_lt hc h
    have := hascii r hr
    omega
  · unfold isDecimal digitValue? at h
    rw [if_neg hc, Option.isSome_map, List.find?_isSome] at h
    obtain ⟨z, hz, hzc⟩ := h
    have := hapart z hz r hr
    simp only [Bool.and_eq_true, decide_eq_true_eq] at hzc
    omega

lemma isNumeralChar_of_isDecimal {c : Char} (h : isDecimal c = true) : isNumeralChar c = true := by
  rw [isNumeralChar, h, Bool.true_or]

/-- Numerals have neither padding nor underscores. -/
lemma isPadding_of_isNumeralChar {c : Char} (h : isNumeralChar c = true) :
    isPadding c = false ∧ c ≠ '_' := by
  rw [isNumeralChar, Bool.or_eq_true] at h
  rcases h with h | h
  · refine ⟨by rw [isPadding, isBlank_of_isDecimal h, Bool.false_and], ?_⟩
    rintro rfl
    have := isDecimal_of_lt (by decide) h
    revert this
    decide
  · rw [List.contains_iff_mem] at h
    simp only [List.mem_cons, List.not_mem_nil, or_false] at h
    rcases h with rfl | rfl | rfl | rfl | rfl <;> decide

lemma splitSign_cases (cs : List Char) :
    (cs = (splitSign cs).2 ∧ (splitSign cs).1 = false) ∨
      cs = '+' :: (splitSign cs).2 ∨ cs = '-' :: (splitSign cs).2 := by
  unfold splitSign
  split <;> simp

/-- What stands behind the sign decides whether a text is made of the characters of numerals. -/
lemma all_of_splitSign {cs : List Char} (h : ∀ c ∈ (splitSign cs).2, isNumeralChar c = true) :
    ∀ c ∈ cs, isNumeralChar c = true := by
  intro c hc
  rcases splitSign_cases cs with ⟨heq, -⟩ | heq | heq
  · rw [heq] at hc
    exact h c hc
  · rw [heq, List.mem_cons] at hc
    rcases hc with rfl | hc
    · decide
    · exact h c hc
  · rw [heq, List.mem_cons] at hc
    rcases hc with rfl | hc
    · decide
    · exact h c hc

lemma matchesInteger_iff {cs : List Char} :
    matchesInteger cs = true ↔
      (splitSign cs).2 ≠ [] ∧ ∀ c ∈ (splitSign cs).2, isDecimal c = true := by
  simp [matchesInteger]

lemma all_of_matchesInteger {cs : List Char} (h : matchesInteger cs = true) :
    ∀ c ∈ cs, isNumeralChar c = true :=
  all_of_splitSign fun c hc => isNumeralChar_of_isDecimal ((matchesInteger_iff.1 h).2 c hc)

lemma all_of_matchesExponent {cs : List Char} (h : matchesExponent cs = true) :
    ∀ c ∈ cs, isNumeralChar c = true := by
  cases cs with
  | nil => simp
  | cons c cs =>
    simp only [matchesExponent, Bool.and_eq_true, Bool.or_eq_true, decide_eq_true_eq] at h
    intro d hd
    rcases List.mem_cons.1 hd with rfl | hd
    · rcases h.1 with rfl | rfl <;> decide
    · exact all_of_matchesInteger h.2 d hd

/-- The digits at the beginning of a text and what follows them are characters of numerals if the
latter are. -/
lemma all_of_dropWhile {cs : List Char}
    (h : ∀ c ∈ cs.dropWhile isDecimal, isNumeralChar c = true) :
    ∀ c ∈ cs, isNumeralChar c = true := by
  intro c hc
  rw [← List.takeWhile_append_dropWhile (p := isDecimal) (l := cs), List.mem_append] at hc
  rcases hc with hc | hc
  · exact isNumeralChar_of_isDecimal (List.mem_takeWhile_imp hc)
  · exact h c hc

lemma all_of_matchesReal {cs : List Char} (h : matchesReal cs = true) :
    ∀ c ∈ cs, isNumeralChar c = true := by
  refine all_of_splitSign (all_of_dropWhile ?_)
  unfold matchesReal at h
  dsimp only at h
  split at h
  · rename_i rest hrest
    rw [hrest]
    rw [Bool.and_eq_true] at h
    intro c hc
    rcases List.mem_cons.1 hc with rfl | hc
    · decide
    · exact all_of_dropWhile (all_of_matchesExponent h.2) c hc
  · rw [Bool.and_eq_true] at h
    exact all_of_matchesExponent h.2

/-! ## Integers -/

lemma underscoresSeparate_of_not_mem {cs : List Char} (h : '_' ∉ cs) :
    underscoresSeparate cs = true := by
  fun_induction underscoresSeparate cs <;> simp_all

/-- An integer numeral of a cell is read for what it is, unless it has too many digits. -/
theorem readInteger_of_matches {text : String} (h : matchesInteger text.toList = true) :
    readInteger text =
      let (negative, digits) := splitSign text.toList
      if digitLimit < digits.length then .error (.tooManyDigits digits.length)
      else .ok (signed negative (valueOfDigits digits)) := by
  obtain ⟨hne, hdigits⟩ := matchesInteger_iff.1 h
  have hpadding : text.toList.dropWhile isPadding = text.toList := by
    rw [List.dropWhile_eq_self_iff]
    intro hl
    rw [(isPadding_of_isNumeralChar (all_of_matchesInteger h _ (List.getElem_mem hl))).1]
    exact Bool.false_ne_true
  have hnumeral : ∀ c ∈ (splitSign text.toList).2, (isDecimal c || decide (c = '_')) = true := by
    intro c hc
    rw [hdigits c hc, Bool.true_or]
  have hunderscore : '_' ∉ (splitSign text.toList).2 := by
    intro hc
    exact (isPadding_of_isNumeralChar (isNumeralChar_of_isDecimal (hdigits _ hc))).2 rfl
  unfold readInteger
  rw [hpadding]
  dsimp only
  rw [List.takeWhile_eq_self_iff.2 hnumeral, List.dropWhile_eq_nil_iff.2 hnumeral,
    List.filter_eq_self.2 hdigits, underscoresSeparate_of_not_mem hunderscore]
  simp [hne]

/-! ## Real numbers -/

lemma underscoresJoinDigits_of_not_mem {cs : List Char} (h : '_' ∉ cs) :
    underscoresJoinDigits cs = true := by
  fun_induction underscoresJoinDigits cs <;> simp_all

lemma readExponent?_isSome {cs : List Char} (h : matchesExponent cs = true) :
    (readExponent? cs).isSome = true := by
  cases cs with
  | nil => rfl
  | cons c cs =>
    simp only [matchesExponent, Bool.and_eq_true, Bool.or_eq_true, decide_eq_true_eq] at h
    rw [readExponent?, if_pos h]
    rfl

lemma readDecimal?_isSome {cs : List Char} (h : matchesReal cs = true) :
    (readDecimal? cs).isSome = true := by
  unfold readDecimal?
  rw [if_pos h]
  unfold matchesReal at h
  dsimp only at h ⊢
  split at h <;>
  · rw [Bool.and_eq_true] at h
    rw [Option.isSome_map]
    exact readExponent?_isSome h.2

lemma trimPadding_of_all {cs : List Char} (h : ∀ c ∈ cs, isPadding c = false) :
    trimPadding cs = cs := by
  have hdrop {ds : List Char} (hds : ∀ c ∈ ds, isPadding c = false) :
      ds.dropWhile isPadding = ds := by
    rw [List.dropWhile_eq_self_iff]
    intro hl
    rw [hds _ (List.getElem_mem hl)]
    exact Bool.false_ne_true
  rw [trimPadding, hdrop h, hdrop fun c hc => h c (List.mem_reverse.1 hc), List.reverse_reverse]

lemma ofRatio_ne_nan (negative : Bool) (num den : Nat) :
    Binary64.ofRatio negative num den ≠ .nan := by
  unfold Binary64.ofRatio Binary64.zero
  dsimp only
  split_ifs <;> nofun

lemma ofDecimal_ne_nan (negative : Bool) (digits : Nat) (exponent : Int) :
    Binary64.ofDecimal negative digits exponent ≠ .nan := by
  unfold Binary64.ofDecimal Binary64.zero
  dsimp only
  split_ifs
  · nofun
  · nofun
  · nofun
  · exact ofRatio_ne_nan _ _ _
  · exact ofRatio_ne_nan _ _ _

lemma ne_nan_of_readDecimal? {cs : List Char} {x : Binary64} (h : readDecimal? cs = some x) :
    x ≠ .nan := by
  unfold readDecimal? at h
  split at h
  · dsimp only at h
    obtain ⟨e, -, rfl⟩ := Option.map_eq_some_iff.1 h
    exact ofDecimal_ne_nan _ _ _
  · cases h

/-- The word for what is no number has letters that no numeral has. -/
lemma word_ne_nan {cs : List Char} (h : ∀ c ∈ cs, isNumeralChar c = true) :
    String.ofList (cs.map Char.toLower) ≠ "nan" := by
  intro hword
  have hlist : cs.map Char.toLower = ['n', 'a', 'n'] := by
    rw [← String.toList_ofList (l := cs.map Char.toLower), hword]
    rfl
  obtain ⟨c, hc, hlower⟩ : ∃ c ∈ cs, c.toLower = 'n' :=
    List.mem_map.1 (hlist ▸ List.mem_cons_self)
  have hn : c = 'n' ∨ c = 'N' := by
    unfold Char.toLower at hlower
    split at hlower
    · -- the letter is the one that is 32 places before
      have hval : c.val + 32 = 110 := congrArg Char.val hlower
      have hbefore : c.val = 110 - 32 := by rw [← hval, UInt32.add_sub_cancel]
      exact .inr (Char.ext hbefore)
    · exact .inl hlower
  rcases hn with rfl | rfl
  · exact absurd (h _ hc) (by decide)
  · exact absurd (h _ hc) (by decide)

/-- A real numeral of a cell is read, as a number if perhaps an infinite one. -/
theorem readReal_of_matches {text : String} (h : matchesReal text.toList = true) :
    ∃ x, readReal text = .ok x ∧ x ≠ .nan := by
  have hall := all_of_matchesReal h
  have htrim : trimPadding text.toList = text.toList :=
    trimPadding_of_all fun c hc => (isPadding_of_isNumeralChar (hall c hc)).1
  have hunderscore : '_' ∉ text.toList := fun hc => (isPadding_of_isNumeralChar (hall _ hc)).2 rfl
  have hfilter : text.toList.filter (· ≠ '_') = text.toList := by
    rw [List.filter_eq_self]
    intro c hc
    simpa using (isPadding_of_isNumeralChar (hall c hc)).2
  have hword : String.ofList ((splitSign text.toList).2.map Char.toLower) ≠ "nan" := by
    refine word_ne_nan fun c hc => hall c ?_
    rcases splitSign_cases text.toList with ⟨heq, -⟩ | heq | heq
    · rwa [heq]
    · rw [heq]
      exact List.mem_cons_of_mem _ hc
    · rw [heq]
      exact List.mem_cons_of_mem _ hc
  obtain ⟨x, hx⟩ := Option.isSome_iff_exists.1 (readDecimal?_isSome h)
  unfold readReal
  dsimp only
  rw [htrim, underscoresJoinDigits_of_not_mem hunderscore, hfilter, hx, if_neg hword]
  split
  · exact ⟨_, rfl, nofun⟩
  · exact ⟨x, rfl, ne_nan_of_readDecimal? hx⟩

end SheetCompiler.Number

namespace SheetCompiler.Primitive

open SheetCompiler.Number

/-! ## Texts of cells -/

/-- Whether a text is an integer numeral with too many digits. -/
def isOverlong (text : String) : Bool :=
  matchesInteger text.toList && decide (digitLimit < (splitSign text.toList).2.length)

/-- How many digits the integer numeral of a text has. -/
def digitsOf (text : String) : Nat := (splitSign text.toList).2.length

/-- Whether the values of a type are integers. -/
def isIntegral : Primitive → Bool
  | .int | .long => true
  | _ => false

lemma isValidInteger_eq_error_iff {bits : Nat} {text : String} {fault : NumeralFault} :
    isValidInteger bits text = .error fault ↔
      isOverlong text = true ∧ fault = .tooManyDigits (digitsOf text) := by
  unfold isValidInteger isOverlong digitsOf
  by_cases h : matchesInteger text.toList = true
  · rw [if_pos h, readInteger_of_matches h, h]
    dsimp only
    by_cases hl : digitLimit < (splitSign text.toList).2.length
    · rw [if_pos hl]
      simp [Except.map, hl, eq_comm]
    · rw [if_neg hl]
      simp [Except.map, hl]
  · rw [if_neg h]
    simp [h]

/-- Checking a text fails exactly where it is to be an integer and is a numeral with too many
digits. -/
theorem isValid_eq_error_iff {p : Primitive} {text : String} {fault : NumeralFault} :
    p.isValid text = .error fault ↔
      p.isIntegral = true ∧ isOverlong text = true ∧ fault = .tooManyDigits (digitsOf text) := by
  cases p <;> simp [isValid, isIntegral, isValidInteger_eq_error_iff]

/-- A valid text has a value. -/
theorem convert_of_isValid {p : Primitive} {text : String} (h : p.isValid text = .ok true) :
    ∃ v, p.convert text = .ok v := by
  have hinteger {bits : Nat} (hv : isValidInteger bits text = .ok true) :
      ∃ i, readInteger text = .ok i := by
    unfold isValidInteger at hv
    split at hv
    · cases hr : readInteger text with
      | error fault => rw [hr] at hv; cases hv
      | ok i => exact ⟨i, rfl⟩
    · cases hv
  have hreal (hv : (.ok (matchesReal text.toList) : Except NumeralFault Bool) = .ok true) :
      ∃ x, readReal text = .ok x := by
    have hmatch : matchesReal text.toList = true := by simpa using hv
    obtain ⟨x, hx, -⟩ := readReal_of_matches hmatch
    exact ⟨x, hx⟩
  cases p with
  | int => obtain ⟨i, hi⟩ := hinteger h; exact ⟨.integer i, by rw [convert, hi]; rfl⟩
  | long => obtain ⟨i, hi⟩ := hinteger h; exact ⟨.integer i, by rw [convert, hi]; rfl⟩
  | float => obtain ⟨x, hx⟩ := hreal h; exact ⟨.real x, by rw [convert, hx]; rfl⟩
  | double => obtain ⟨x, hx⟩ := hreal h; exact ⟨.real x, by rw [convert, hx]; rfl⟩
  | bool => exact ⟨_, rfl⟩
  | string => exact ⟨_, rfl⟩

/-- Texts are valid if each of them is. -/
lemma areValid_eq_true {p : Primitive} {texts : List String} (h : p.areValid texts = .ok true) :
    ∀ text ∈ texts, p.isValid text = .ok true := by
  induction texts with
  | nil => simp
  | cons text texts ih =>
    rw [areValid] at h
    cases hv : p.isValid text with
    | error fault => rw [hv] at h; cases h
    | ok valid =>
      rw [hv] at h
      cases valid with
      | false => cases h
      | true =>
        intro t ht
        rcases List.mem_cons.1 ht with rfl | ht
        · exact hv
        · exact ih h t ht

lemma areValid_of_forall {p : Primitive} {texts : List String}
    (h : ∀ text ∈ texts, p.isValid text = .ok true) : p.areValid texts = .ok true := by
  induction texts with
  | nil => rfl
  | cons text texts ih =>
    rw [List.forall_mem_cons] at h
    rw [areValid, h.1]
    exact ih h.2

/-- Checking texts fails at one of them, behind valid ones. -/
lemma areValid_eq_error_iff {p : Primitive} {texts : List String} {fault : NumeralFault} :
    p.areValid texts = .error fault ↔
      ∃ front text back, texts = front ++ text :: back ∧
        (∀ t ∈ front, p.isValid t = .ok true) ∧ p.isValid text = .error fault := by
  induction texts with
  | nil => simp [areValid]
  | cons text texts ih =>
    rw [areValid, except_bind_eq_error]
    constructor
    · rintro (hv | ⟨valid, hv, h⟩)
      · exact ⟨[], text, texts, rfl, by simp, hv⟩
      · cases valid with
        | false => cases h
        | true =>
          obtain ⟨front, t, back, rfl, hfront, ht⟩ := ih.1 h
          exact ⟨text :: front, t, back, rfl, by simpa using ⟨hv, hfront⟩, ht⟩
    · rintro ⟨front, t, back, heq, hfront, ht⟩
      cases front with
      | nil =>
        obtain ⟨rfl, rfl⟩ := List.cons.inj heq
        exact .inl ht
      | cons first front =>
        obtain ⟨rfl, rfl⟩ := List.cons.inj heq
        refine .inr ⟨true, hfront text (by simp), ?_⟩
        rw [if_pos rfl]
        exact ih.2 ⟨front, t, back, rfl, fun u hu => hfront u (by simp [hu]), ht⟩

end SheetCompiler.Primitive
