import SheetCompiler.Proofs.Script.Numeral
import SheetCompiler.Table.Variable

/-!
# Literals of scripts

A value stands in a script as a literal: an integer by its digits, a real number by the digits that
read back as it, a truth value by its word, a text between quotes, and several values as a list. A
negative number has a sign in front of it, which is an operation of its own; a real number that is
infinite has no digits, and stands there by a name.

Main statements:

* `HasTokens.quoted`: a text between quotes is one token;
* `HasTokens.literal` and `HasTokens.list`: literals are read as tokens;
* `readExpr_scalar` and `readExpr_list`: and their tokens as expressions.
-/

namespace SheetCompiler.Script

open SheetCompiler.Text SheetCompiler.Number

variable {rest : List Char} {opened : Nat} {ts : List Token}

/-! ## Texts between quotes -/

/-- No character begins with the quote around it. -/
lemma exists_encodeChar {quote : Char} (hq : '\\' ≠ quote) (c : Char) :
    ∃ d ds, Quoted.encodeChar quote c = d :: ds ∧ d ≠ quote := by
  unfold Quoted.encodeChar
  split_ifs with h
  · exact ⟨_, _, rfl, hq⟩
  · exact ⟨_, _, rfl, hq⟩
  · exact ⟨_, _, rfl, hq⟩
  · exact ⟨_, _, rfl, hq⟩
  · exact ⟨_, _, rfl, fun hc => h (.inl hc)⟩
  · unfold Quoted.escapeCode
    split_ifs <;> exact ⟨_, _, rfl, hq⟩

lemma back_ne_quoteOf (cs : List Char) : '\\' ≠ Quoted.quoteOf cs := by
  rcases Quoted.quoteOf_eq_or cs with h | h <;> rw [h] <;> decide

lemma text?_encode (cs : List Char) (hrest : rest.head? ≠ some '\x27') :
    text? (Quoted.encode cs ++ rest) = some (cs, rest) := by
  have hdecode := Quoted.decode_encode cs rest
  have hquote := Quoted.quoteOf_eq_or cs
  -- two quotes behind the first one would open a text of several lines
  have hone : [Quoted.quoteOf cs, Quoted.quoteOf cs].isPrefixOf
      (cs.flatMap (Quoted.encodeChar (Quoted.quoteOf cs)) ++ ([Quoted.quoteOf cs] ++ rest)) =
        false := by
    cases cs with
    | nil =>
      cases rest with
      | nil => rfl
      | cons d rest =>
        rw [List.head?_cons, Ne, Option.some.injEq] at hrest
        have hd : ('\x27' == d) = false := beq_eq_false_iff_ne.2 (Ne.symm hrest)
        have hfirst : Quoted.quoteOf [] = '\x27' := rfl
        rw [hfirst, List.flatMap_nil, List.nil_append, List.singleton_append, List.isPrefixOf,
          List.isPrefixOf, hd, Bool.false_and, Bool.and_false]
    | cons c cs =>
      obtain ⟨d, ds, hencode, hd⟩ := exists_encodeChar (back_ne_quoteOf (c :: cs)) c
      rw [List.flatMap_cons, hencode, List.cons_append, List.cons_append, List.isPrefixOf,
        beq_eq_false_iff_ne.2 (Ne.symm hd), Bool.false_and]
  have hopening : opening? (Quoted.encode cs ++ rest) = some ([Quoted.quoteOf cs],
      cs.flatMap (Quoted.encodeChar (Quoted.quoteOf cs)) ++ ([Quoted.quoteOf cs] ++ rest)) := by
    rw [Quoted.encode]
    rw [List.cons_append, List.cons_append, List.append_assoc, opening?, if_pos hquote.symm, hone]
    rfl
  rw [text?, hopening]
  dsimp only
  rw [if_pos List.length_singleton, hdecode]

/-- A text between its quotes is one token, whatever its characters are. -/
theorem HasTokens.quoted {s : String} (hrest : rest.head? ≠ some '\x27')
    (h : HasTokens opened rest ts) :
    HasTokens opened ((quoted s).toList ++ rest) (.constant (.text s) :: ts) := by
  have htext := text?_encode s.toList hrest
  have hquote := Quoted.quoteOf_eq_or s.toList
  rw [SheetCompiler.Text.quoted, String.toList_ofList]
  rw [Quoted.encode] at htext ⊢
  rw [List.cons_append, List.cons_append] at htext ⊢
  have hbreaks : breaksTokens (Quoted.quoteOf s.toList) = false := by
    rcases hquote with hq | hq <;> rw [hq] <;> rfl
  have htoken := token?.eq_2 (Quoted.quoteOf s.toList)
    (s.toList.flatMap (Quoted.encodeChar (Quoted.quoteOf s.toList)) ++ [Quoted.quoteOf s.toList]
      ++ rest)
  rw [if_pos hquote.symm, htext, Option.map_some] at htoken
  dsimp only at htoken
  rw [String.ofList_toList] at htoken
  refine .cons hbreaks htoken ?_ h
  rw [List.length_append]
  omega

lemma all_isLineChar_writeHex (width n : Nat) : (writeHex width n).all isLineChar = true := by
  have hdigit : ∀ d < 16, isLineChar (hexDigit d) = true := by decide
  induction width generalizing n with
  | zero => rfl
  | succ width ih =>
    rw [writeHex, List.all_append, ih, List.all_cons, hdigit _ (Nat.mod_lt n (by decide))]
    rfl

lemma isLineChar_of_isPrintable {c : Char} (h : isPrintable c = true) : isLineChar c = true := by
  have hnone : ∀ d ∈ ['\n', '\r', '\x00'], isPrintable d = false := by decide
  rw [isLineChar, Bool.not_eq_true', ← Bool.not_eq_true, List.contains_iff_mem]
  intro hmem
  rw [hnone c hmem] at h
  cases h

/-- A text between quotes stands on one line. -/
lemma all_isLineChar_quoted (s : String) : (quoted s).toList.all isLineChar = true := by
  have hquote : isLineChar (Quoted.quoteOf s.toList) = true := by
    rcases Quoted.quoteOf_eq_or s.toList with hq | hq <;> rw [hq] <;> rfl
  have hencode (c : Char) :
      (Quoted.encodeChar (Quoted.quoteOf s.toList) c).all isLineChar = true := by
    unfold Quoted.encodeChar
    split_ifs with hescaped _ _ _ hprintable
    · rcases hescaped with rfl | rfl
      · rw [List.all_cons, List.all_cons, hquote]
        rfl
      · rfl
    · rfl
    · rfl
    · rfl
    · rw [List.all_cons, isLineChar_of_isPrintable hprintable]
      rfl
    · unfold Quoted.escapeCode
      split_ifs <;> simp [all_isLineChar_writeHex, isLineChar]
  have hbody : (s.toList.flatMap (Quoted.encodeChar (Quoted.quoteOf s.toList))).all isLineChar =
      true := by
    rw [List.all_flatMap, List.all_eq_true]
    exact fun c _ => hencode c
  rw [quoted, String.toList_ofList, Quoted.encode]
  rw [List.all_append, List.all_cons, hquote, hbody, List.all_cons, hquote]
  rfl

end SheetCompiler.Script

namespace SheetCompiler

open SheetCompiler.Text SheetCompiler.Number SheetCompiler.Script

/-! ## Values without their signs -/

/-- What stands behind the sign of a value in a script, as it is read: a constant or a name. -/
inductive Bare
  | constant (value : Json)
  | name (text : String)

/-- The token of a value without its sign. -/
def Bare.token : Bare → Token
  | .constant value => .constant value
  | .name text => .name text

/-- The expression of a value without its sign. -/
def Bare.expression : Bare → Expr
  | .constant value => .constant value
  | .name text => .name text

/-- The number that the digits of a finite number are read as. -/
def Number.readBack (mantissa : Nat) (exponent : Int) : Binary64 :=
  ((readReal (DecimalStyle.plain.render (shortest mantissa exponent))).toOption).getD .nan

namespace Scalar

/-- Whether a minus stands in front of a value. -/
def isNegative : Scalar → Bool
  | .integer i => decide (i < 0)
  | .real (.finite negative _ _) | .real (.infinite negative) => negative
  | _ => false

/-- The text of a value behind its sign. -/
def bareText : Scalar → String
  | .integer i => toString i.natAbs
  | .real (.finite _ mantissa exponent) => DecimalStyle.plain.render (shortest mantissa exponent)
  | .real (.infinite _) => "inf"
  | .real .nan => "nan"
  | .truth b => if b then "True" else "False"
  | .text s => quoted s

/-- A value without its sign, as it is read. -/
def toBare : Scalar → Bare
  | .integer i => .constant (.integer i.natAbs)
  | .real (.finite _ mantissa exponent) => .constant (.real (readBack mantissa exponent))
  | .real (.infinite _) => .name "inf"
  | .real .nan => .name "nan"
  | .truth b => .constant (.truth b)
  | .text s => .constant (.text s)

/-- The tokens of a value. -/
def tokens (v : Scalar) : List Token :=
  if v.isNegative then [.mark '-', v.toBare.token] else [v.toBare.token]

/-- The expression of a value. -/
def expression (v : Scalar) : Expr :=
  if v.isNegative then .minus v.toBare.expression else v.toBare.expression

/-- Whether the literal of a value can be read: an integer must not have too many digits. -/
def IsLegible : Scalar → Prop
  | .integer i => (Nat.toDigits 10 i.natAbs).length ≤ digitLimit
  | _ => True

/-- A literal is a sign and what stands behind it. -/
lemma literal_eq (v : Scalar) : v.literal = signText v.isNegative ++ v.bareText := by
  have hplain (text : String) : signText false ++ text = text := String.empty_append
  cases v with
  | integer i =>
    cases i with
    | ofNat n => exact (hplain _).symm
    | negSucc n =>
      have hneg : decide (Int.negSucc n < 0) = true := decide_eq_true (Int.negSucc_lt_zero n)
      rw [isNegative, hneg]
      rfl
  | real x =>
    cases x with
    | finite negative mantissa exponent => rfl
    | infinite negative => rfl
    | nan => exact (hplain _).symm
  | truth b => exact (hplain _).symm
  | text s => exact (hplain _).symm

end Scalar

namespace Script

/-- Whether a literal ends in front of a text: nothing follows, or the list that it stands in goes on
or is closed. -/
def endsLiteral (rest : List Char) : Bool := rest.head?.all fun c => [',', ']'].contains c

variable {rest : List Char} {opened : Nat} {ts : List Token} {v : Scalar}

lemma ends_of_endsLiteral (h : endsLiteral rest = true) :
    endsNumber rest = true ∧ endsWord rest = true ∧ rest.head? ≠ some '\x27' := by
  cases rest with
  | nil => exact ⟨rfl, rfl, nofun⟩
  | cons c rest =>
    rw [endsLiteral, List.head?_cons, Option.all_some, List.contains_iff_mem] at h
    rcases List.mem_pair.1 h with rfl | rfl
    · exact ⟨rfl, rfl, fun hc => absurd (Option.some.inj hc) (by decide)⟩
    · exact ⟨rfl, rfl, fun hc => absurd (Option.some.inj hc) (by decide)⟩

lemma readReal_render (mantissa : Nat) (exponent : Int) :
    readReal (String.ofList (DecimalStyle.plain.render (shortest mantissa exponent)).toList) =
      .ok (readBack mantissa exponent) := by
  rw [readBack, String.ofList_toList]
  generalize htext : DecimalStyle.plain.render (shortest mantissa exponent) = text
  have hreal := isReal_plain (shortest mantissa exponent)
  rw [htext] at hreal
  obtain ⟨x, hx, -⟩ := readReal_of_matches (matchesReal_of_isReal hreal)
  rw [hx]
  rfl

/-- What stands behind a sign is one token. -/
lemma HasTokens.bare (hv : v.IsLegible) (hrest : endsLiteral rest = true)
    (h : HasTokens opened rest ts) :
    HasTokens opened (v.bareText.toList ++ rest) (v.toBare.token :: ts) := by
  obtain ⟨hnumber, hword, hquote⟩ := ends_of_endsLiteral hrest
  -- the words are those of truth values and of numbers without digits
  have hwordToken (word : String) {t : Token} (ht : wordToken word.toList = t)
      (hchars : isIdentifierChars word.toList = true) :
      HasTokens opened (word.toList ++ rest) (t :: ts) := by
    rw [← ht]
    exact .word hchars hword h
  cases v with
  | integer i =>
    rw [Scalar.bareText, toList_toString]
    exact .integer hv hnumber h
  | real x =>
    cases x with
    | finite negative mantissa exponent =>
      have hreal := isReal_plain (shortest mantissa exponent)
      rw [Scalar.bareText, Scalar.toBare, Bare.token]
      exact .real hreal (readReal_render mantissa exponent) hnumber h
    | infinite negative => exact hwordToken "inf" (t := .name "inf") rfl (by decide)
    | nan => exact hwordToken "nan" (t := .name "nan") rfl (by decide)
  | truth b =>
    cases b with
    | false => exact hwordToken _ rfl (by decide)
    | true => exact hwordToken _ rfl (by decide)
  | text s => exact .quoted hquote h

/-- A minus is a token unless it is part of a longer sign. -/
lemma HasTokens.minus {c : Char} {cs : List Char} (hc : c ≠ '=') (hc' : c ≠ '>')
    (h : HasTokens opened (c :: cs) ts) : HasTokens opened ('-' :: c :: cs) (.mark '-' :: ts) := by
  have hfirst : ('=' == c) = false := beq_eq_false_iff_ne.2 (Ne.symm hc)
  have hsecond : ('>' == c) = false := beq_eq_false_iff_ne.2 (Ne.symm hc')
  have hsigns : signs.find? (fun s => s.toList.isPrefixOf ('-' :: c :: cs)) = none := by
    simp [signs, List.isPrefixOf, hfirst, hsecond]
  have htoken : token? ('-' :: c :: cs) = some (.mark '-', c :: cs) := by
    have hmark : token? ('-' :: c :: cs) = mark? ('-' :: c :: cs) := rfl
    unfold mark? at hmark
    rw [hsigns] at hmark
    exact hmark
  exact .cons rfl htoken (by simp) h

/-- What stands behind a sign begins no longer sign with it. -/
lemma head_bareText (v : Scalar) :
    ∃ c cs, v.bareText.toList = c :: cs ∧ (v.isNegative = true → c ≠ '=' ∧ c ≠ '>') := by
  have hdigits {cs : List Char} (h : AreDigits cs) (more : List Char) :
      ∃ c cs', cs ++ more = c :: cs' ∧ (v.isNegative = true → c ≠ '=' ∧ c ≠ '>') := by
    obtain ⟨c, cs, rfl⟩ := List.exists_cons_of_ne_nil h.1
    have hc := h.2 c List.mem_cons_self
    exact ⟨c, cs ++ more, rfl, fun _ => ⟨ne_of_isDigit hc rfl, ne_of_isDigit hc rfl⟩⟩
  have hnot : false = true → ∀ c : Char, c ≠ '=' ∧ c ≠ '>' := fun h => absurd h Bool.false_ne_true
  cases v with
  | integer i =>
    have hinteger := hdigits (areDigits_toDigits i.natAbs) []
    rwa [List.append_nil, ← toList_toString] at hinteger
  | real x =>
    cases x with
    | finite negative mantissa exponent =>
      obtain ⟨whole, part, exponent', hcs, hw, -⟩ :=
        isReal_plain (shortest mantissa exponent)
      have hreal := hdigits hw (part ++ exponent')
      rwa [← List.append_assoc, ← hcs] at hreal
    | infinite negative =>
      refine ⟨'i', ['n', 'f'], ?_, fun _ => ⟨by decide, by decide⟩⟩
      rw [Scalar.bareText]
      rfl
    | nan => exact ⟨'n', ['a', 'n'], rfl, fun h => hnot h _⟩
  | truth b =>
    cases b with
    | false => exact ⟨'F', "alse".toList, rfl, fun h => hnot h _⟩
    | true => exact ⟨'T', "rue".toList, rfl, fun h => hnot h _⟩
  | text s =>
    have hquoted : ∃ c cs, (quoted s).toList = c :: cs := by
      rw [quoted, String.toList_ofList, Quoted.encode]
      exact ⟨_, _, rfl⟩
    obtain ⟨c, cs, hcs⟩ := hquoted
    exact ⟨c, cs, hcs, fun h => hnot h _⟩

/-- A literal is read as its tokens. -/
theorem HasTokens.literal (hv : v.IsLegible) (hrest : endsLiteral rest = true)
    (h : HasTokens opened rest ts) :
    HasTokens opened (v.literal.toList ++ rest) (v.tokens ++ ts) := by
  have hbare := HasTokens.bare hv hrest h
  rw [v.literal_eq, String.toList_append, Scalar.tokens]
  cases hneg : v.isNegative with
  | false => exact hbare
  | true =>
    obtain ⟨c, cs, hcs, hne⟩ := head_bareText v
    rw [hcs, List.cons_append] at hbare
    rw [hcs]
    exact .minus (hne hneg).1 (hne hneg).2 hbare

lemma all_isLineChar_of_isNumeralChar {cs : List Char} (h : ∀ c ∈ cs, isNumeralChar c = true) :
    cs.all isLineChar = true := by
  have hnone : ∀ d ∈ ['\n', '\r', '\x00'], isNumeralChar d = false := by decide
  rw [List.all_eq_true]
  intro c hc
  rw [isLineChar, Bool.not_eq_true', ← Bool.not_eq_true, List.contains_iff_mem]
  intro hmem
  have hnumeral := h c hc
  rw [hnone c hmem] at hnumeral
  cases hnumeral

/-- A literal stands on one line. -/
theorem all_isLineChar_literal (v : Scalar) : v.literal.toList.all isLineChar = true := by
  have hbare : v.bareText.toList.all isLineChar = true := by
    cases v with
    | integer i =>
      rw [Scalar.bareText, toList_toString]
      refine all_isLineChar_of_isNumeralChar fun c hc => isNumeralChar_of_isDecimal ?_
      exact isDecimal_of_isDigit ((areDigits_toDigits i.natAbs).2 c hc)
    | real x =>
      cases x with
      | finite negative mantissa exponent =>
        have hreal := isReal_plain (shortest mantissa exponent)
        refine all_isLineChar_of_isNumeralChar (all_of_matchesReal ?_)
        exact matchesReal_of_isReal hreal
      | infinite negative => exact (by decide : "inf".toList.all isLineChar = true)
      | nan => exact (by decide : "nan".toList.all isLineChar = true)
    | truth b =>
      cases b with
      | false => exact (by decide : "False".toList.all isLineChar = true)
      | true => exact (by decide : "True".toList.all isLineChar = true)
    | text s => exact all_isLineChar_quoted s
  have hsign : (signText v.isNegative).toList.all isLineChar = true := by
    cases v.isNegative <;> decide
  rw [v.literal_eq, String.toList_append, List.all_append, hsign, hbare]
  rfl

/-! ## Lists -/

/-- The tokens of values with commas between them. -/
def listTokens : List Scalar → List Token
  | [] => []
  | [v] => v.tokens
  | v :: next :: rest => v.tokens ++ .mark ',' :: listTokens (next :: rest)

lemma toList_listLiteral (values : List Scalar) : (listLiteral values).toList =
    '[' :: (joinWith [',', ' '] (values.map fun v => v.literal.toList) ++ [']']) := by
  have hopen : "[".toList = ['['] := rfl
  have hclosed : "]".toList = [']'] := rfl
  have hcomma : ", ".toList = [',', ' '] := rfl
  simp [listLiteral, join, hopen, hclosed, hcomma, Function.comp_def]

/-- The literals of a list are read one after the other, up to the bracket that closes it. -/
lemma HasTokens.literals {values : List Scalar} (hv : ∀ v ∈ values, v.IsLegible)
    (hrest : rest.head? = some ']') (h : HasTokens opened rest ts) :
    HasTokens opened (joinWith [',', ' '] (values.map fun v => v.literal.toList) ++ rest)
      (listTokens values ++ ts) := by
  have hends : endsLiteral rest = true := by
    rw [endsLiteral, hrest]
    rfl
  induction values with
  | nil => exact h
  | cons v values ih =>
    have hfirst := hv v List.mem_cons_self
    cases values with
    | nil => exact .literal hfirst hends h
    | cons next values =>
      have hmore := ih fun u hu => hv u (List.mem_cons_of_mem _ hu)
      have hcomma : HasTokens opened (',' :: ' ' ::
          (joinWith [',', ' '] ((next :: values).map fun v => v.literal.toList) ++ rest))
          (.mark ',' :: (listTokens (next :: values) ++ ts)) :=
        .cons rfl rfl le_rfl hmore.blank
      have hall := HasTokens.literal hfirst rfl hcomma
      rw [List.map_cons, List.map_cons, joinWith, listTokens, List.append_assoc, List.append_assoc,
        List.append_assoc]
      exact hall

/-- A list is read as its tokens. -/
theorem HasTokens.list {values : List Scalar} (hv : ∀ v ∈ values, v.IsLegible)
    (h : HasTokens opened rest ts) :
    HasTokens opened ((listLiteral values).toList ++ rest)
      (.mark '[' :: (listTokens values ++ .mark ']' :: ts)) := by
  have hclose : HasTokens (opened + 1) (']' :: rest) (.mark ']' :: ts) := .cons rfl rfl le_rfl h
  have hitems := HasTokens.literals hv rfl hclose
  rw [toList_listLiteral, List.cons_append, List.append_assoc]
  exact .cons rfl rfl le_rfl hitems

/-! ## Expressions -/

/-- Whether an expression ends in front of tokens: nothing follows, or a mark that no expression goes
on with. -/
def endsExpression : List Token → Bool
  | [] => true
  | .mark c :: _ => !(['[', '(', '.'].contains c)
  | _ => false

variable {fuel : Nat}

lemma readTail_of_ends {body : Expr} (h : endsExpression ts = true) :
    readTail (fuel + 1) body ts = some (body, ts) := by
  cases ts with
  | nil => rfl
  | cons t ts =>
    cases t with
    | mark c =>
      rw [endsExpression, Bool.not_eq_true', ← Bool.not_eq_true, List.contains_iff_mem] at h
      rw [readTail]
      · rintro ts' heq
        cases heq
        exact h (by decide)
      · rintro ts' heq
        cases heq
        exact h (by decide)
      · rintro name ts' heq
        cases heq
        exact h (by decide)
    | _ => cases h

lemma readExpr_bare (b : Bare) (h : endsExpression ts = true) :
    readExpr (fuel + 2) (b.token :: ts) = some (b.expression, ts) := by
  have htail : readTail (fuel + 1) b.expression ts = some (b.expression, ts) := readTail_of_ends h
  cases b with
  | name text => exact htail
  | constant value =>
    rw [← htail]
    cases value with
    | text s =>
      -- a text would go on in a text behind it
      cases ts with
      | nil => rfl
      | cons t ts =>
        cases t with
        | mark c => rfl
        | _ => cases h
    | _ => rfl

/-- The tokens of a literal form its expression. -/
theorem readExpr_scalar (v : Scalar) (h : endsExpression ts = true) :
    readExpr (fuel + 3) (v.tokens ++ ts) = some (v.expression, ts) := by
  rw [Scalar.tokens, Scalar.expression]
  cases v.isNegative with
  | false => exact readExpr_bare v.toBare h
  | true =>
    have hbare : readExpr (fuel + 2) (v.toBare.token :: ts) = some (v.toBare.expression, ts) :=
      readExpr_bare v.toBare h
    rw [if_pos rfl, if_pos rfl, List.cons_append, List.singleton_append, readExpr, hbare]
    rfl

/-- A value in a list is read as an item in front of a mark that ends it. -/
lemma readItems_scalar (v : Scalar) {c : Char} (hc : c ∈ [',', ']']) :
    readItems (fuel + 5) ']' (v.tokens ++ .mark c :: ts) =
      (readMore (fuel + 3) ']' (.mark c :: ts)).map fun p => (v.expression :: p.1, p.2) := by
  have hends : endsExpression (.mark c :: ts) = true := by
    rcases List.mem_pair.1 hc with rfl | rfl <;> rfl
  have hv : readExpr (fuel + 3) (v.tokens ++ .mark c :: ts) = some (v.expression, .mark c :: ts) :=
    readExpr_scalar v hends
  have hitem : readItem (fuel + 4) ']' (v.tokens ++ .mark c :: ts) =
      (readMore (fuel + 3) ']' (.mark c :: ts)).map fun p => (v.expression :: p.1, p.2) := by
    rw [readItem, hv]
    · dsimp only [bind, Option.bind]
      cases readMore (fuel + 3) ']' (.mark c :: ts) <;> rfl
    · -- no value is a name in front of an equals sign
      intro key more heq
      rw [Scalar.tokens] at heq
      cases hneg : v.isNegative with
      | true =>
        rw [hneg, if_pos rfl] at heq
        cases (List.cons.inj heq).1
      | false =>
        rw [hneg, if_neg Bool.false_ne_true] at heq
        have hmark := (List.cons.inj (List.cons.inj heq).2).1
        rw [Token.mark.injEq] at hmark
        rw [hmark] at hc
        exact absurd hc (by decide)
  rw [← hitem, Scalar.tokens]
  cases v.isNegative with
  | true => rfl
  | false => cases v.toBare <;> rfl

/-- Values in a list are read one after the other. -/
lemma readItems_scalars {values : List Scalar} (hfuel : 3 * values.length + 4 ≤ fuel) :
    readItems fuel ']' (listTokens values ++ .mark ']' :: ts) =
      some (values.map Scalar.expression, [], ts) := by
  induction values generalizing fuel with
  | nil =>
    obtain ⟨fuel, rfl⟩ : ∃ k, fuel = k + 1 := ⟨fuel - 1, by omega⟩
    rfl
  | cons v values ih =>
    rw [List.length_cons] at hfuel
    obtain ⟨fuel, rfl⟩ : ∃ k, fuel = k + 5 := ⟨fuel - 5, by omega⟩
    cases values with
    | nil => exact readItems_scalar v (by decide)
    | cons next values =>
      have hmore : readMore (fuel + 3) ']'
          (.mark ',' :: (listTokens (next :: values) ++ .mark ']' :: ts)) =
            some ((next :: values).map Scalar.expression, [], ts) := ih (by omega)
      rw [listTokens, List.append_assoc, List.cons_append, readItems_scalar v (by decide), hmore]
      rfl

/-- The tokens of a list form its expression. -/
theorem readExpr_list {values : List Scalar} (hfuel : 3 * values.length + 5 ≤ fuel)
    (h : endsExpression ts = true) :
    readExpr fuel (.mark '[' :: (listTokens values ++ .mark ']' :: ts)) =
      some (.list (values.map Scalar.expression), ts) := by
  obtain ⟨fuel, rfl⟩ : ∃ k, fuel = k + 2 := ⟨fuel - 2, by omega⟩
  have hitems : readItems (fuel + 1) ']' (listTokens values ++ .mark ']' :: ts) =
      some (values.map Scalar.expression, [], ts) := readItems_scalars (by omega)
  rw [readExpr, hitems]
  exact readTail_of_ends h

end Script

/-! ## Literals -/

/-- What a constant stands for: one value, or a list of values. -/
inductive Literal
  | scalar (v : Scalar)
  | list (values : List Scalar)

namespace Literal

/-- The values of a literal. -/
def values : Literal → List Scalar
  | .scalar v => [v]
  | .list values => values

/-- The text of a literal. -/
def text : Literal → String
  | .scalar v => v.literal
  | .list values => listLiteral values

/-- The tokens of a literal. -/
def tokens : Literal → List Token
  | .scalar v => v.tokens
  | .list values => .mark '[' :: (listTokens values ++ [.mark ']'])

/-- The expression of a literal. -/
def expression : Literal → Expr
  | .scalar v => v.expression
  | .list values => .list (values.map Scalar.expression)

/-- Whether a literal can be read. -/
def IsLegible (l : Literal) : Prop := ∀ v ∈ l.values, v.IsLegible

variable {l : Literal}

/-- The text of a literal is read as its tokens. -/
theorem hasTokens (h : l.IsLegible) : HasTokens 0 l.text.toList l.tokens := by
  cases l with
  | scalar v =>
    have hend : HasTokens 0 [] [] := .nil
    have htokens := HasTokens.literal (h v (List.mem_singleton.2 rfl)) rfl hend
    rwa [List.append_nil, List.append_nil] at htokens
  | list values =>
    have hend : HasTokens 0 [] [] := .nil
    have htokens := HasTokens.list h hend
    rwa [List.append_nil] at htokens

lemma all_isLineChar_text (l : Literal) : l.text.toList.all isLineChar = true := by
  have hjoin (values : List Scalar) :
      (joinWith [',', ' '] (values.map fun v => v.literal.toList)).all isLineChar = true := by
    have hcomma : [',', ' '].all isLineChar = true := by decide
    induction values with
    | nil => rfl
    | cons v values ih =>
      cases values with
      | nil => exact all_isLineChar_literal v
      | cons next values =>
        rw [List.map_cons, List.map_cons, joinWith, List.all_append, List.all_append,
          all_isLineChar_literal v, hcomma]
        exact ih
  cases l with
  | scalar v => exact all_isLineChar_literal v
  | list values =>
    rw [text, toList_listLiteral, List.all_cons, List.all_append, hjoin]
    decide

lemma length_le_listTokens (values : List Scalar) :
    values.length ≤ (listTokens values).length := by
  have hpos (v : Scalar) : 1 ≤ v.tokens.length := by
    rw [Scalar.tokens]
    split_ifs
    · exact Nat.le_succ 1
    · exact le_rfl
  induction values with
  | nil => exact le_rfl
  | cons v values ih =>
    cases values with
    | nil => exact hpos v
    | cons next values =>
      have hv := hpos v
      rw [listTokens]
      simp only [List.length_append, List.length_cons] at ih ⊢
      omega

/-- The brackets in a literal are closed where it ends. -/
lemma foldl_openBehind_tokens (l : Literal) : l.tokens.foldl openBehind 0 = 0 := by
  have hscalar (v : Scalar) (opened : Nat) (ts : List Token) :
      (v.tokens ++ ts).foldl openBehind opened = ts.foldl openBehind opened := by
    have hbare : openBehind opened v.toBare.token = opened := by
      cases v.toBare <;> rfl
    rw [Scalar.tokens]
    split_ifs
    · show ts.foldl openBehind (openBehind opened v.toBare.token) = _
      rw [hbare]
    · show ts.foldl openBehind (openBehind opened v.toBare.token) = _
      rw [hbare]
  cases l with
  | scalar v =>
    have hone := hscalar v 0 []
    rwa [List.append_nil] at hone
  | list values =>
    have hitems (ts : List Token) :
        (listTokens values ++ ts).foldl openBehind 1 = ts.foldl openBehind 1 := by
      induction values with
      | nil => rfl
      | cons v values ih =>
        cases values with
        | nil => exact hscalar v 1 ts
        | cons next values =>
          rw [listTokens, List.append_assoc, hscalar]
          exact ih
    exact hitems [.mark ']']

/-- A literal goes on to its end within one statement. -/
lemma semicolon_notMem_tokens (l : Literal) : Token.mark ';' ∉ l.tokens := by
  have hmark {c : Char} (hc : ';' ≠ c) : Token.mark ';' ≠ .mark c :=
    fun heq => hc (Token.mark.inj heq)
  have hscalar (v : Scalar) : Token.mark ';' ∉ v.tokens := by
    have hbare : Token.mark ';' ≠ v.toBare.token := by
      cases v.toBare <;> exact Token.noConfusion
    rw [Scalar.tokens]
    split_ifs
    · rw [List.mem_pair, not_or]
      exact ⟨hmark (by decide), hbare⟩
    · rw [List.mem_singleton]
      exact hbare
  cases l with
  | scalar v => exact hscalar v
  | list values =>
    have hitems : Token.mark ';' ∉ listTokens values := by
      induction values with
      | nil => exact List.not_mem_nil
      | cons v values ih =>
        cases values with
        | nil => exact hscalar v
        | cons next values =>
          rw [listTokens, List.mem_append, List.mem_cons, not_or, not_or]
          exact ⟨hscalar v, hmark (by decide), ih⟩
    rw [tokens, List.mem_cons, List.mem_append, List.mem_singleton, not_or, not_or]
    exact ⟨hmark (by decide), hitems, hmark (by decide)⟩

/-- The tokens of a literal form its expression. -/
theorem wholeExpression?_tokens (l : Literal) : wholeExpression? l.tokens = some l.expression := by
  have hread : expression? l.tokens = some (l.expression, []) := by
    cases l with
    | scalar v =>
      have hscalar : readExpr (4 * v.tokens.length + 4) (v.tokens ++ []) = some (v.expression, []) :=
        readExpr_scalar v rfl
      rw [List.append_nil] at hscalar
      exact hscalar
    | list values =>
      have hlength := length_le_listTokens values
      refine readExpr_list ?_ rfl
      rw [tokens, List.length_cons, List.length_append]
      omega
  rw [wholeExpression?, hread]

end Literal

end SheetCompiler
