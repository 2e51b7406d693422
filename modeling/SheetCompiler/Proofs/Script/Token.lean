import SheetCompiler.Script.Token
import Mathlib.Data.List.TakeWhile
import Mathlib.Tactic.Lemma

/-!
# Tokens of generated lines

The tokens of the lines that scripts are generated from: words, marks, and texts between quotes that
need no escapes. A text is taken apart from its beginning (`HasTokens`), whatever the fuel, as long
as it suffices.

Main statements:

* `HasTokens.word`: an identifier is one token;
* `HasTokens.text` and `HasTokens.longText`: so is a text between quotes;
* `tokens_of_hasTokens`: the tokens of a line.
-/

namespace SheetCompiler.Script

open SheetCompiler.Text

/-! ## Characters of identifiers -/

lemma continuesIdentifier_of_mem {cs : List Char} (h : isIdentifierChars cs = true) {c : Char}
    (hc : c ∈ cs) : continuesIdentifier c = true := by
  cases cs with
  | nil => cases hc
  | cons d cs =>
    rw [isIdentifierChars, Bool.and_eq_true] at h
    rcases List.mem_cons.1 hc with rfl | hc
    · exact continuesIdentifier_of_startsIdentifier h.1
    · exact List.all_eq_true.1 h.2 c hc

/-- An identifier has no characters that may not stand in one. -/
lemma notMem_of_isIdentifierChars {cs : List Char} (h : isIdentifierChars cs = true) {c : Char}
    (hc : continuesIdentifier c = false) : c ∉ cs := by
  intro hmem
  rw [continuesIdentifier_of_mem h hmem] at hc
  cases hc

lemma isIdentifierChars_of_isIdentifier {name : String} (h : isIdentifier name = true) :
    isIdentifierChars name.toList = true := by
  rw [isIdentifier, Bool.and_eq_true] at h
  exact h.1

/-- What may begin an identifier is neither a quote nor a digit nor a point. -/
lemma ne_of_startsIdentifier {c : Char} (h : startsIdentifier c = true) :
    c ≠ '"' ∧ c ≠ '\x27' ∧ c.isDigit = false ∧ c ≠ '.' := by
  refine ⟨?_, ?_, ?_, ?_⟩
  · rintro rfl
    exact absurd h (by decide)
  · rintro rfl
    exact absurd h (by decide)
  · rw [Bool.eq_false_iff]
    intro hdigit
    rw [startsIdentifier] at h
    rw [Char.isDigit, Bool.and_eq_true, decide_eq_true_eq, decide_eq_true_eq] at hdigit
    -- digits are ASCII, where only letters and the underscore begin a name
    have hle : c.toNat ≤ 57 := hdigit.2
    have hge : 48 ≤ c.toNat := hdigit.1
    have hascii : isAscii c = true := by
      rw [isAscii, decide_eq_true_eq]
      omega
    rw [if_pos hascii, Bool.or_eq_true, decide_eq_true_eq] at h
    rcases h with halpha | rfl
    · have hletter : (c.isUpper || c.isLower) = true := halpha
      rw [Bool.or_eq_true] at hletter
      rcases hletter with hupper | hlower
      · have hrange : 'A'.val ≤ c.val ∧ c.val ≤ 'Z'.val := of_decide_eq_true hupper
        have hmin : 65 ≤ c.toNat := hrange.1
        omega
      · have hrange : (decide ('a'.val ≤ c.val) && decide (c.val ≤ 'z'.val)) = true := hlower
        rw [Bool.and_eq_true, decide_eq_true_eq] at hrange
        have hmin : 97 ≤ c.toNat := hrange.1
        omega
    · exact absurd hle (by decide)
  · rintro rfl
    exact absurd h (by decide)

/-! ## Tokens one after the other -/

/-- A text within open brackets has tokens, with any fuel that suffices. -/
def HasTokens (opened : Nat) (cs : List Char) (ts : List Token) : Prop :=
  ∀ fuel, cs.length < fuel → tokensFrom fuel opened cs = some ts

variable {opened : Nat} {cs rest : List Char} {t : Token} {ts : List Token}

lemma tokens_of_hasTokens (h : HasTokens 0 cs ts) : tokens cs = some ts :=
  h (cs.length + 1) (Nat.lt_succ_self _)

lemma HasTokens.nil : HasTokens opened [] [] := by
  intro fuel hfuel
  obtain ⟨fuel, rfl⟩ := Nat.exists_eq_succ_of_ne_zero (by omega : fuel ≠ 0)
  rfl

/-- Blanks separate tokens. -/
lemma HasTokens.blank (h : HasTokens opened cs ts) : HasTokens opened (' ' :: cs) ts := by
  intro fuel hfuel
  rw [List.length_cons] at hfuel
  obtain ⟨fuel, rfl⟩ := Nat.exists_eq_succ_of_ne_zero (by omega : fuel ≠ 0)
  have hsame := h (fuel + 1) (by omega)
  rw [tokensFrom] at hsame ⊢
  exact hsame

/-- What stands behind a number sign is no token. -/
lemma HasTokens.comment (h : '\n' ∉ cs) : HasTokens opened ('#' :: cs) [] := by
  intro fuel hfuel
  rw [List.length_cons] at hfuel
  obtain ⟨fuel, rfl⟩ := Nat.exists_eq_succ_of_ne_zero (by omega : fuel ≠ 0)
  have hend : cs.dropWhile (· ≠ '\n') = [] := by
    rw [List.dropWhile_eq_nil_iff]
    intro c hc
    rw [decide_eq_true_eq]
    rintro rfl
    exact h hc
  have hstep : tokensFrom (fuel + 1) opened ('#' :: cs) =
      tokensFrom fuel opened (cs.dropWhile (· ≠ '\n')) := rfl
  rw [hstep, hend]
  exact HasTokens.nil fuel (by rw [List.length_nil]; omega)

/-- The characters that begin no token. -/
def breaksTokens (c : Char) : Bool := isSpace c || ['\n', '\\', '#'].contains c

/-- A token stands in front of those that follow it. -/
lemma HasTokens.cons {c : Char} (hc : breaksTokens c = false)
    (ht : token? (c :: cs) = some (t, rest)) (hlength : rest.length ≤ cs.length)
    (h : HasTokens (openBehind opened t) rest ts) : HasTokens opened (c :: cs) (t :: ts) := by
  intro fuel hfuel
  rw [List.length_cons] at hfuel
  obtain ⟨fuel, rfl⟩ := Nat.exists_eq_succ_of_ne_zero (by omega : fuel ≠ 0)
  rw [breaksTokens, Bool.or_eq_false_iff] at hc
  obtain ⟨hspace, hspecial⟩ := hc
  have hdrop : (c :: cs).dropWhile isSpace = c :: cs :=
    List.dropWhile_cons_of_neg (by rw [hspace]; exact Bool.false_ne_true)
  have hrest := h fuel (by omega)
  -- the characters that are treated on their own are not this one
  rw [tokensFrom, hdrop]
  split
  · rename_i heq
    cases heq
  · rename_i heq
    cases heq
    exact absurd hspecial (by decide)
  · rename_i heq
    cases heq
    exact absurd hspecial (by decide)
  · rename_i heq
    cases heq
    exact absurd hspecial (by decide)
  · rw [ht]
    dsimp only [bind, Option.bind]
    rw [hrest]
    rfl

/-! ## Words -/

/-- Whether an identifier ends in front of a text, and does not change the meaning of a quote
there. -/
def endsWord (rest : List Char) : Bool :=
  rest.head?.all fun c => !continuesIdentifier c && c != '"' && c != '\x27'

lemma opening?_of_endsWord (h : endsWord rest = true) : opening? rest = none := by
  cases rest with
  | nil => rfl
  | cons c rest =>
    rw [endsWord, List.head?_cons, Option.all_some, Bool.and_eq_true, Bool.and_eq_true,
      bne_iff_ne, bne_iff_ne] at h
    rw [opening?, if_neg]
    rintro (hq | hq)
    · exact h.1.2 hq
    · exact h.2 hq

/-- An identifier is the token of a word. -/
lemma token?_word {name : List Char} (hname : isIdentifierChars name = true)
    (hrest : endsWord rest = true) : token? (name ++ rest) = some (wordToken name, rest) := by
  cases name with
  | nil => cases hname
  | cons c cs =>
    have hchars := hname
    rw [isIdentifierChars, Bool.and_eq_true] at hname
    obtain ⟨hquote, hquote', hdigit, hpoint⟩ := ne_of_startsIdentifier hname.1
    have hall : ∀ d ∈ cs, continuesIdentifier d = true := List.all_eq_true.1 hname.2
    -- the word goes on as far as its characters do, which is up to the rest
    have hstop : rest.takeWhile continuesIdentifier = [] := by
      cases rest with
      | nil => rfl
      | cons d rest =>
        rw [endsWord, List.head?_cons, Option.all_some, Bool.and_eq_true, Bool.and_eq_true,
          Bool.not_eq_true'] at hrest
        exact List.takeWhile_cons_of_neg (by rw [hrest.1.1]; exact Bool.false_ne_true)
    have hbody : (cs ++ rest).takeWhile continuesIdentifier = cs := by
      rw [List.takeWhile_append_of_pos hall, hstop, List.append_nil]
    have hdrop : (cs ++ rest).drop cs.length = rest := List.drop_left
    -- without a quote behind it the word is no mark of a text
    have hother : otherText? (c :: cs) rest = none := by
      rw [otherText?, opening?_of_endsWord hrest]
      rfl
    rw [List.cons_append, token?, if_neg (by rintro (hq | hq) <;> contradiction),
      if_neg (by simp [hdigit, hpoint]), if_pos hname.1]
    dsimp only
    rw [hbody, hdrop, hother]

lemma breaksTokens_of_startsIdentifier {c : Char} (h : startsIdentifier c = true) :
    breaksTokens c = false := by
  have hne : ∀ d : Char, startsIdentifier d = false → c ≠ d := by
    rintro d hd rfl
    rw [h] at hd
    cases hd
  have h₁ := hne ' ' (by decide)
  have h₂ := hne '\t' (by decide)
  have h₃ := hne '\x0c' (by decide)
  have h₄ := hne '\n' (by decide)
  have h₅ := hne '\\' (by decide)
  have h₆ := hne '#' (by decide)
  simp [breaksTokens, isSpace, h₁, h₂, h₃, h₄, h₅, h₆]

lemma openBehind_wordToken (opened : Nat) (name : List Char) :
    openBehind opened (wordToken name) = opened := by
  unfold wordToken
  dsimp only
  split_ifs <;> rfl

/-- An identifier is one token. -/
theorem HasTokens.word {name : List Char} (hname : isIdentifierChars name = true)
    (hrest : endsWord rest = true) (h : HasTokens opened rest ts) :
    HasTokens opened (name ++ rest) (wordToken name :: ts) := by
  have htoken := token?_word hname hrest
  cases name with
  | nil => cases hname
  | cons c cs =>
    rw [isIdentifierChars, Bool.and_eq_true] at hname
    rw [List.cons_append] at htoken ⊢
    refine .cons (breaksTokens_of_startsIdentifier hname.1) htoken ?_ ?_
    · rw [List.length_append]
      omega
    · rwa [openBehind_wordToken]

/-- A name that is no reserved word is read in its compatible form. -/
lemma wordToken_of_isIdentifier {name : String} (h : isIdentifier name = true) :
    wordToken name.toList = .name (compatibleForm name) := by
  rw [isIdentifier, Bool.and_eq_true, Bool.not_eq_true'] at h
  -- the words that stand for values are reserved ones
  have hne : ∀ word ∈ reservedWords, name ≠ word := by
    rintro word hword rfl
    rw [List.contains_iff_mem.2 hword] at h
    cases h.2
  rw [wordToken, String.ofList_toList]
  rw [if_neg (hne _ (by decide)), if_neg (hne _ (by decide)), if_neg (hne _ (by decide)), h.2]
  rfl

/-! ## Texts -/

lemma decodeUntil_append {quote : Char} {body : List Char} (hq : quote ∉ body)
    (hn : '\n' ∉ body) (hb : '\\' ∉ body) (rest : List Char) :
    Quoted.decodeUntil quote (body ++ quote :: rest) = some (body, rest) := by
  induction body with
  | nil =>
    rw [List.nil_append, Quoted.decodeUntil, if_pos rfl]
  | cons c body ih =>
    rw [List.mem_cons, not_or] at hq hn hb
    rw [List.cons_append, Quoted.decodeUntil_plain (Ne.symm hq.1) (Ne.symm hn.1) (Ne.symm hb.1),
      ih hq.2 hn.2 hb.2]
    rfl

/-- A text on one line without quotes and backslashes is one token between quotes. -/
theorem HasTokens.text {body : List Char} (hne : body ≠ []) (hq : '"' ∉ body) (hn : '\n' ∉ body)
    (hb : '\\' ∉ body) (h : HasTokens opened rest ts) :
    HasTokens opened ('"' :: (body ++ '"' :: rest))
      (.constant (.text (String.ofList body)) :: ts) := by
  have hopening : opening? ('"' :: (body ++ '"' :: rest)) = some (['"'], body ++ '"' :: rest) := by
    cases body with
    | nil => exact absurd rfl hne
    | cons c body =>
      have hc : ('"' == c) = false := by
        rw [beq_eq_false_iff_ne]
        rintro rfl
        exact hq List.mem_cons_self
      -- two more quotes would open a text of several lines
      have hstarts : ['"', '"'].isPrefixOf (c :: body ++ '"' :: rest) = false := by
        rw [List.cons_append, List.isPrefixOf, hc, Bool.false_and]
      rw [opening?, if_pos (.inl rfl), hstarts]
      rfl
  have hdecode : Quoted.decode ('"' :: (body ++ '"' :: rest)) = some (body, rest) :=
    decodeUntil_append hq hn hb rest
  have htoken : token? ('"' :: (body ++ '"' :: rest)) =
      some (.constant (.text (String.ofList body)), rest) := by
    rw [token?, if_pos (.inl rfl), text?, hopening]
    have hone : ['"'].length = 1 := rfl
    dsimp only
    rw [if_pos hone, hdecode]
    rfl
  refine .cons (by decide) htoken ?_ h
  rw [List.length_append, List.length_cons]
  omega

lemma splitText_append {body : List Char} (hq : '"' ∉ body) (hb : '\\' ∉ body)
    (rest : List Char) :
    splitText ['"', '"', '"'] (body ++ ['"', '"', '"'] ++ rest) = some (body, rest) := by
  induction body with
  | nil => rfl
  | cons c body ih =>
    rw [List.mem_cons, not_or] at hq hb
    have hc : ('"' == c) = false := beq_eq_false_iff_ne.2 hq.1
    have hstarts : ['"', '"', '"'].isPrefixOf (c :: (body ++ ['"', '"', '"'] ++ rest)) = false := by
      rw [List.isPrefixOf, hc, Bool.false_and]
    rw [List.cons_append, List.cons_append, splitText]
    · rw [hstarts, if_neg Bool.false_ne_true, if_neg (fun h => absurd h.2 (by decide)),
        ih hq.2 hb.2]
      rfl
    · rintro d ds rfl
      exact absurd rfl hb.1

lemma unescape_plain {body : List Char} (hb : '\\' ∉ body) {fuel : Nat}
    (hfuel : body.length < fuel) : unescape fuel body = some body := by
  induction body generalizing fuel with
  | nil =>
    obtain ⟨fuel, rfl⟩ := Nat.exists_eq_succ_of_ne_zero (by omega : fuel ≠ 0)
    rfl
  | cons c body ih =>
    rw [List.length_cons] at hfuel
    obtain ⟨fuel, rfl⟩ := Nat.exists_eq_succ_of_ne_zero (by omega : fuel ≠ 0)
    rw [List.mem_cons, not_or] at hb
    rw [unescape, ih hb.2 (by omega)]
    · rfl
    · rintro ds rfl
      exact absurd rfl hb.1
    · rintro d ds rfl
      exact absurd rfl hb.1

/-- A text without quotes and backslashes is one token between three quotes. -/
theorem HasTokens.longText {body : List Char} (hq : '"' ∉ body) (hb : '\\' ∉ body)
    (h : HasTokens opened rest ts) :
    HasTokens opened (['"', '"', '"'] ++ body ++ ['"', '"', '"'] ++ rest)
      (.constant (.text (String.ofList body)) :: ts) := by
  have hsplit := splitText_append hq hb rest
  have hescape := unescape_plain hb (Nat.lt_succ_self body.length)
  have htoken : token? (['"', '"', '"'] ++ body ++ ['"', '"', '"'] ++ rest) =
      some (.constant (.text (String.ofList body)), rest) := by
    have hopening : opening? (['"', '"', '"'] ++ body ++ ['"', '"', '"'] ++ rest) =
        some (['"', '"', '"'], body ++ ['"', '"', '"'] ++ rest) := by
      simp [opening?, List.isPrefixOf]
    have htext : text? (['"', '"', '"'] ++ body ++ ['"', '"', '"'] ++ rest) =
        some (body, rest) := by
      rw [text?, hopening]
      dsimp only
      rw [if_neg (by decide)]
      dsimp only
      rw [hsplit]
      dsimp only [bind, Option.bind]
      rw [hescape]
      rfl
    have hfirst : ['"', '"', '"'] ++ body ++ ['"', '"', '"'] ++ rest =
        '"' :: (['"', '"'] ++ body ++ ['"', '"', '"'] ++ rest) := rfl
    rw [hfirst] at htext ⊢
    rw [token?, if_pos (.inl rfl), htext]
    rfl
  refine HasTokens.cons (by decide) htoken ?_ h
  simp only [List.append_eq, List.length_append, List.length_cons, List.length_nil]
  omega

end SheetCompiler.Script
