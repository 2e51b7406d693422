import SheetCompiler.Text.Hex
import SheetCompiler.Text.Point
import SheetCompiler.Text.Printable

/-!
# Quoted texts

A text between quotes, as it stands in a generated script and in messages. Single quotes, unless
the text holds a single and no double quote; the chosen quote, the backslash, line feed, carriage
return and tab are escaped by a letter, every other character that is not printable by its code
point. Main statement: `decode_encode`.
-/

namespace SheetCompiler.Text.Quoted

/-- The quote that surrounds a text. -/
def quoteOf (cs : List Char) : Char :=
  if cs.contains '\x27' && !cs.contains '"' then '"' else '\x27'

/-- The escape of a character by its code point. -/
def escapeCode (n : Nat) : List Char :=
  if n < 0x100 then '\\' :: 'x' :: writeHex 2 n
  else if n < 0x10000 then '\\' :: 'u' :: writeHex 4 n
  else '\\' :: 'U' :: writeHex 8 n

/-- A character as it stands between quotes. -/
def encodeChar (quote c : Char) : List Char :=
  if c = quote ∨ c = '\\' then ['\\', c]
  else if c = '\n' then ['\\', 'n']
  else if c = '\r' then ['\\', 'r']
  else if c = '\t' then ['\\', 't']
  else if isPrintable c then [c]
  else escapeCode c.toNat

/-- The text between its quotes. -/
def encode (cs : List Char) : List Char :=
  let quote := quoteOf cs
  quote :: cs.flatMap (encodeChar quote) ++ [quote]

/-- A character given by its code point, and what follows it. -/
def charOf? : Option (Nat × List Char) → Option (Char × List Char)
  | some (n, rest) => if n.isValidChar then some (Char.ofNat n, rest) else none
  | none => none

/-- The character that an escape stands for, read behind its backslash, and what follows it. -/
def escaped? : List Char → Option (Char × List Char)
  | [] => none
  | c :: cs =>
    if c = '\\' ∨ c = '\x27' ∨ c = '"' then some (c, cs)
    else if c = 'n' then some ('\n', cs)
    else if c = 'r' then some ('\r', cs)
    else if c = 't' then some ('\t', cs)
    else if c = 'x' then charOf? (readHex 2 cs)
    else if c = 'u' then charOf? (readHex 4 cs)
    else if c = 'U' then charOf? (readHex 8 cs)
    else none

theorem length_of_charOf? {r : Option (Nat × List Char)} {c : Char} {rest : List Char}
    (h : charOf? r = some (c, rest)) : ∃ n, r = some (n, rest) := by
  cases r with
  | none => simp [charOf?] at h
  | some p =>
    obtain ⟨n, tail⟩ := p
    simp only [charOf?] at h
    split at h
    · simp only [Option.some.injEq, Prod.mk.injEq] at h
      exact ⟨n, by rw [h.2]⟩
    · simp at h

theorem length_of_escaped? {cs rest : List Char} {c : Char} (h : escaped? cs = some (c, rest)) :
    rest.length < cs.length := by
  have hex : ∀ {width : Nat} {tail : List Char}, charOf? (readHex width tail) = some (c, rest) →
      rest.length ≤ tail.length := by
    intro width tail hw
    obtain ⟨n, hn⟩ := length_of_charOf? hw
    exact length_of_readHex hn
  cases cs with
  | nil => simp [escaped?] at h
  | cons d tail =>
    simp only [escaped?] at h
    simp only [List.length_cons]
    (repeat' split at h) <;>
      first
      | (simp only [Option.some.injEq, Prod.mk.injEq] at h; rw [← h.2]; omega)
      | (have hle := hex h; omega)
      | simp at h

/-- Reads a text up to its closing quote, and gives what follows the quote. A text may not run over
the end of its line. -/
def decodeUntil (quote : Char) : List Char → Option (List Char × List Char)
  | [] => none
  | c :: cs =>
    if c = quote then some ([], cs)
    else if c = '\n' then none
    else if c = '\\' then
      match h : escaped? cs with
      | some (d, rest) =>
        have : rest.length < cs.length + 1 := Nat.lt_succ_of_lt (length_of_escaped? h)
        (decodeUntil quote rest).map fun (text, rest) => (d :: text, rest)
      | none => none
    else (decodeUntil quote cs).map fun (text, rest) => (c :: text, rest)
termination_by cs => cs.length

/-- Reads a quoted text, and gives what follows it. -/
def decode : List Char → Option (List Char × List Char)
  | [] => none
  | c :: cs => if c = '\x27' ∨ c = '"' then decodeUntil c cs else none

/-! ## Reading back -/

theorem decodeUntil_plain {quote c : Char} (h : c ≠ quote) (hn : c ≠ '\n') (hb : c ≠ '\\')
    (cs : List Char) :
    decodeUntil quote (c :: cs) = (decodeUntil quote cs).map fun (t, r) => (c :: t, r) := by
  rw [decodeUntil]
  simp [h, hn, hb]

theorem decodeUntil_escape {quote d : Char} {cs rest : List Char} (hq : '\\' ≠ quote)
    (h : escaped? cs = some (d, rest)) :
    decodeUntil quote ('\\' :: cs) = (decodeUntil quote rest).map fun (t, r) => (d :: t, r) := by
  rw [decodeUntil]
  simp only [hq, if_false, show ('\\' : Char) ≠ '\n' by decide, if_true]
  split
  · rename_i d' rest' h'
    rw [h] at h'
    cases h'
    rfl
  · rename_i h'
    rw [h] at h'
    cases h'

theorem charOf?_toNat (c : Char) (rest : List Char) :
    charOf? (some (c.toNat, rest)) = some (c, rest) := by
  have : c.toNat.isValidChar := c.valid
  simp [charOf?, this]

theorem escaped?_escapeCode (c : Char) (rest : List Char) :
    ∃ code, escapeCode c.toNat = '\\' :: code ∧ escaped? (code ++ rest) = some (c, rest) := by
  have hlt : c.toNat < 0x110000 := by
    have : c.toNat.isValidChar := c.valid
    simp only [Nat.isValidChar] at this
    omega
  unfold escapeCode
  split
  · refine ⟨_, rfl, ?_⟩
    rw [List.cons_append, escaped?]
    simp only [show ¬('x' = '\\' ∨ 'x' = '\x27' ∨ 'x' = '"') by decide, show 'x' ≠ 'n' by decide,
      show 'x' ≠ 'r' by decide, show 'x' ≠ 't' by decide, if_false, if_true]
    rw [readHex_writeHex 2 rest (show c.toNat < 256 by omega), charOf?_toNat]
  · split
    · refine ⟨_, rfl, ?_⟩
      rw [List.cons_append, escaped?]
      simp only [show ¬('u' = '\\' ∨ 'u' = '\x27' ∨ 'u' = '"') by decide, show 'u' ≠ 'n' by decide,
        show 'u' ≠ 'r' by decide, show 'u' ≠ 't' by decide, show 'u' ≠ 'x' by decide,
        if_false, if_true]
      rw [readHex_writeHex 4 rest (show c.toNat < 65536 by omega), charOf?_toNat]
    · refine ⟨_, rfl, ?_⟩
      rw [List.cons_append, escaped?]
      simp only [show ¬('U' = '\\' ∨ 'U' = '\x27' ∨ 'U' = '"') by decide, show 'U' ≠ 'n' by decide,
        show 'U' ≠ 'r' by decide, show 'U' ≠ 't' by decide, show 'U' ≠ 'x' by decide,
        show 'U' ≠ 'u' by decide, if_false, if_true]
      rw [readHex_writeHex 8 rest (show c.toNat < 4294967296 by omega), charOf?_toNat]

/-- A written character is read back in front of whatever text follows. -/
theorem decodeUntil_encodeChar {quote : Char} (hq : quote = '\x27' ∨ quote = '"') (c : Char)
    (rest : List Char) :
    decodeUntil quote (encodeChar quote c ++ rest) =
      (decodeUntil quote rest).map fun (t, r) => (c :: t, r) := by
  have hback : '\\' ≠ quote := by rcases hq with rfl | rfl <;> decide
  have named : ∀ d e : Char, escaped? (d :: rest) = some (e, rest) →
      decodeUntil quote ('\\' :: d :: rest) =
        (decodeUntil quote rest).map fun (t, r) => (e :: t, r) :=
    fun d e h => decodeUntil_escape hback h
  unfold encodeChar
  split
  · rename_i h
    have : escaped? (c :: rest) = some (c, rest) := by
      rcases h with rfl | rfl
      · rcases hq with rfl | rfl <;> simp [escaped?]
      · simp [escaped?]
    exact named c c this
  · rename_i h
    simp only [not_or] at h
    split
    · rename_i hc; subst hc; exact named 'n' '\n' (by simp [escaped?])
    · split
      · rename_i hc; subst hc; exact named 'r' '\r' (by simp [escaped?])
      · split
        · rename_i hc; subst hc; exact named 't' '\t' (by simp [escaped?])
        · split
          · rename_i hn _ _ _
            exact decodeUntil_plain h.1 hn h.2 rest
          · obtain ⟨code, hcode, hesc⟩ := escaped?_escapeCode c rest
            rw [hcode, List.cons_append]
            exact decodeUntil_escape hback hesc

theorem quoteOf_eq_or (cs : List Char) : quoteOf cs = '\x27' ∨ quoteOf cs = '"' := by
  unfold quoteOf
  split <;> simp

theorem decodeUntil_flatMap {quote : Char} (hq : quote = '\x27' ∨ quote = '"')
    (cs rest : List Char) :
    decodeUntil quote (cs.flatMap (encodeChar quote) ++ quote :: rest) = some (cs, rest) := by
  induction cs with
  | nil => simp [decodeUntil]
  | cons c cs ih =>
    rw [List.flatMap_cons, List.append_assoc, decodeUntil_encodeChar hq, ih]
    rfl

/-- A quoted text is read back whatever follows its closing quote. -/
theorem decode_encode (cs rest : List Char) : decode (encode cs ++ rest) = some (cs, rest) := by
  have hq := quoteOf_eq_or cs
  simp only [encode, List.cons_append, List.append_assoc, decode, if_pos hq]
  exact decodeUntil_flatMap hq cs rest

end SheetCompiler.Text.Quoted

namespace SheetCompiler.Text

/-- The text between quotes. -/
def quoted (text : String) : String := String.ofList (Quoted.encode text.toList)

/-- A text with a half between quotes. -/
def BrokenText.quoted (b : BrokenText) : String :=
  let quote := Quoted.quoteOf (b.points.filterMap Point.char?)
  String.ofList (quote :: b.points.flatMap (fun
    | .char c => Quoted.encodeChar quote c
    | .half place => Point.escape place) ++ [quote])

end SheetCompiler.Text
