/-!
# Hexadecimal digits

A code point in an escape is written with a fixed count of hexadecimal digits. Main statement:
`readHex_writeHex`.
-/

namespace SheetCompiler.Text

/-- The lower-case hexadecimal digit of a number below sixteen. -/
def hexDigit (d : Nat) : Char := if d < 10 then Char.ofNat (48 + d) else Char.ofNat (87 + d)

/-- The value of a hexadecimal digit of either case. -/
def hexValue? (c : Char) : Option Nat :=
  let n := c.toNat
  if 48 ≤ n ∧ n ≤ 57 then some (n - 48)
  else if 97 ≤ n ∧ n ≤ 102 then some (n - 87)
  else if 65 ≤ n ∧ n ≤ 70 then some (n - 55)
  else none

/-- The last `width` hexadecimal digits of a number, the most significant first. -/
def writeHex : Nat → Nat → List Char
  | 0, _ => []
  | width + 1, n => writeHex width (n / 16) ++ [hexDigit (n % 16)]

/-- Reads `width` hexadecimal digits onto a number already read, and gives what follows them. -/
def readHexFrom (read : Nat) : Nat → List Char → Option (Nat × List Char)
  | 0, cs => some (read, cs)
  | _ + 1, [] => none
  | width + 1, c :: cs =>
    match hexValue? c with
    | some d => readHexFrom (16 * read + d) width cs
    | none => none

/-- Reads `width` hexadecimal digits, and gives what follows them. -/
def readHex (width : Nat) (cs : List Char) : Option (Nat × List Char) := readHexFrom 0 width cs

theorem hexValue?_hexDigit {d : Nat} (h : d < 16) : hexValue? (hexDigit d) = some d := by
  have : ∀ d < 16, hexValue? (hexDigit d) = some d := by decide
  exact this d h

@[simp] theorem length_writeHex (width n : Nat) : (writeHex width n).length = width := by
  induction width generalizing n with
  | zero => rfl
  | succ width ih => simp [writeHex, ih]

theorem readHexFrom_append (read : Nat) (width : Nat) {cs rest : List Char} {n : Nat}
    (h : readHexFrom read width cs = some (n, [])) :
    readHexFrom read width (cs ++ rest) = some (n, rest) := by
  induction width generalizing read cs with
  | zero => simp [readHexFrom] at h ⊢; simp [h]
  | succ width ih =>
    cases cs with
    | nil => simp [readHexFrom] at h
    | cons c cs =>
      simp only [readHexFrom, List.cons_append] at h ⊢
      cases hv : hexValue? c with
      | none => simp [hv] at h
      | some d =>
        simp only [hv] at h ⊢
        exact ih _ h

theorem readHexFrom_snoc (read width : Nat) {cs : List Char} {n d : Nat} (hd : d < 16)
    (h : readHexFrom read width cs = some (n, [])) :
    readHexFrom read (width + 1) (cs ++ [hexDigit d]) = some (16 * n + d, []) := by
  induction width generalizing read cs with
  | zero =>
    simp only [readHexFrom, Option.some.injEq, Prod.mk.injEq] at h
    simp [readHexFrom, h.1, h.2, hexValue?_hexDigit hd]
  | succ width ih =>
    cases cs with
    | nil => simp [readHexFrom] at h
    | cons c cs =>
      rw [readHexFrom] at h
      rw [List.cons_append, readHexFrom]
      cases hv : hexValue? c with
      | none => simp [hv] at h
      | some v =>
        simp only [hv] at h ⊢
        exact ih _ h

theorem readHexFrom_writeHex (width : Nat) {n : Nat} (h : n < Nat.pow 16 width) :
    readHexFrom 0 width (writeHex width n) = some (n, []) := by
  induction width generalizing n with
  | zero =>
    have : n = 0 := by simpa using h
    simp [readHexFrom, writeHex, this]
  | succ width ih =>
    have hdiv : n / 16 < Nat.pow 16 width := by
      change n < Nat.pow 16 width * 16 at h
      exact Nat.div_lt_of_lt_mul (by omega)
    rw [writeHex, readHexFrom_snoc 0 width (Nat.mod_lt n (by decide)) (ih hdiv)]
    simp only [Option.some.injEq, Prod.mk.injEq, and_true]
    omega

/-- The digits written for a number that fits are read back, whatever follows them. -/
theorem readHex_writeHex (width : Nat) {n : Nat} (rest : List Char) (h : n < Nat.pow 16 width) :
    readHex width (writeHex width n ++ rest) = some (n, rest) :=
  readHexFrom_append 0 width (readHexFrom_writeHex width h)

theorem length_of_readHexFrom {read width : Nat} {cs rest : List Char} {n : Nat}
    (h : readHexFrom read width cs = some (n, rest)) : rest.length ≤ cs.length := by
  induction width generalizing read cs with
  | zero => simp [readHexFrom] at h; simp [h]
  | succ width ih =>
    cases cs with
    | nil => simp [readHexFrom] at h
    | cons c cs =>
      simp only [readHexFrom] at h
      cases hv : hexValue? c with
      | none => simp [hv] at h
      | some d =>
        simp only [hv] at h
        have := ih h
        simp only [List.length_cons]
        omega

theorem length_of_readHex {width : Nat} {cs rest : List Char} {n : Nat}
    (h : readHex width cs = some (n, rest)) : rest.length ≤ cs.length :=
  length_of_readHexFrom h

end SheetCompiler.Text
