/-!
# Pieces of texts

Texts are `String`s; what walks over their characters works on `List Char`. This module cuts a
list of characters at a separator and puts the pieces together again. Main statements:
`joinWith_splitOn` (cutting loses nothing) and `splitOn_joinWith` (pieces without the separator
come back).
-/

namespace SheetCompiler.Text

/-- What holds of the characters of a list is decided by looking at these, and not at all there
are. -/
instance (priority := 2000) decidableForallMem {p : Char → Prop} [DecidablePred p]
    (cs : List Char) : Decidable (∀ c ∈ cs, p c) :=
  List.decidableBAll p cs

/-- The pieces of a text between the occurrences of `sep`. There is always at least one. -/
def splitOn (sep : Char) : List Char → List (List Char)
  | [] => [[]]
  | c :: cs =>
    if c = sep then [] :: splitOn sep cs
    else
      match splitOn sep cs with
      | [] => [[c]]
      | piece :: pieces => (c :: piece) :: pieces

/-- The pieces one after the other, with `sep` between neighbours. -/
def joinWith (sep : List Char) : List (List Char) → List Char
  | [] => []
  | [piece] => piece
  | piece :: next :: pieces => piece ++ sep ++ joinWith sep (next :: pieces)

/-- Whether `text` begins with `start`. -/
def startsWith (start text : String) : Bool := start.toList.isPrefixOf text.toList

/-- Whether `text` ends with `tail`. -/
def endsWith (tail text : String) : Bool := tail.toList.isSuffixOf text.toList

/-- The pieces of `text` between the occurrences of `sep`. -/
def pieces (sep : Char) (text : String) : List String :=
  (splitOn sep text.toList).map String.ofList

/-- The texts one after the other, with `sep` between neighbours. -/
def join (sep : String) (texts : List String) : String :=
  String.ofList (joinWith sep.toList (texts.map String.toList))

theorem splitOn_ne_nil (sep : Char) (cs : List Char) : splitOn sep cs ≠ [] := by
  cases cs with
  | nil => simp [splitOn]
  | cons c cs =>
    by_cases h : c = sep
    · simp [splitOn, h]
    · cases hs : splitOn sep cs <;> simp [splitOn, h, hs]

/-- Cutting a text at a character and joining the pieces with it gives the text back. -/
theorem joinWith_splitOn (sep : Char) (cs : List Char) :
    joinWith [sep] (splitOn sep cs) = cs := by
  induction cs with
  | nil => rfl
  | cons c cs ih =>
    cases hs : splitOn sep cs with
    | nil => exact absurd hs (splitOn_ne_nil sep cs)
    | cons piece rest =>
      rw [hs] at ih
      -- either a separator in front of all pieces, or one more character of the first
      by_cases h : c = sep
      · subst h
        simp [splitOn, hs, joinWith, ih]
      · cases rest with
        | nil => simp [splitOn, h, hs, joinWith] at ih ⊢; exact ih
        | cons next rest =>
          simp [splitOn, h, hs, joinWith] at ih ⊢
          exact ih

/-- A text without the separator is its one piece. -/
theorem splitOn_of_not_mem {sep : Char} {cs : List Char} (h : sep ∉ cs) :
    splitOn sep cs = [cs] := by
  induction cs with
  | nil => rfl
  | cons c cs ih =>
    simp only [List.mem_cons, not_or] at h
    simp [splitOn, Ne.symm h.1, ih h.2]

theorem splitOn_append_cons {sep : Char} {piece : List Char} (h : sep ∉ piece)
    (rest : List Char) : splitOn sep (piece ++ sep :: rest) = piece :: splitOn sep rest := by
  induction piece with
  | nil => simp [splitOn]
  | cons c piece ih =>
    simp only [List.mem_cons, not_or] at h
    simp [splitOn, Ne.symm h.1, ih h.2]

/-- Pieces without the separator, at least one, are found again in their joined text. -/
theorem splitOn_joinWith {sep : Char} {pieces : List (List Char)} (hne : pieces ≠ [])
    (h : ∀ piece ∈ pieces, sep ∉ piece) : splitOn sep (joinWith [sep] pieces) = pieces := by
  induction pieces with
  | nil => exact absurd rfl hne
  | cons piece rest ih =>
    cases rest with
    | nil => exact splitOn_of_not_mem (h piece (by simp))
    | cons next rest =>
      have hrest : ∀ p ∈ next :: rest, sep ∉ p := fun p hp => h p (by simp_all)
      rw [joinWith, List.append_assoc, List.singleton_append,
        splitOn_append_cons (h piece (by simp)), ih (by simp) hrest]

/-- No piece holds the separator. -/
theorem not_mem_of_mem_splitOn {sep : Char} {cs piece : List Char}
    (h : piece ∈ splitOn sep cs) : sep ∉ piece := by
  induction cs generalizing piece with
  | nil => simp [splitOn] at h; simp [h]
  | cons c cs ih =>
    by_cases hc : c = sep
    · simp only [splitOn, hc, if_true, List.mem_cons] at h
      rcases h with rfl | h
      · simp
      · exact ih h
    · cases hs : splitOn sep cs with
      | nil => exact absurd hs (splitOn_ne_nil sep cs)
      | cons first rest =>
        rw [hs] at ih
        simp only [splitOn, hc, hs, if_false, List.mem_cons] at h
        rcases h with rfl | h
        · simp only [List.mem_cons, not_or]
          exact ⟨Ne.symm hc, ih (by simp)⟩
        · exact ih (by simp [h])

end SheetCompiler.Text
