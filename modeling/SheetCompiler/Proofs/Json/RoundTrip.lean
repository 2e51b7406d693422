import SheetCompiler.Json.Printer
import SheetCompiler.Json.Reader
import Mathlib.Data.List.Basic

/-!
# Reading what is written

Data files and the manifest hold no numbers (`IsTextual`). Their text gives the value back, for any
characters in the strings.

Main statements:

* `readString_flatMap`: strings are read back;
* `read_print`: so is the value of a whole file.
-/

namespace SheetCompiler.Json

open SheetCompiler.Text

/-! ## Strings -/

/-- An escape is read as the code point that it stands for. -/
lemma readString_escape {cs rest : List Char} {p : Point} (h : escaped? cs = some (p, rest)) :
    readString ('\\' :: cs) = (readString rest).map fun (body, rest) => (p :: body, rest) := by
  rw [readString, if_neg (by decide), if_neg (by decide), if_pos rfl]
  split
  · rename_i d rest' hd
    rw [h] at hd
    cases hd
    rfl
  · rename_i hd
    rw [h] at hd
    cases hd

/-- A control character is the one of its code unit. -/
lemma escaped?_writeHex {c : Char} (h : c.toNat < 0x20) (rest : List Char) :
    escaped? ('u' :: writeHex 4 c.toNat ++ rest) = some (.char c, rest) := by
  have hread : readHex 4 (writeHex 4 c.toNat ++ rest) = some (c.toNat, rest) :=
    readHex_writeHex 4 rest (by simp only [Nat.pow_eq]; omega)
  have hhalf : half? c.toNat = none := dif_neg (by omega)
  have hunit : unitPoint c.toNat rest = (.char c, rest) := by
    rw [unitPoint, hhalf]
    dsimp only
    rw [Char.ofNat_toNat]
  rw [List.cons_append, escaped?]
  simp only [show ¬('u' = '"' ∨ 'u' = '\\' ∨ 'u' = '/') by decide, show 'u' ≠ 'n' by decide,
    show 'u' ≠ 'r' by decide, show 'u' ≠ 't' by decide, show 'u' ≠ 'b' by decide,
    show 'u' ≠ 'f' by decide, if_false, if_true]
  rw [hread, Option.map_some, hunit]

/-- A character is escaped by a letter of its own or by its number, or it stands as it is. -/
lemma escapeChar_cases (c : Char) :
    (∃ d, escapeChar c = ['\\', d] ∧ ∀ rest, escaped? (d :: rest) = some (.char c, rest)) ∨
      (c.toNat < 0x20 ∧ escapeChar c = '\\' :: 'u' :: writeHex 4 c.toNat) ∨
        (c ≠ '"' ∧ ¬ c.toNat < 0x20 ∧ c ≠ '\\' ∧ escapeChar c = [c]) := by
  by_cases hletter : c ∈ ['"', '\\', '\n', '\r', '\t', '\x08', '\x0c']
  · simp only [List.mem_cons, List.not_mem_nil, or_false] at hletter
    rcases hletter with rfl | rfl | rfl | rfl | rfl | rfl | rfl <;>
      exact .inl ⟨_, rfl, fun _ => rfl⟩
  · simp only [List.mem_cons, List.not_mem_nil, or_false, not_or] at hletter
    obtain ⟨hquote, hback, hline, hreturn, htab, hbell, hpage⟩ := hletter
    unfold escapeChar
    rw [if_neg hquote, if_neg hback, if_neg hline, if_neg hreturn, if_neg htab, if_neg hbell,
      if_neg hpage]
    by_cases hcontrol : c.toNat < 0x20
    · exact .inr (.inl ⟨hcontrol, if_pos hcontrol⟩)
    · exact .inr (.inr ⟨hquote, hcontrol, hback, if_neg hcontrol⟩)

/-- A character is read back in front of whatever follows it. -/
lemma readString_escapeChar (c : Char) (rest : List Char) :
    readString (escapeChar c ++ rest) =
      (readString rest).map fun (body, rest) => (.char c :: body, rest) := by
  rcases escapeChar_cases c with
    ⟨d, htext, hread⟩ | ⟨hcontrol, htext⟩ | ⟨hquote, hplain, hback, htext⟩
  · rw [htext]
    exact readString_escape (hread rest)
  · rw [htext]
    exact readString_escape (escaped?_writeHex hcontrol rest)
  · rw [htext, List.singleton_append, readString, if_neg hquote, if_neg hplain, if_neg hback]

/-- A string is read back up to its closing quote. -/
theorem readString_flatMap (cs rest : List Char) :
    readString (cs.flatMap escapeChar ++ '"' :: rest) = some (cs.map .char, rest) := by
  induction cs with
  | nil =>
    rw [List.flatMap_nil, List.nil_append, readString, if_pos rfl]
    rfl
  | cons c cs ih =>
    rw [List.flatMap_cons, List.append_assoc, readString_escapeChar, ih]
    rfl

/-! ## Values without numbers -/

/-- Whether a value has no number in it and the names in each of its objects are distinct. -/
inductive IsTextual : Json → Prop
  | null : IsTextual .null
  | truth (value : Bool) : IsTextual (.truth value)
  | text (value : String) : IsTextual (.text value)
  | list {items : List Json} (h : ∀ item ∈ items, IsTextual item) : IsTextual (.list items)
  | object {members : List (String × Json)} (hnames : (Pairs.names members).Nodup)
    (h : ∀ member ∈ members, IsTextual member.2) : IsTextual (.object members)

lemma isTextual_ofTexts (texts : List String) : (ofTexts texts).IsTextual := by
  refine .list fun item hitem => ?_
  obtain ⟨text, -, rfl⟩ := List.mem_map.1 hitem
  exact .text text

lemma IsTextual.isWhole {value : Json} (h : value.IsTextual) : value.isWhole = true := by
  induction h with
  | null => rfl
  | truth value => rfl
  | text value => rfl
  | list _ ih => exact areWhole_iff.2 ih
  | object _ _ ih => exact areWholeMembers_iff.2 ih

/-- Whether a text may stand behind a value: nothing, or it begins with a comma or a new line. -/
def endsValue (rest : List Char) : Bool := rest.head?.all fun c => [',', '\n'].contains c

/-- What a reader of values relies on: the text of the value begins with no blank and not as a list
ends, and it gives the value back in front of whatever may stand behind it. -/
structure IsReadBack (value : Json) : Prop where
  begins : ∀ depth, ∃ c cs, write depth value = c :: cs ∧ isSpace c = false ∧ c ≠ ']'
  reads : ∀ depth fuel rest, endsValue rest = true → (write depth value).length ≤ fuel →
    readValue fuel (write depth value ++ rest) = .ok (value, rest)

/-- Nothing is skipped in front of something that is no blank. -/
lemma skip_cons {c : Char} (h : isSpace c = false) (cs : List Char) : skip (c :: cs) = c :: cs := by
  rw [skip, List.dropWhile_cons_of_neg (by simp [h])]

lemma skip_newline (depth : Nat) (cs : List Char) : skip (newline depth ++ cs) = skip cs := by
  have hblanks (n : Nat) : skip (List.replicate n ' ' ++ cs) = skip cs := by
    induction n with
    | zero => rfl
    | succ n ih =>
      rw [List.replicate_succ, List.cons_append, skip, List.dropWhile_cons_of_pos (by decide)]
      exact ih
  rw [newline, List.cons_append, skip, List.dropWhile_cons_of_pos (by decide)]
  exact hblanks _

/-- A new line is skipped in front of a value. -/
lemma IsReadBack.skip {value : Json} (h : value.IsReadBack) (depth : Nat) (rest : List Char) :
    skip (write depth value ++ rest) = write depth value ++ rest := by
  obtain ⟨c, cs, hcs, hc, -⟩ := h.begins depth
  rw [hcs, List.cons_append, skip_cons hc]

-- the equations Lean derives for `write` would evaluate its literals character by character
lemma write_text (depth : Nat) (value : String) :
    write depth (.text value) = writeString value := rfl

lemma write_list_cons (depth : Nat) (item : Json) (items : List Json) :
    write depth (.list (item :: items)) =
      '[' :: (newline (depth + 1) ++ (write (depth + 1) item ++
        (writeItems (depth + 1) items ++ (newline depth ++ [']'])))) := by
  have hwrite : write depth (.list (item :: items)) =
      '[' :: newline (depth + 1) ++ write (depth + 1) item ++ writeItems (depth + 1) items
        ++ newline depth ++ [']'] := rfl
  rw [hwrite]
  simp only [List.append_assoc, List.cons_append]

/-- A value that is written as one word is read back where the word is known. -/
lemma IsReadBack.word {value : Json} {c : Char} {cs : List Char}
    (hwrite : ∀ depth, write depth value = c :: cs) (hc : isSpace c = false) (hne : c ≠ ']')
    (hread : ∀ fuel rest, readValue (fuel + 1) (c :: cs ++ rest) = .ok (value, rest)) :
    value.IsReadBack where
  begins depth := ⟨c, cs, hwrite depth, hc, hne⟩
  reads depth fuel rest _ hf := by
    rw [hwrite] at hf ⊢
    cases fuel with
    | zero => simp at hf
    | succ fuel => exact hread fuel rest

lemma IsReadBack.text (value : String) : (Json.text value).IsReadBack where
  begins depth := ⟨'"', _, rfl, by decide, by decide⟩
  reads depth fuel rest _ hf := by
    have hwrite : write depth (.text value) =
        '"' :: (value.toList.flatMap escapeChar ++ ['"']) := by
      rw [write_text, writeString, List.cons_append]
    cases fuel with
    | zero => rw [hwrite] at hf; simp at hf
    | succ fuel =>
      rw [hwrite, List.cons_append, readValue, if_pos rfl, List.append_assoc,
        List.singleton_append, readString_flatMap]
      dsimp only
      rw [ofPoints_char, String.ofList_toList]

/-- The items of a list are read back up to its bracket. -/
lemma readItems_write {item : Json} {items : List Json} {depth fuel : Nat}
    (h : ∀ value ∈ item :: items, value.IsReadBack)
    (hf : (write depth item).length + (writeItems depth items).length < fuel) (above : Nat)
    (rest : List Char) :
    readItems fuel
        (write depth item ++ (writeItems depth items ++ (newline above ++ ']' :: rest))) =
      .ok (item :: items, rest) := by
  induction items generalizing item fuel with
  | nil =>
    cases fuel with
    | zero => omega
    | succ fuel =>
      rw [readItems, (h item (by simp)).reads depth fuel _ rfl (by omega), writeItems,
        List.nil_append]
      simp only [bind, Except.bind]
      rw [skip_newline, skip_cons (by decide)]
      rfl
  | cons next items ih =>
    cases fuel with
    | zero => omega
    | succ fuel =>
      have hnext := h next (by simp)
      rw [writeItems] at hf ⊢
      simp only [List.cons_append, List.append_assoc, List.length_cons, List.length_append] at hf ⊢
      rw [readItems, (h item (by simp)).reads depth fuel _ rfl (by omega)]
      simp only [bind, Except.bind]
      rw [skip_cons (by decide)]
      simp only
      rw [skip_newline, hnext.skip,
        ih (fun value hv => h value (List.mem_cons_of_mem _ hv)) (by omega)]
      rfl

/-- A member as it is written. -/
def writeMember (depth : Nat) (member : String × Json) : List Char :=
  writeString member.1 ++ ": ".toList ++ write depth member.2

lemma writeMembers_cons (depth : Nat) (member : String × Json) (members : List (String × Json)) :
    writeMembers depth (member :: members) =
      ',' :: (newline depth ++ (writeMember depth member ++ writeMembers depth members)) := by
  obtain ⟨name, value⟩ := member
  rw [writeMembers, writeMember]
  simp only [List.append_assoc, List.cons_append]

/-- A member begins with its name. -/
lemma writeMember_append (depth : Nat) (member : String × Json) (rest : List Char) :
    writeMember depth member ++ rest =
      '"' :: (member.1.toList.flatMap escapeChar ++
        '"' :: ':' :: ' ' :: (write depth member.2 ++ rest)) := by
  have hcolon : ": ".toList = [':', ' '] := rfl
  rw [writeMember, writeString, hcolon]
  simp only [List.append_assoc, List.cons_append, List.nil_append]

lemma length_writeMember (depth : Nat) (member : String × Json) :
    (write depth member.2).length + 4 ≤ (writeMember depth member).length := by
  have h := congrArg List.length (writeMember_append depth member [])
  simp only [List.append_nil, List.length_cons, List.length_append] at h
  omega

/-- The members of an object are read back up to its brace. -/
lemma readMembers_write {member : String × Json} {members : List (String × Json)}
    {depth fuel : Nat} (h : ∀ m ∈ member :: members, m.2.IsReadBack)
    (hf : (writeMember depth member).length + (writeMembers depth members).length < fuel)
    (above : Nat) (rest : List Char) :
    readMembers fuel (writeMember depth member ++
        (writeMembers depth members ++ (newline above ++ '\x7d' :: rest))) =
      .ok ((member :: members).map fun m => (.whole m.1, m.2), rest) := by
  induction members generalizing member fuel with
  | nil =>
    cases fuel with
    | zero => omega
    | succ fuel =>
      have hmember := h member (by simp)
      have hlen := length_writeMember depth member
      rw [writeMember_append, readMembers, readString_flatMap]
      simp only
      rw [skip_cons (by decide)]
      simp only
      rw [skip, List.dropWhile_cons_of_pos (by decide), ← skip, hmember.skip,
        hmember.reads depth fuel _ rfl (by omega), writeMembers, List.nil_append]
      simp only [bind, Except.bind]
      rw [skip_newline, skip_cons (by decide), MemberName.ofPoints_toList]
      rfl
  | cons next members ih =>
    cases fuel with
    | zero => omega
    | succ fuel =>
      have hmember := h member (by simp)
      have hlen := length_writeMember depth member
      have hnext (rest : List Char) :
          skip (writeMember depth next ++ rest) = writeMember depth next ++ rest := by
        rw [writeMember_append, skip_cons (by decide)]
      rw [writeMembers_cons] at hf ⊢
      simp only [List.cons_append, List.append_assoc, List.length_cons, List.length_append] at hf ⊢
      rw [writeMember_append, readMembers, readString_flatMap]
      simp only
      rw [skip_cons (by decide)]
      simp only
      rw [skip, List.dropWhile_cons_of_pos (by decide), ← skip, hmember.skip,
        hmember.reads depth fuel _ rfl (by omega)]
      simp only [bind, Except.bind]
      rw [skip_cons (by decide)]
      simp only
      rw [skip_newline, hnext,
        ih (fun m hm => h m (List.mem_cons_of_mem _ hm)) (by omega), MemberName.ofPoints_toList]
      rfl

lemma IsReadBack.list {items : List Json} (h : ∀ item ∈ items, item.IsReadBack) :
    (Json.list items).IsReadBack where
  begins depth := by
    cases items with
    | nil => exact ⟨'[', _, rfl, by decide, by decide⟩
    | cons item items =>
      exact ⟨_, _, write_list_cons _ _ _, by decide, by decide⟩
  reads depth fuel rest _ hf := by
    cases fuel with
    | zero => cases items <;> cases hf
    | succ fuel =>
      cases items with
      | nil => rfl
      | cons item items =>
        rw [write_list_cons] at hf ⊢
        simp only [List.cons_append, List.append_assoc, List.length_cons, List.length_append]
          at hf ⊢
        have hitem := h item (by simp)
        obtain ⟨c, cs, hcs, -, hne⟩ := hitem.begins (depth + 1)
        rw [readValue, if_neg (by decide), if_pos rfl, skip_newline, hitem.skip]
        split
        · rename_i hclose
          rw [hcs] at hclose
          cases hclose
          exact absurd rfl hne
        · rw [List.nil_append, readItems_write h (by omega)]
          rfl

/-- An object is written member by member. -/
lemma write_object_cons (depth : Nat) (member : String × Json) (members : List (String × Json)) :
    write depth (.object (member :: members)) =
      '\x7b' :: (newline (depth + 1) ++ (writeMember (depth + 1) member ++
        (writeMembers (depth + 1) members ++ (newline depth ++ ['\x7d'])))) := by
  obtain ⟨name, value⟩ := member
  have hwrite : write depth (.object ((name, value) :: members)) =
      '\x7b' :: newline (depth + 1) ++ writeString name ++ ": ".toList ++ write (depth + 1) value
        ++ writeMembers (depth + 1) members ++ newline depth ++ ['\x7d'] := rfl
  rw [hwrite, writeMember]
  simp only [List.append_assoc, List.cons_append]

lemma IsReadBack.object {members : List (String × Json)} (hnames : (Pairs.names members).Nodup)
    (h : ∀ member ∈ members, member.2.IsReadBack) : (Json.object members).IsReadBack where
  begins depth := by
    cases members with
    | nil => exact ⟨'\x7b', _, rfl, by decide, by decide⟩
    | cons member members =>
      exact ⟨_, _, write_object_cons _ _ _, by decide, by decide⟩
  reads depth fuel rest _ hf := by
    cases fuel with
    | zero => cases members <;> cases hf
    | succ fuel =>
      cases members with
      | nil => rfl
      | cons member members =>
        have hwrite : write depth (.object (member :: members)) ++ rest =
            '\x7b' :: (newline (depth + 1) ++ (writeMember (depth + 1) member ++
              (writeMembers (depth + 1) members ++ (newline depth ++ '\x7d' :: rest)))) := by
          rw [write_object_cons]
          simp only [List.cons_append, List.append_assoc, List.nil_append]
        have hlen := congrArg List.length hwrite
        simp only [List.length_append, List.length_cons] at hlen
        have hskip (rest : List Char) : Json.skip (writeMember (depth + 1) member ++ rest) =
            writeMember (depth + 1) member ++ rest := by
          rw [writeMember_append, skip_cons (by decide)]
        rw [hwrite, readValue, if_neg (by decide), if_neg (by decide), if_pos rfl, skip_newline,
          hskip]
        split
        · rename_i hclose
          rw [writeMember_append] at hclose
          cases hclose
        · rw [readMembers_write h (by omega)]
          simp only [bind, Except.bind]
          rw [ofMembers_whole, Pairs.ofList_of_nodup hnames]
          rfl

/-- A value without numbers is read back. -/
lemma IsTextual.isReadBack {value : Json} (h : value.IsTextual) : value.IsReadBack := by
  induction h with
  | null => exact .word (fun _ => rfl) (by decide) (by decide) fun _ _ => rfl
  | truth value =>
    cases value with
    | true => exact .word (fun _ => rfl) (by decide) (by decide) fun _ _ => rfl
    | false => exact .word (fun _ => rfl) (by decide) (by decide) fun _ _ => rfl
  | text value => exact .text value
  | list _ ih => exact .list ih
  | object hnames _ ih => exact .object hnames ih

/-- A file of a value that is read back is read as this value. -/
lemma IsReadBack.read_print {value : Json} (h : value.IsReadBack) :
    read value.print = .ok value := by
  have hskip := h.skip 0 ['\n']
  unfold Json.read print
  dsimp only
  rw [String.toList_ofList, hskip, h.reads 0 _ _ rfl (by rw [List.length_append]; omega)]
  rfl

/-- A file of a value without numbers is read as this value. -/
theorem read_print {value : Json} (h : value.IsTextual) : read value.print = .ok value :=
  h.isReadBack.read_print

end SheetCompiler.Json
