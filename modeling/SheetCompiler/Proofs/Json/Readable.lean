import SheetCompiler.Proofs.Json.Numeral
import SheetCompiler.Proofs.Table.Rows

/-!
# What the reader gives

The values that can be read from a file: integers without too many digits, numbers of 64 bits, objects
with distinct names. Every value that the reader gives is one of them, and every one of them that is
whole is read back from what is written for it.

Main statements:

* `isReadable_of_read`: a value that is read can be read;
* `IsReadable.isReadBack`: and it is read back from what is written for it, if it is whole.
-/

namespace SheetCompiler.Json

open SheetCompiler.Number SheetCompiler.Stateful SheetCompiler.Text
open SheetCompiler.Script
  (natAbs_signed ne_of_isDigit signed_natAbs toList_toString_int valueOfDigits_toDigits)

/-- Whether a value can be read from a file. -/
inductive IsReadable : Json → Prop
  | null : IsReadable .null
  | truth (value : Bool) : IsReadable (.truth value)
  | integer {value : Int} (h : (Nat.toDigits 10 value.natAbs).length ≤ digitLimit) :
    IsReadable (.integer value)
  | real {value : Binary64} (h : value.IsRepresentable) : IsReadable (.real value)
  | text (value : String) : IsReadable (.text value)
  | list {items : List Json} (h : ∀ item ∈ items, IsReadable item) : IsReadable (.list items)
  | object {members : List (String × Json)} (hnames : (Pairs.names members).Nodup)
    (h : ∀ member ∈ members, IsReadable member.2) : IsReadable (.object members)
  | broken (text : BrokenText) : IsReadable (.broken text)
  | brokenObject {members : List (MemberName × Json)}
    (h : ∀ member ∈ members, IsReadable member.2) : IsReadable (.brokenObject members)

lemma IsTextual.isReadable {value : Json} (h : value.IsTextual) : value.IsReadable := by
  induction h with
  | null => exact .null
  | truth value => exact .truth value
  | text value => exact .text value
  | list _ ih => exact .list ih
  | object hnames _ ih => exact .object hnames ih

/-! ## What is read can be read -/

lemma valueOfDigits_lt (ds : List Char) : valueOfDigits ds < 10 ^ ds.length := by
  induction ds using List.reverseRecOn with
  | nil => decide
  | append_singleton ds c ih =>
    have hdigit : valueOfDigits [c] < 10 := by
      have hc : valueOfDigits [c] = (digitValue? c).getD 0 := by
        rw [valueOfDigits, List.foldl_cons, List.foldl_nil, Nat.mul_zero, Nat.zero_add]
      rw [hc]
      cases h : digitValue? c with
      | none => decide
      | some d => exact digitValue?_lt h
    rw [valueOfDigits_append, List.length_append, List.length_singleton, pow_one, pow_succ]
    omega

lemma isReadable_of_readUnsigned {negative : Bool} {body rest : List Char} {value : Json}
    (h : readUnsigned negative body = .ok (value, rest)) : value.IsReadable := by
  unfold readUnsigned at h
  generalize wholeDigits body = whole at h
  obtain ⟨whole, after⟩ := whole
  dsimp only at h
  generalize pointDigits after = part at h
  obtain ⟨part, after⟩ := part
  generalize exponentDigits after = mark at h
  obtain ⟨mark, after⟩ := mark
  split_ifs at h with hempty hinteger hlong
  · cases h
    refine .integer ?_
    have hless : valueOfDigits whole < 10 ^ digitLimit :=
      (valueOfDigits_lt _).trans_le (Nat.pow_le_pow_right (by decide) (not_lt.1 hlong))
    rw [natAbs_signed]
    exact (Nat.length_toDigits_le_iff (by decide) (by decide)).2 hless
  · cases h
    exact .real (Binary64.isRepresentable_ofDecimal _ _ _)

lemma isReadable_of_readNumber {cs rest : List Char} {value : Json}
    (h : readNumber cs = .ok (value, rest)) : value.IsReadable := by
  have hunsigned : ∃ negative body, readNumber cs = readUnsigned negative body := by
    unfold readNumber
    split
    exact ⟨_, _, rfl⟩
  obtain ⟨negative, body, hread⟩ := hunsigned
  rw [hread] at h
  exact isReadable_of_readUnsigned h

lemma isReadable_of_readNamed? {cs rest : List Char} {value : Json}
    (h : readNamed? cs = some (value, rest)) : value.IsReadable := by
  obtain ⟨⟨word, named⟩, hmem, hword⟩ := List.exists_of_findSome?_eq_some h
  obtain ⟨after, -, heq⟩ := Option.map_eq_some_iff.1 hword
  cases heq
  have hall : ∀ p ∈ namedValues, p.2.IsReadable := by
    rw [namedValues]
    simp only [List.forall_mem_cons]
    exact ⟨.null, .truth _, .truth _, .real trivial, .real trivial, .real trivial, nofun⟩
  exact hall _ hmem

lemma isReadable_ofPoints (points : List Point) : (ofPoints points).IsReadable := by
  unfold ofPoints
  split_ifs
  · exact .broken _
  · exact .text _

lemma mem_wholeMembers {members : List (MemberName × Json)} {member : String × Json}
    (h : member ∈ wholeMembers members) : ∃ m ∈ members, m.2 = member.2 := by
  obtain ⟨m, hm, hname⟩ := List.mem_filterMap.1 h
  obtain ⟨name, -, rfl⟩ := Option.map_eq_some_iff.1 hname
  exact ⟨m, hm, rfl⟩

lemma mem_putMember {name : MemberName} {value : Json} {members : List (MemberName × Json)}
    {member : MemberName × Json} (h : member ∈ putMember name value members) :
    member.2 = value ∨ member ∈ members := by
  induction members with
  | nil =>
    obtain rfl := List.mem_singleton.1 h
    exact .inl rfl
  | cons first rest ih =>
    rw [putMember] at h
    split_ifs at h
    · rcases List.mem_cons.1 h with rfl | hrest
      · exact .inl rfl
      · exact .inr (List.mem_cons_of_mem _ hrest)
    · rcases List.mem_cons.1 h with rfl | hrest
      · exact .inr List.mem_cons_self
      · exact (ih hrest).imp_right (List.mem_cons_of_mem _)

/-- An object of members that can be read can be read, whatever the names are. -/
lemma isReadable_ofMembers {members : List (MemberName × Json)}
    (h : ∀ member ∈ members, member.2.IsReadable) : (ofMembers members).IsReadable := by
  unfold ofMembers
  split_ifs
  · have hnone : (Pairs.names ([] : Pairs Json)).Nodup := List.nodup_nil
    refine .object (Pairs.nodup_names_putAll hnone _) fun member hmember => ?_
    obtain ⟨m, hm, hvalue⟩ :=
      mem_wholeMembers ((Pairs.mem_putAll hmember).resolve_left List.not_mem_nil)
    exact hvalue ▸ h m hm
  · have hfold (more acc : List (MemberName × Json)) (hacc : ∀ member ∈ acc, member.2.IsReadable)
        (hmore : ∀ member ∈ more, member.2.IsReadable) :
        ∀ member ∈ more.foldl (fun acc member => putMember member.1 member.2 acc) acc,
          member.2.IsReadable := by
      induction more generalizing acc with
      | nil => exact hacc
      | cons first more ih =>
        refine ih _ (fun member hmember => ?_) fun m hm => hmore m (List.mem_cons_of_mem _ hm)
        rcases mem_putMember hmember with hvalue | hmember
        · exact hvalue ▸ hmore _ List.mem_cons_self
        · exact hacc member hmember
    exact .brokenObject (hfold members [] (List.forall_mem_nil _) h)

/-- What is read of a value, of the items of a list and of the members of an object. -/
structure ReadsReadable (fuel : Nat) : Prop where
  value : ∀ {cs value rest}, readValue fuel cs = .ok (value, rest) → value.IsReadable
  items : ∀ {cs items rest}, readItems fuel cs = .ok (items, rest) →
    ∀ item ∈ items, item.IsReadable
  members : ∀ {cs members rest}, readMembers fuel cs = .ok (members, rest) →
    ∀ member ∈ members, member.2.IsReadable

lemma ReadsReadable.readValue {fuel : Nat} (h : ReadsReadable fuel) {cs rest : List Char}
    {value : Json} (hread : readValue (fuel + 1) cs = .ok (value, rest)) : value.IsReadable := by
  cases cs with
  | nil =>
    rw [Json.readValue] at hread
    cases hread
  | cons c cs =>
    rw [Json.readValue] at hread
    split_ifs at hread
    · split at hread
      · cases hread
        exact isReadable_ofPoints _
      · cases hread
    · split at hread
      · cases hread
        exact .list (List.forall_mem_nil _)
      · obtain ⟨⟨items, after⟩, hitems, hrest⟩ := except_bind_eq_ok.1 hread
        cases hrest
        exact .list (h.items hitems)
    · split at hread
      · cases hread
        exact .object List.nodup_nil (List.forall_mem_nil _)
      · obtain ⟨⟨members, after⟩, hmembers, hrest⟩ := except_bind_eq_ok.1 hread
        cases hrest
        exact isReadable_ofMembers (h.members hmembers)
    · split at hread
      · rename_i hnamed
        cases hread
        exact isReadable_of_readNamed? hnamed
      · exact isReadable_of_readNumber hread

lemma ReadsReadable.readItems {fuel : Nat} (h : ReadsReadable fuel) {cs rest : List Char}
    {items : List Json} (hread : readItems (fuel + 1) cs = .ok (items, rest)) :
    ∀ item ∈ items, item.IsReadable := by
  rw [Json.readItems] at hread
  obtain ⟨⟨item, after⟩, hitem, hread⟩ := except_bind_eq_ok.1 hread
  dsimp only at hread
  split at hread
  · cases hread
    exact List.forall_mem_singleton.2 (h.value hitem)
  · obtain ⟨⟨items', after'⟩, hitems, hread⟩ := except_bind_eq_ok.1 hread
    cases hread
    exact List.forall_mem_cons.2 ⟨h.value hitem, h.items hitems⟩
  · cases hread

lemma ReadsReadable.readMembers {fuel : Nat} (h : ReadsReadable fuel) {cs rest : List Char}
    {members : List (MemberName × Json)} (hread : readMembers (fuel + 1) cs = .ok (members, rest)) :
    ∀ member ∈ members, member.2.IsReadable := by
  unfold Json.readMembers at hread
  split at hread
  · split at hread
    · cases hread
    · split at hread
      · obtain ⟨⟨value, after⟩, hvalue, hread⟩ := except_bind_eq_ok.1 hread
        dsimp only at hread
        split at hread
        · cases hread
          exact List.forall_mem_singleton.2 (h.value hvalue)
        · obtain ⟨⟨members', after'⟩, hmembers, hread⟩ := except_bind_eq_ok.1 hread
          cases hread
          exact List.forall_mem_cons.2 ⟨h.value hvalue, h.members hmembers⟩
        · cases hread
      · cases hread
  · cases hread

/-- Readers give readable values, however much fuel they have. -/
lemma readsReadable (fuel : Nat) : ReadsReadable fuel := by
  induction fuel with
  | zero =>
    refine ⟨fun h => ?_, fun h => ?_, fun h => ?_⟩
    · rw [Json.readValue] at h
      cases h
    · rw [Json.readItems] at h
      cases h
    · rw [Json.readMembers] at h
      cases h
  | succ fuel ih => exact ⟨ih.readValue, ih.readItems, ih.readMembers⟩

/-- A value that is read can be read. -/
theorem isReadable_of_read {text : String} {value : Json} (h : read text = .ok value) :
    value.IsReadable := by
  unfold read at h
  obtain ⟨⟨value', rest⟩, hvalue, hread⟩ := except_bind_eq_ok.1 h
  dsimp only at hread
  split_ifs at hread
  cases hread
  exact (readsReadable _).value hvalue

/-! ## What can be read is read back -/

lemma dropWord?_append (word : String) (rest : List Char) :
    dropWord? word (word.toList ++ rest) = some rest := by
  rw [dropWord?, if_pos (List.isPrefixOf_iff_prefix.2 (List.prefix_append _ _)), List.drop_left]

lemma dropWord?_eq_none {word : String} {cs : List Char} (h : ¬word.toList <+: cs) :
    dropWord? word cs = none := by
  rw [dropWord?, if_neg fun hprefix => h (List.isPrefixOf_iff_prefix.1 hprefix)]

/-- No name of a value begins with a digit, whether or not a sign is in front. -/
lemma readNamed?_eq_none {cs : List Char} {c : Char} (hc : c.isDigit = true)
    (hcs : (cs.filter (· != '-')).head? = some c) : readNamed? cs = none := by
  have hwords : ∀ p ∈ namedValues,
      (p.1.toList.filter (· != '-')).head?.any (fun d => !d.isDigit) = true := by
    decide
  rw [readNamed?, List.findSome?_eq_none_iff]
  intro p hp
  have hnot : ¬p.1.toList <+: cs := by
    intro hprefix
    have hword := hwords p hp
    -- the name would begin with this digit behind its sign
    obtain ⟨d, ds, hds⟩ := List.exists_cons_of_ne_nil (l := p.1.toList.filter (· != '-'))
      (by rintro hnil; rw [hnil] at hword; cases hword)
    obtain ⟨rest, hrest⟩ := hprefix.filter (· != '-')
    rw [hds] at hword hrest
    rw [← hrest, List.cons_append, List.head?_cons, Option.some.injEq] at hcs
    rw [hcs, List.head?_cons, Option.any_some, hc] at hword
    cases hword
  dsimp only
  rw [dropWord?_eq_none hnot, Option.map_none]

/-- A number begins as no other value. -/
lemma readValue_number {whole : List Char} (negative : Bool) (hwhole : IsWhole whole) (fuel : Nat)
    (rest : List Char) :
    readValue (fuel + 1) ((signText negative).toList ++ (whole ++ rest)) =
      readNumber ((signText negative).toList ++ (whole ++ rest)) := by
  obtain ⟨c, cs, rfl, hc⟩ := hwhole.exists_cons
  have hplain {d : Char} {ds : List Char} (hquote : d ≠ '"') (hlist : d ≠ '[')
      (hobject : d ≠ '\x7b') (hfirst : ((d :: ds).filter (· != '-')).head? = some c) :
      readValue (fuel + 1) (d :: ds) = readNumber (d :: ds) := by
    rw [readValue, if_neg hquote, if_neg hlist, if_neg hobject, readNamed?_eq_none hc hfirst]
  have hminus : (c != '-') = true := bne_iff_ne.2 (ne_of_isDigit hc rfl)
  have hfirst : ((c :: (cs ++ rest)).filter (· != '-')).head? = some c := by
    rw [List.filter_cons_of_pos (by exact hminus), List.head?_cons]
  cases negative with
  | true => exact hplain (by decide) (by decide) (by decide) hfirst
  | false =>
    exact hplain (ne_of_isDigit hc rfl) (ne_of_isDigit hc rfl) (ne_of_isDigit hc rfl) hfirst

/-- What is written with the digits of a number is read back if the number is read from it. -/
lemma IsReadBack.number {value : Json} {text : List Char} (negative : Bool)
    (hwrite : ∀ depth, write depth value = text)
    (hwhole : ∃ whole after, IsWhole whole ∧ text = (signText negative).toList ++ (whole ++ after))
    (hread : ∀ rest, endsValue rest = true → readNumber (text ++ rest) = .ok (value, rest)) :
    value.IsReadBack where
  begins depth := by
    obtain ⟨whole, after, hwhole, rfl⟩ := hwhole
    obtain ⟨c, cs, rfl, hc⟩ := hwhole.exists_cons
    rw [hwrite]
    cases negative with
    | true => exact ⟨'-', _, rfl, by decide, by decide⟩
    | false =>
      refine ⟨c, _, rfl, ?_, ne_of_isDigit hc rfl⟩
      have h₁ := ne_of_isDigit hc (d := ' ') rfl
      have h₂ := ne_of_isDigit hc (d := '\n') rfl
      have h₃ := ne_of_isDigit hc (d := '\t') rfl
      have h₄ := ne_of_isDigit hc (d := '\r') rfl
      simp [isSpace, h₁, h₂, h₃, h₄]
  reads depth fuel rest hends hf := by
    obtain ⟨whole, after, hwhole, rfl⟩ := hwhole
    rw [hwrite] at hf ⊢
    cases fuel with
    | zero =>
      obtain ⟨c, cs, rfl, -⟩ := hwhole.exists_cons
      simp at hf
    | succ fuel =>
      have hnumber := hread rest hends
      rw [List.append_assoc, List.append_assoc] at hnumber ⊢
      rwa [readValue_number negative hwhole]

lemma IsReadBack.integer {value : Int}
    (h : (Nat.toDigits 10 value.natAbs).length ≤ digitLimit) : (Json.integer value).IsReadBack := by
  refine .number _ (fun _ => toList_toString_int value)
    ⟨_, [], isWhole_toDigits _, by rw [List.append_nil]⟩ fun rest hends => ?_
  rw [List.append_assoc, readNumber_integer _ (isWhole_toDigits _) h hends,
    valueOfDigits_toDigits, signed_natAbs]

/-- The names of values begin with different characters, so each is read as its own value. -/
lemma readNamed?_append {word : String} {value : Json} (h : (word, value) ∈ namedValues)
    (rest : List Char) : readNamed? (word.toList ++ rest) = some (value, rest) := by
  have hheads : (namedValues.map fun p => p.1.toList.head?).Nodup := by decide
  have hne : ∀ p ∈ namedValues, p.1.toList ≠ [] := by decide
  have hword := dropWord?_append word rest
  cases hread : readNamed? (word.toList ++ rest) with
  | none =>
    have hnone := List.findSome?_eq_none_iff.1 hread _ h
    dsimp only at hnone
    rw [hword] at hnone
    cases hnone
  | some found =>
    obtain ⟨p, hp, hfound⟩ := List.exists_of_findSome?_eq_some hread
    have hprefix : p.1.toList <+: word.toList ++ rest := by
      by_contra hnot
      dsimp only at hfound
      rw [dropWord?_eq_none hnot] at hfound
      cases hfound
    obtain ⟨more, hmore⟩ := hprefix
    have hhead := congrArg List.head? hmore
    rw [List.head?_append_of_ne_nil _ (hne p hp), List.head?_append_of_ne_nil _ (hne _ h)] at hhead
    obtain rfl := List.inj_on_of_nodup_map hheads hp h hhead
    dsimp only at hfound
    rw [hword] at hfound
    exact hfound.symm

/-- A value that is written as its name is read back. -/
lemma IsReadBack.named {value : Json} {word : String} (h : (word, value) ∈ namedValues)
    (hwrite : ∀ depth, write depth value = word.toList) : value.IsReadBack := by
  have hheads : ∀ p ∈ namedValues, ∃ c cs, p.1.toList = c :: cs ∧
      ¬(isSpace c = true ∨ c = '"' ∨ c = '[' ∨ c = '\x7b' ∨ c = ']') := by
    simp only [namedValues, List.forall_mem_cons]
    exact ⟨⟨_, _, rfl, by decide⟩, ⟨_, _, rfl, by decide⟩, ⟨_, _, rfl, by decide⟩,
      ⟨_, _, rfl, by decide⟩, ⟨_, _, rfl, by decide⟩, ⟨_, _, rfl, by decide⟩, nofun⟩
  obtain ⟨c, cs, hcs, hc⟩ := hheads _ h
  simp only [not_or, Bool.not_eq_true] at hc
  obtain ⟨hspace, hquote, hlist, hobject, hclose⟩ := hc
  refine .word (fun depth => (hwrite depth).trans hcs) hspace hclose fun fuel rest => ?_
  have hread := readNamed?_append h rest
  dsimp only at hcs
  rw [hcs, List.cons_append] at hread
  rw [List.cons_append, readValue, if_neg hquote, if_neg hlist, if_neg hobject, hread]

lemma IsReadBack.real {value : Binary64} (h : value.IsRepresentable) :
    (Json.real value).IsReadBack := by
  cases value with
  | finite negative m e =>
    have hwrite (depth : Nat) : write depth (.real (.finite negative m e)) =
        (signText negative).toList ++ (DecimalStyle.plain.render (shortest m e)).toList :=
      String.toList_append
    obtain ⟨whole, part, mark, hrender, hwhole, -⟩ := denotes_shortest h
    refine .number negative hwrite ⟨whole, _, hwhole, by rw [hrender]⟩ fun rest hends => ?_
    rw [← hwrite 0]
    exact readNumber_writeReal h hends
  | infinite negative =>
    cases negative with
    | true =>
      have hname : ("-Infinity", Json.real (.infinite true)) ∈ namedValues := by simp [namedValues]
      exact .named hname fun _ => rfl
    | false =>
      have hname : ("Infinity", Json.real (.infinite false)) ∈ namedValues := by simp [namedValues]
      exact .named hname fun _ => rfl
  | nan =>
    have hname : ("NaN", Json.real .nan) ∈ namedValues := by simp [namedValues]
    exact .named hname fun _ => rfl

/-- What can be read is read back if it is whole. -/
theorem IsReadable.isReadBack {value : Json} (h : value.IsReadable) (hwhole : value.isWhole = true) :
    value.IsReadBack := by
  induction h with
  | null => exact .word (fun _ => rfl) (by decide) (by decide) fun _ _ => rfl
  | truth value =>
    cases value with
    | true => exact .word (fun _ => rfl) (by decide) (by decide) fun _ _ => rfl
    | false => exact .word (fun _ => rfl) (by decide) (by decide) fun _ _ => rfl
  | integer h => exact .integer h
  | real h => exact .real h
  | text value => exact .text value
  | list _ ih => exact .list fun item hitem => ih item hitem (areWhole_iff.1 hwhole item hitem)
  | object hnames _ ih =>
    exact .object hnames fun member hmember =>
      ih member hmember (areWholeMembers_iff.1 hwhole member hmember)
  | broken text => cases hwhole
  | brokenObject _ _ => cases hwhole

end SheetCompiler.Json
