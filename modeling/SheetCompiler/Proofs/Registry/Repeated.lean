import SheetCompiler.Proofs.Stateful
import SheetCompiler.Registry.Basic
import Mathlib.Data.List.Induction

/-!
# Records of repeated IDs

A data file may list an ID more than once. Of such records the last one counts, in the place of the
first: an ID is given once, where it comes first, and finds the cells of the last record that has
it. Values that are equal are the same ID, and so is what is no number with itself; sameness of keys
is thereby an equivalence (`Json.isSameKey_iff`), which is what makes the place of an ID its own.

Main statements:

* `isIndexOf_foldl_putRecord`: what is kept of the records that a data file lists;
* `isReading_readRecords`: which data files can be read, and what the records are then.
-/

namespace SheetCompiler

open SheetCompiler.Number

namespace Json

/-! ## Sameness of keys -/

/-- What keys have in common that are the same: the integer that they stand for, if they do. -/
def keyForm (a : Json) : Json :=
  match a.integer? with
  | some i => .integer i
  | none => a

lemma keyForm_of_some {a : Json} {i : Int} (h : a.integer? = some i) : a.keyForm = .integer i := by
  rw [keyForm, h]

lemma keyForm_of_none {a : Json} (h : a.integer? = none) : a.keyForm = a := by
  rw [keyForm, h]

/-- What stands for no integer is no integer. -/
lemma ne_integer_of_none {a : Json} (h : a.integer? = none) (i : Int) : a ≠ .integer i := by
  rintro rfl
  cases h

/-- Keys are the same if they are equal, unless neither is a number. -/
lemma isSameKey_of_ne_nan {a b : Json} (ha : a.isKey = true)
    (h : a ≠ .real .nan ∨ b ≠ .real .nan) : a.isSameKey b = a.equalScalar b := by
  unfold isSameKey
  split
  · exact (h.elim (· rfl) (· rfl)).elim
  · unfold equal
    split
    · cases ha
    · cases ha
    · cases ha
    · rfl

/-- Values that stand for no integers are the same key if they are one value. -/
lemma isSameKey_iff_of_none {a b : Json} (ha : a.isKey = true)
    (hna : a.integer? = none) (hnb : b.integer? = none) : a.isSameKey b = true ↔ a = b := by
  by_cases hnan : a = .real .nan ∧ b = .real .nan
  · obtain ⟨rfl, rfl⟩ := hnan
    exact iff_of_true rfl rfl
  rw [isSameKey_of_ne_nan ha (not_and_or.1 hnan)]
  unfold equalScalar
  rw [hna, hnb]
  dsimp only
  split
  · simp
  · exact absurd ⟨rfl, rfl⟩ hnan
  · simp
  · simp
  · simp
  · -- two values of different kinds, or none of them a null, a number or a text
    rename_i hnull _ hreal htext hbroken
    refine iff_of_false Bool.false_ne_true ?_
    rintro rfl
    cases a with
    | null => exact hnull rfl rfl
    | real x => exact hreal x x rfl rfl
    | text s => exact htext s s rfl rfl
    | broken s => exact hbroken s s rfl rfl
    | truth value => cases hna
    | integer value => cases hna
    | list items => cases ha
    | object members => cases ha
    | brokenObject members => cases ha

/-- Keys of which one stands for an integer are the same if they are equal. -/
lemma isSameKey_eq_equalScalar {a b : Json} (ha : a.isKey = true)
    (hn : a.integer? ≠ none ∨ b.integer? ≠ none) : a.isSameKey b = a.equalScalar b := by
  refine isSameKey_of_ne_nan ha (hn.imp ?_ ?_)
  · rintro hnone rfl
    exact hnone rfl
  · rintro hnone rfl
    exact hnone rfl

/-- Keys are the same if they stand for the same integer, or are one value that stands for none. -/
theorem isSameKey_iff {a b : Json} (ha : a.isKey = true) :
    a.isSameKey b = true ↔ a.keyForm = b.keyForm := by
  cases hia : a.integer? with
  | none =>
    rw [keyForm_of_none hia]
    cases hib : b.integer? with
    | none => rw [keyForm_of_none hib, isSameKey_iff_of_none ha hia hib]
    | some j =>
      rw [keyForm_of_some hib, isSameKey_eq_equalScalar ha (.inr (by simp [hib]))]
      unfold equalScalar
      rw [hia, hib]
      simpa using ne_integer_of_none hia j
  | some i =>
    rw [keyForm_of_some hia, isSameKey_eq_equalScalar ha (.inl (by simp [hia]))]
    unfold equalScalar
    cases hib : b.integer? with
    | none =>
      rw [keyForm_of_none hib, hia]
      simpa using (ne_integer_of_none hib i).symm
    | some j =>
      rw [keyForm_of_some hib, hia]
      simp

lemma isSameKey_comm {a b : Json} (ha : a.isKey = true) (hb : b.isKey = true) :
    a.isSameKey b = b.isSameKey a := by
  rw [Bool.eq_iff_iff, isSameKey_iff ha, isSameKey_iff hb, eq_comm]

/-- The same key is the same as the same others. -/
lemma isSameKey_congr {a b : Json} (ha : a.isKey = true) (hb : b.isKey = true)
    (h : a.isSameKey b = true) (c : Json) : a.isSameKey c = b.isSameKey c := by
  rw [Bool.eq_iff_iff, isSameKey_iff ha, isSameKey_iff hb, (isSameKey_iff ha).1 h]

end Json

namespace Registry

/-! ## Records put among others -/

/-- What is kept of the records that a data file lists: one for each ID, in the place of the first
and with the cells of the last that has it. -/
structure IsIndexOf (listed records : List StoredRecord) : Prop where
  ids : records.map StoredRecord.key =
    (listed.map StoredRecord.key).eraseDupsBy Json.isSameKey
  found : ∀ id : Json, id.isKey = true →
    (findRecord? records id).map StoredRecord.cells =
      (listed.findRev? fun record => record.key.isSameKey id).map StoredRecord.cells

variable {record : StoredRecord} {records listed : List StoredRecord}

/-- A record keeps the IDs as they are unless its own is new. -/
lemma keys_putRecord (record : StoredRecord) (records : List StoredRecord) :
    (putRecord record records).map StoredRecord.key =
      if (records.map StoredRecord.key).any fun key => key.isSameKey record.key then
        records.map StoredRecord.key
      else records.map StoredRecord.key ++ [record.key] := by
  induction records with
  | nil => rfl
  | cons other records ih =>
    rw [putRecord, List.map_cons, List.any_cons]
    by_cases hsame : other.key.isSameKey record.key = true
    · rw [if_pos hsame, hsame, Bool.true_or, if_pos rfl, List.map_cons]
    · rw [if_neg hsame, List.map_cons, ih, Bool.eq_false_iff.2 hsame, Bool.false_or,
        apply_ite (other.key :: ·), List.cons_append]

lemma isKey_putRecord (h : ∀ other ∈ records, other.key.isKey = true)
    (hrecord : record.key.isKey = true) :
    ∀ other ∈ putRecord record records, other.key.isKey = true := by
  intro other hother
  have hkey : other.key ∈ (putRecord record records).map StoredRecord.key :=
    List.mem_map_of_mem hother
  have hold : other.key ∈ records.map StoredRecord.key → other.key.isKey = true := by
    intro hmem
    obtain ⟨before, hbefore, heq⟩ := List.mem_map.1 hmem
    rw [← heq]
    exact h before hbefore
  rw [keys_putRecord] at hkey
  split_ifs at hkey
  · exact hold hkey
  · rcases List.mem_append.1 hkey with hmem | hmem
    · exact hold hmem
    · rw [List.mem_singleton.1 hmem]
      exact hrecord

/-- A record is found by its own ID, and every other ID finds what it has found. -/
lemma findRecord?_putRecord (h : ∀ other ∈ records, other.key.isKey = true)
    (hrecord : record.key.isKey = true) {id : Json} (hid : id.isKey = true) :
    (findRecord? (putRecord record records) id).map StoredRecord.cells =
      if record.key.isSameKey id = true then some record.cells
      else (findRecord? records id).map StoredRecord.cells := by
  unfold findRecord?
  induction records with
  | nil =>
    rw [putRecord, List.find?_singleton]
    split_ifs <;> rfl
  | cons other records ih =>
    obtain ⟨hother, hrest⟩ := List.forall_mem_cons.1 h
    rw [putRecord]
    by_cases hsame : other.key.isSameKey record.key = true
    · have hid' := Json.isSameKey_congr hother hrecord hsame id
      rw [if_pos hsame, List.find?_cons, List.find?_cons, hid']
      cases record.key.isSameKey id <;> rfl
    · rw [if_neg hsame, List.find?_cons, List.find?_cons]
      cases hfound : other.key.isSameKey id with
      | false => exact ih hrest
      | true =>
        -- the ID is that of another record, so it is not that of this one
        have hne : record.key.isSameKey id ≠ true := by
          intro hboth
          rw [Json.isSameKey_comm hrecord hid] at hboth
          exact hsame ((Json.isSameKey_congr hother hid hfound record.key).trans hboth)
        rw [if_neg hne]

lemma isKey_foldl_putRecord (h : ∀ record ∈ listed, record.key.isKey = true)
    (hrecords : ∀ record ∈ records, record.key.isKey = true) :
    ∀ record ∈ listed.foldl (fun acc record => putRecord record acc) records,
      record.key.isKey = true := by
  induction listed generalizing records with
  | nil => exact hrecords
  | cons record listed ih =>
    obtain ⟨hrecord, hrest⟩ := List.forall_mem_cons.1 h
    exact ih hrest (isKey_putRecord hrecords hrecord)

/-- Put among others, records add their IDs where these come first. The induction is on what is
still to be put; the IDs so far are those that are no longer looked for. -/
lemma keys_foldl_putRecord (h : ∀ record ∈ listed, record.key.isKey = true)
    (hrecords : ∀ record ∈ records, record.key.isKey = true) :
    (listed.foldl (fun acc record => putRecord record acc) records).map StoredRecord.key =
      List.eraseDupsBy.loop Json.isSameKey (listed.map StoredRecord.key)
        (records.map StoredRecord.key).reverse := by
  induction listed generalizing records with
  | nil => exact (List.reverse_reverse _).symm
  | cons record listed ih =>
    obtain ⟨hrecord, hrest⟩ := List.forall_mem_cons.1 h
    have hany : (records.map StoredRecord.key).reverse.any record.key.isSameKey =
        (records.map StoredRecord.key).any fun key => key.isSameKey record.key := by
      rw [List.any_reverse, Bool.eq_iff_iff, List.any_eq_true, List.any_eq_true]
      refine exists_congr fun key => and_congr_right fun hkey => ?_
      obtain ⟨other, hother, rfl⟩ := List.mem_map.1 hkey
      rw [Json.isSameKey_comm hrecord (hrecords other hother)]
    rw [List.foldl_cons, ih hrest (isKey_putRecord hrecords hrecord), keys_putRecord,
      List.map_cons, List.eraseDupsBy.loop, hany]
    cases (records.map StoredRecord.key).any fun key => key.isSameKey record.key with
    | true => rfl
    | false => rw [if_neg Bool.false_ne_true, List.reverse_append, List.reverse_singleton,
        List.singleton_append]

/-- Records put one after the other are kept as the index of all of them. -/
theorem isIndexOf_foldl_putRecord (h : ∀ record ∈ listed, record.key.isKey = true) :
    IsIndexOf listed (listed.foldl (fun acc record => putRecord record acc) []) := by
  refine ⟨keys_foldl_putRecord h (by simp), fun id hid => ?_⟩
  induction listed using List.reverseRecOn with
  | nil => rfl
  | append_singleton listed record ih =>
    have hlisted : ∀ other ∈ listed, other.key.isKey = true :=
      fun other hother => h other (List.mem_append_left _ hother)
    have hrecord : record.key.isKey = true := h record (by simp)
    rw [List.foldl_append, List.foldl_cons, List.foldl_nil,
      findRecord?_putRecord (isKey_foldl_putRecord hlisted (by simp)) hrecord hid, ih hlisted,
      List.findRev?_eq_find?_reverse, List.findRev?_eq_find?_reverse, List.reverse_append,
      List.reverse_singleton, List.singleton_append, List.find?_cons]
    cases record.key.isSameKey id <;> rfl

/-! ## Data files -/

/-- A data file lists records if what one comes to in it are objects that have an ID, which can be
the key of a map. -/
structure Lists (files : FileTree) (path : String) (listed : List StoredRecord) : Prop where
  elements : ∃ text value items, files.readText path = .ok text ∧ Json.read text = .ok value ∧
    value.elements? = some items ∧
      items.map Json.members? = listed.map fun record => some record.cells
  ids : ∀ record ∈ listed, Pairs.get? record.cells idName = some record.key ∧
    record.key.isKey = true

/-- What reading a data file gives: the index of the records that it lists. It fails for a file that
lists none, and for one whose records cannot be made. -/
def IsReading (files : FileTree) (type : RecordType) (path : String) :
    Except Failure (List StoredRecord) → Prop
  | .ok records => ∃ listed, Lists files path listed ∧ IsIndexOf listed records
  | .error _ => ∀ listed, Lists files path listed → listed ≠ [] ∧ type.makingFault? ≠ none

variable {type : RecordType}

lemma recordOf_eq_ok_iff {value : Json} :
    recordOf type value = .ok record ↔ value.members? = some record.cells ∧
      Pairs.get? record.cells idName = some record.key ∧ record.key.isKey = true ∧
        type.makingFault? = none := by
  unfold recordOf
  cases value.members? with
  | some cells =>
    dsimp only
    rw [Option.some.injEq]
    cases hid : Pairs.get? cells idName with
    | none =>
      refine iff_of_false nofun ?_
      rintro ⟨rfl, hsome, -⟩
      cases hid.symm.trans hsome
    | some id =>
      cases hfault : type.makingFault? with
      | some fault => exact iff_of_false nofun fun h => nomatch h.2.2.2
      | none =>
        dsimp only
        split_ifs with hkey
        · constructor
          · rintro ⟨rfl⟩
            exact ⟨rfl, hid, hkey, rfl⟩
          · rintro ⟨rfl, hsome, -, -⟩
            obtain rfl := Option.some.inj (hid.symm.trans hsome)
            rfl
        · refine iff_of_false nofun ?_
          rintro ⟨rfl, hsome, hkey', -⟩
          obtain rfl := Option.some.inj (hid.symm.trans hsome)
          exact hkey hkey'
  | none => exact iff_of_false nofun fun h => nomatch h.1

/-- A data file is read as the index of the records that it lists. -/
theorem isReading_readRecords (files : FileTree) (type : RecordType) (path : String) :
    IsReading files type path (readRecords files type path) := by
  cases hread : readRecords files type path with
  | ok records =>
    obtain ⟨text, htext, hrest⟩ := except_bind_eq_ok.1 hread
    obtain ⟨value, hvalue, hrecords⟩ := except_bind_eq_ok.1 hrest
    rw [mapError_eq_ok] at htext hvalue
    unfold recordsOf at hrecords
    split at hrecords
    · rename_i items hitems
      obtain ⟨listed, hlisted, hdone⟩ := except_bind_eq_ok.1 hrecords
      obtain rfl := Except.ok.inj hdone
      rw [mapM_eq_ok_iff] at hlisted
      have hall : items.map Json.members? = listed.map fun record => some record.cells := by
        rw [← List.forall₂_eq_eq_eq, List.forall₂_map_left_iff, List.forall₂_map_right_iff]
        exact hlisted.imp fun item record h => (recordOf_eq_ok_iff.1 h).1
      have hids : ∀ record ∈ listed, Pairs.get? record.cells idName = some record.key ∧
          record.key.isKey = true := by
        intro record hrecord
        obtain ⟨item, -, h⟩ := exists_mem_of_forall₂ hlisted hrecord
        obtain ⟨-, hid, hkey, -⟩ := recordOf_eq_ok_iff.1 h
        exact ⟨hid, hkey⟩
      exact ⟨listed, ⟨⟨text, value, items, htext, hvalue, hitems, hall⟩, hids⟩,
        isIndexOf_foldl_putRecord fun record hrecord => (hids record hrecord).2⟩
    · cases hrecords
  | error e =>
    rintro listed ⟨⟨text, value, items, htext, hvalue, hitems, hall⟩, hids⟩
    by_contra hmade
    have hrecords : items.mapM (recordOf type) = .ok listed := by
      rw [← List.forall₂_eq_eq_eq, List.forall₂_map_left_iff, List.forall₂_map_right_iff,
        List.forall₂_iff_zip] at hall
      rw [mapM_eq_ok_iff, List.forall₂_iff_zip]
      refine ⟨hall.1, fun {item record} hpair => ?_⟩
      have hrecord := (List.of_mem_zip hpair).2
      refine recordOf_eq_ok_iff.2
        ⟨hall.2 hpair, (hids record hrecord).1, (hids record hrecord).2, ?_⟩
      by_contra hfault
      exact hmade ⟨List.ne_nil_of_mem hrecord, hfault⟩
    have hok : ∃ records, recordsOf type value = .ok records := by
      rw [recordsOf, hitems]
      exact ⟨_, except_bind_eq_ok.2 ⟨listed, hrecords, rfl⟩⟩
    obtain ⟨records, hok⟩ := hok
    have hread' : readRecords files type path = .ok records := except_bind_eq_ok.2
      ⟨text, mapError_eq_ok.2 htext, except_bind_eq_ok.2 ⟨value, mapError_eq_ok.2 hvalue, hok⟩⟩
    cases hread.symm.trans hread'

end Registry

end SheetCompiler
