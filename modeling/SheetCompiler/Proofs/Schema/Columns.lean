import SheetCompiler.Schema.Header
import Mathlib.Tactic.Lemma
import Mathlib.Data.List.Nodup

/-!
# Columns and their keys

What an accepted header says of its columns. Names are distinct, but cells are stored under keys,
and the key of a reference is its name behind a mark. So two columns meet in one key where the one
that is no reference has the name of the reference behind the mark (`Meet`), and only there.

Main statements:

* `isRead_of_readColumns`: every column is what its two header cells describe;
* `IsRead.typeChars`: its type has words and points;
* `nodup_keys_iff`: when the keys are distinct.
-/

namespace SheetCompiler

open SheetCompiler.Text

/-- What is found without a fault is the result. -/
lemma Scan.result_eq_ok {α : Type} {scan : Scan α} {found : List α} :
    scan.result = .ok found ↔ scan.fault = none ∧ scan.found = found := by
  unfold Scan.result
  cases scan.fault <;> simp

/-- A name that passes is not blank, begins with no digit and is new. -/
lemma checkName_eq_ok {what : String} {seen : List String} {name : String}
    (h : checkName what seen name = .ok ()) :
    name ∉ seen ∧ ∃ c cs, name.toList = c :: cs ∧ isDigit c = false := by
  unfold checkName at h
  cases hn : name.toList with
  | nil => simp [hn] at h
  | cons c cs =>
    rw [hn] at h
    dsimp only at h
    split at h
    · cases h
    · split at h
      · cases h
      · rename_i hd hs
        exact ⟨by simpa using hs, c, cs, rfl, by simpa using hd⟩

/-- What a scan finds comes from distinct names that have not been seen before, each with what was
made of it. -/
lemma scanCells_eq_ok {α : Type} {sheet : Sheet} {row : Nat} {visit : Nat → String → Except Fault α}
    {indices : List Nat} {seen : List String} {found : List α}
    (h : (scanCells sheet row visit indices seen).result = .ok found) :
    ∃ places : List Nat, places.Sublist indices ∧
      (places.map fun i => normalize (sheet.cell row i)).Nodup ∧
      (∀ i ∈ places, normalize (sheet.cell row i) ∉ seen) ∧
      List.Forall₂ (fun i a => visit i (normalize (sheet.cell row i)) = .ok a) places found := by
  induction indices generalizing seen found with
  | nil =>
    obtain ⟨-, rfl⟩ := Scan.result_eq_ok.1 h
    exact ⟨[], List.nil_sublist _, by simp, by simp, .nil⟩
  | cons index indices ih =>
    rw [scanCells] at h
    split at h
    · obtain ⟨places, hp, hn, hs, hf⟩ := ih h
      exact ⟨places, hp.cons index, hn, hs, hf⟩
    · split at h
      · obtain ⟨-, rfl⟩ := Scan.result_eq_ok.1 h
        exact ⟨[], List.nil_sublist _, by simp, by simp, .nil⟩
      · cases hc : checkName columnName seen (normalize (sheet.cell row index)) with
        | error fault => rw [hc] at h; cases h
        | ok u =>
          rw [hc] at h
          cases hv : visit index (normalize (sheet.cell row index)) with
          | error fault => rw [hv] at h; cases h
          | ok a =>
            rw [hv] at h
            obtain ⟨hfault, hfound⟩ := Scan.result_eq_ok.1 h
            obtain ⟨places, hp, hn, hs, hf⟩ := ih (Scan.result_eq_ok.2 ⟨hfault, rfl⟩)
            refine ⟨index :: places, hp.cons_cons index, ?_, ?_, ?_⟩
            · rw [List.map_cons, List.nodup_cons]
              refine ⟨fun hm => ?_, hn⟩
              obtain ⟨i, hi, he⟩ := List.mem_map.1 hm
              exact hs i hi (by simp [he])
            · intro i hi
              rcases List.mem_cons.1 hi with rfl | hi
              · exact (checkName_eq_ok hc).1
              · exact fun hm => hs i hi (List.mem_cons_of_mem _ hm)
            · rw [← hfound]
              exact .cons hv hf

/-! ## Accepted columns -/

/-- A column is what its two header cells describe: its name is an identifier, and its type
exists. -/
structure Column.IsRead (sheet : Sheet) (resolver : Resolver) (c : Column) : Prop where
  header : c = Column.ofHeader c.index (sheet.cell 0 c.index) (sheet.cell 1 c.index)
  identifier : isIdentifier c.name = true
  typeExists : c.typeExists resolver = true

lemma isRead_of_visitColumn {sheet : Sheet} {resolver : Resolver} {index : Nat} {name : String}
    {c : Column} (h : visitColumn sheet resolver index name = .ok c) :
    c.IsRead sheet resolver ∧ c.index = index := by
  unfold visitColumn at h
  dsimp only at h
  split at h
  · cases h
  · split at h
    · cases h
    · rename_i hn ht
      cases h
      exact ⟨⟨rfl, by simpa using hn, by simpa using ht⟩, rfl⟩

/-- The columns of an accepted header stand behind the ID column, from left to right, under distinct
names that are not that of the ID column. -/
theorem isRead_of_readColumns {sheet : Sheet} {resolver : Resolver} {columns : List Column}
    (h : readColumns sheet resolver = .ok columns) :
    (∀ c ∈ columns, c.IsRead sheet resolver ∧ c.name ≠ idName) ∧
      (columns.map Column.name).Nodup ∧
      (columns.map Column.index).Sublist (List.range' 1 (sheet.rowWidth 0 - 1)) := by
  unfold readColumns scanColumns at h
  split at h
  · obtain ⟨places, hp, hn, hs, hf⟩ := scanCells_eq_ok h
    have hread : List.Forall₂ (fun i c => c.IsRead sheet resolver ∧ c.index = i) places columns :=
      hf.imp fun _ _ hv => isRead_of_visitColumn hv
    have hname {i : Nat} {c : Column} (hc : c.IsRead sheet resolver ∧ c.index = i) :
        normalize (sheet.cell 0 i) = c.name := by
      rw [← hc.2]
      exact (congrArg Column.name hc.1.header).symm
    have hnames : (places.map fun i => normalize (sheet.cell 0 i)) = columns.map Column.name := by
      refine List.forall₂_eq_eq_eq ▸ List.forall₂_map_left_iff.2 (List.forall₂_map_right_iff.2 ?_)
      exact hread.imp fun _ _ hc => hname hc
    have hindices : places = columns.map Column.index := by
      refine List.forall₂_eq_eq_eq ▸ List.forall₂_map_right_iff.2 ?_
      exact hread.imp fun _ _ hc => hc.2.symm
    refine ⟨fun c hc => ?_, hnames ▸ hn, hindices ▸ hp⟩
    obtain ⟨i, hi, hic⟩ : ∃ i ∈ places, c.IsRead sheet resolver ∧ c.index = i := by
      obtain ⟨k, hk, rfl⟩ := List.getElem_of_mem hc
      have hk' : k < places.length := hread.length_eq ▸ hk
      exact ⟨places[k], List.getElem_mem hk', hread.get hk' hk⟩
    refine ⟨hic.1, fun he => hs i hi ?_⟩
    rw [hname hic, he]
    simp
  · cases h

/-! ## Type tokens -/

/-- Whether a character may stand in a type token. -/
def isTokenChar (c : Char) : Bool := isWord c || decide (c = '.')

lemma mem_splitOn_or_eq (sep : Char) {c : Char} {cs : List Char} (h : c ∈ cs) :
    (∃ piece ∈ splitOn sep cs, c ∈ piece) ∨ c = sep := by
  induction cs with
  | nil => cases h
  | cons d cs ih =>
    rw [splitOn]
    split
    · rename_i hd
      rcases List.mem_cons.1 h with rfl | h
      · exact .inr hd
      · refine (ih h).imp (fun hpiece => ?_) id
        obtain ⟨piece, hp, hc⟩ := hpiece
        exact ⟨piece, List.mem_cons_of_mem _ hp, hc⟩
    · split
      · rename_i hnone
        exact absurd hnone (splitOn_ne_nil _ _)
      · rename_i first rest hsplit
        rcases List.mem_cons.1 h with rfl | h
        · exact .inl ⟨_, List.mem_cons_self, List.mem_cons_self⟩
        · refine (ih h).imp (fun hpiece => ?_) id
          obtain ⟨piece, hp, hc⟩ := hpiece
          rw [hsplit] at hp
          rcases List.mem_cons.1 hp with rfl | hp
          · exact ⟨_, List.mem_cons_self, List.mem_cons_of_mem _ hc⟩
          · exact ⟨piece, List.mem_cons_of_mem _ hp, hc⟩

/-- The characters of a token are words and the points between them, and there are some. -/
theorem TypeToken.chars_of_classify {token : String} (h : TypeToken.classify token ≠ .invalid) :
    token ≠ "" ∧ ∀ d ∈ token.toList, isTokenChar d = true := by
  rw [TypeToken.classify] at h
  split at h
  · rename_i hprimitive
    obtain ⟨p, hp⟩ := Option.isSome_iff_exists.1 hprimitive
    rw [← Primitive.name_of_ofName? hp]
    cases p <;> decide
  · split at h
    · exact absurd rfl h
    · rename_i hform
      rw [Bool.not_eq_true', Bool.not_eq_false, TypeToken.isWellFormed, List.all_eq_true] at hform
      refine ⟨?_, fun d hd => ?_⟩
      · rintro rfl
        exact absurd (hform [] (by decide)) (by decide)
      · rcases mem_splitOn_or_eq '.' hd with ⟨piece, hpiece, hmem⟩ | rfl
        · have hpart := hform piece hpiece
          cases piece with
          | nil => cases hmem
          | cons e piece =>
            rw [TypeToken.isPart, Bool.and_eq_true, Bool.and_eq_true] at hpart
            rw [isTokenChar, Bool.or_eq_true]
            refine .inl ?_
            rcases List.mem_cons.1 hmem with rfl | hmem
            · -- an ASCII letter and an underscore are words
              rw [isWord, if_pos hpart.1.1]
              have hletter := hpart.1.2
              rw [Bool.or_eq_true] at hletter ⊢
              exact hletter.imp (fun halpha => by rw [Char.isAlphanum, halpha, Bool.true_or]) id
            · exact List.all_eq_true.1 hpart.2 d hmem
        · rfl

lemma Column.IsRead.classify_ne_invalid {sheet : Sheet} {resolver : Resolver} {c : Column}
    (h : c.IsRead sheet resolver) : TypeToken.classify c.type ≠ .invalid := by
  intro hkind
  have hexists := h.typeExists
  rw [Column.typeExists, Column.kind, hkind] at hexists
  cases hexists

lemma Column.IsRead.typeChars {sheet : Sheet} {resolver : Resolver} {c : Column}
    (h : c.IsRead sheet resolver) :
    c.type ≠ "" ∧ ∀ d ∈ c.type.toList, isTokenChar d = true :=
  TypeToken.chars_of_classify h.classify_ne_invalid

/-! ## Keys -/

/-- Two columns of different names meet in one key: the other one has the name of a reference behind
its mark. -/
def Column.Meet (a b : Column) : Prop :=
  a.isReference = true ∧ b.isReference = false ∧ b.name = Column.referenceMark ++ a.name

lemma Column.key_of_isReference {c : Column} (h : c.isReference = true) :
    c.key = Column.referenceMark ++ c.name := by
  rw [key, if_pos h]

lemma Column.key_of_not_isReference {c : Column} (h : c.isReference = false) : c.key = c.name := by
  rw [key, h, if_neg Bool.false_ne_true]

/-- Columns have one key if they have one name and are of one sort, or if they meet. -/
lemma Column.key_eq_key_iff {a b : Column} :
    a.key = b.key ↔
      (a.name = b.name ∧ a.isReference = b.isReference) ∨ a.Meet b ∨ b.Meet a := by
  have hmark (s : String) : Column.referenceMark ++ s ≠ s := by
    intro hs
    have := congrArg String.length hs
    simp [Column.referenceMark, String.length_append] at this
  cases ha : a.isReference <;> cases hb : b.isReference
  · simp [key_of_not_isReference ha, key_of_not_isReference hb, Meet, ha, hb]
  · simp [key_of_not_isReference ha, key_of_isReference hb, Meet, ha, hb]
  · simp [key_of_isReference ha, key_of_not_isReference hb, Meet, ha, hb, eq_comm]
  · simp [key_of_isReference ha, key_of_isReference hb, Meet, ha, hb]

/-- No key is that of the ID. -/
lemma Column.key_ne_idName {c : Column} (h : c.name ≠ idName) : c.key ≠ idName := by
  cases hc : c.isReference
  · rwa [key_of_not_isReference hc]
  · rw [key_of_isReference hc]
    intro hk
    have := congrArg String.toList hk
    simp [Column.referenceMark, idName] at this

lemma idName_not_mem_keys {sheet : Sheet} {resolver : Resolver} {columns : List Column}
    (h : readColumns sheet resolver = .ok columns) : idName ∉ columns.map Column.key := by
  obtain ⟨hread, -, -⟩ := isRead_of_readColumns h
  intro hm
  obtain ⟨c, hc, hk⟩ := List.mem_map.1 hm
  exact Column.key_ne_idName (hread c hc).2 hk

/-- Columns of distinct names have distinct keys exactly if no two of them meet. -/
theorem nodup_keys_iff {columns : List Column} (h : (columns.map Column.name).Nodup) :
    (columns.map Column.key).Nodup ↔ ∀ a ∈ columns, ∀ b ∈ columns, ¬ a.Meet b := by
  have hinj := List.inj_on_of_nodup_map h
  constructor
  · intro hk a ha b hb hm
    have hab := List.inj_on_of_nodup_map hk ha hb (Column.key_eq_key_iff.2 (.inr (.inl hm)))
    have := hm.1
    rw [hab, hm.2.1] at this
    cases this
  · intro hm
    refine List.Nodup.map_on (fun a ha b hb hab => ?_) h.of_map
    rcases Column.key_eq_key_iff.1 hab with hn | hn | hn
    · exact hinj ha hb hn.1
    · exact absurd hn (hm a ha b hb)
    · exact absurd hn (hm b hb a ha)

end SheetCompiler
