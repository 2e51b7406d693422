import SheetCompiler.Proofs.Json.Readable
import SheetCompiler.Proofs.Session.Outputs
import SheetCompiler.Proofs.Session.Recorded

/-!
# The text of a manifest

A manifest is what is left of the changes that were made to it: the last change of a name counts.
What changes came before that does not show in its text, which lists the entries by name and gives
them back. A manifest that was not written here, with entries in any order and names that come more
than once, is brought into this form when it is loaded and written for the first time. A text with
half a surrogate pair can be loaded, but no file can hold it: then the file stays as it is.

Main statements:

* `mem_after`: what is left of changes;
* `exists_encodes`: the one text of compilations of texts with different names;
* `loadManifest_of_isRecordedBy`: which files are loaded, and what is kept of their entries;
* `rewrites_of_loadManifest`: what loading a manifest and writing its file does, and does again;
* `manifest_encoding`: all of this together;
* `halfManifest_rewrites`: a manifest that is loaded and cannot be written.
-/

namespace SheetCompiler

open SheetCompiler.Stateful SheetCompiler.FileTree

/-! ## Changes -/

namespace Manifest

/-- A change of a manifest: a compilation is put in, or the one of a name is taken out. -/
inductive Change
  | insert (c : Compilation)
  | erase (name : Json)

namespace Change

/-- The place of the compilation that a change is about. -/
def rank : Change → Json.Rank
  | .insert c => c.rank
  | .erase name => name.rank

/-- The manifest after a change. -/
def apply (m : Manifest) : Change → Manifest
  | .insert c => m.insert c
  | .erase name => m.erase name

/-- A change puts its own compilation in and leaves those of other names. -/
lemma mem_apply {change : Change} {m : Manifest} {c : Compilation} :
    c ∈ (change.apply m).entries ↔
      change = .insert c ∨ c ∈ m.entries ∧ change.rank ≠ c.rank := by
  cases change with
  | insert d =>
    show c ∈ (m.insert d).entries ↔ Change.insert d = .insert c ∨ c ∈ m.entries ∧ d.rank ≠ c.rank
    rw [mem_insert, Change.insert.injEq, eq_comm, ne_comm]
  | erase name =>
    show c ∈ m.entries.filter _ ↔ Change.erase name = .insert c ∨ c ∈ m.entries ∧ name.rank ≠ c.rank
    rw [List.mem_filter, decide_eq_true_eq, ne_comm, or_iff_right nofun]

end Change

/-- The manifest after changes, from one without entries on. -/
def after (changes : List Change) : Manifest := changes.foldl (fun m x => x.apply m) empty

/-- Whether a compilation is left of changes: it is put in, and no later change is of its name. -/
def IsLeft (changes : List Change) (c : Compilation) : Prop :=
  ∃ front back, changes = front ++ .insert c :: back ∧ ∀ x ∈ back, x.rank ≠ c.rank

lemma isLeft_append_singleton {changes : List Change} {x : Change} {c : Compilation} :
    IsLeft (changes ++ [x]) c ↔ x = .insert c ∨ IsLeft changes c ∧ x.rank ≠ c.rank := by
  constructor
  · rintro ⟨front, back, heq, hback⟩
    rcases List.eq_nil_or_concat back with rfl | ⟨back, y, rfl⟩
    · exact .inl (List.append_inj' heq rfl |>.2 |> List.cons.inj |>.1)
    · rw [List.concat_eq_append] at heq hback
      rw [← List.cons_append, ← List.append_assoc] at heq
      obtain ⟨rfl, hxy⟩ := List.append_inj' heq rfl
      obtain rfl := (List.cons.inj hxy).1
      refine .inr ⟨⟨front, back, rfl, fun z hz => hback z (by simp [hz])⟩, hback x (by simp)⟩
  · rintro (rfl | ⟨⟨front, back, rfl, hback⟩, hx⟩)
    · exact ⟨changes, [], rfl, List.forall_mem_nil _⟩
    · refine ⟨front, back ++ [x], by simp, fun y hy => ?_⟩
      rcases List.mem_append.1 hy with hy | hy
      · exact hback y hy
      · rwa [List.mem_singleton.1 hy]

/-- The entries of a manifest are what is left of its changes. -/
theorem mem_after {changes : List Change} {c : Compilation} :
    c ∈ (after changes).entries ↔ IsLeft changes c := by
  induction changes using List.reverseRecOn with
  | nil =>
    refine iff_of_false List.not_mem_nil ?_
    rintro ⟨front, back, heq, -⟩
    simp at heq
  | append_singleton changes x ih =>
    have hlast : after (changes ++ [x]) = x.apply (after changes) := List.foldl_concat ..
    rw [hlast, Change.mem_apply, ih, isLeft_append_singleton]

/-- Compilations that are put in one after the other are a run of changes. -/
lemma ofList_eq_after (compilations : List Compilation) :
    ofList compilations = after (compilations.map .insert) := by
  rw [ofList, after, List.foldl_map]
  rfl

/-- Whether a compilation is the last one of its name. -/
def IsLastIn (compilations : List Compilation) (c : Compilation) : Prop :=
  ∃ front back, compilations = front ++ c :: back ∧ ∀ d ∈ back, d.rank ≠ c.rank

/-- Of compilations that are put in one after the other, the last one of each name is left. -/
lemma mem_ofList {compilations : List Compilation} {c : Compilation} :
    c ∈ (ofList compilations).entries ↔ IsLastIn compilations c := by
  rw [ofList_eq_after, mem_after]
  constructor
  · rintro ⟨front, back, heq, hback⟩
    obtain ⟨front', rest, rfl, rfl, hrest⟩ := List.map_eq_append_iff.1 heq
    obtain ⟨d, back', rfl, hd, rfl⟩ := List.map_eq_cons_iff.1 hrest
    cases hd
    exact ⟨front', back', rfl, fun e he => hback _ (List.mem_map_of_mem he)⟩
  · rintro ⟨front, back, rfl, hback⟩
    refine ⟨front.map .insert, back.map .insert, by simp, fun x hx => ?_⟩
    obtain ⟨d, hd, rfl⟩ := List.mem_map.1 hx
    exact hback d hd

lemma mem_of_mem_ofList {compilations : List Compilation} {c : Compilation}
    (h : c ∈ (ofList compilations).entries) : c ∈ compilations := by
  obtain ⟨front, back, rfl, -⟩ := mem_ofList.1 h
  simp

/-- Of compilations of different names each is left. -/
lemma mem_ofList_of_pairwise {compilations : List Compilation}
    (h : compilations.Pairwise fun c d => c.rank ≠ d.rank) {c : Compilation} :
    c ∈ (ofList compilations).entries ↔ c ∈ compilations := by
  refine ⟨mem_of_mem_ofList, fun hc => ?_⟩
  obtain ⟨front, back, rfl⟩ := List.append_of_mem hc
  have hback := (List.pairwise_cons.1 (List.pairwise_append.1 h).2.1).1
  exact mem_ofList.2 ⟨front, back, rfl, fun d hd => (hback d hd).symm⟩

end Manifest

/-! ## Loading a manifest -/

namespace Action

variable {p q : Project} {place : String}

/-- A manifest that is loaded from a text is that of the compilations that the text records. -/
lemma loadManifest_eq_ok {text : String} (hplace : p.settings.manifest = .text place)
    (hread : p.files.readText place = .ok text) (h : loadManifest.apply p = (.ok (), q)) :
    ∃ value compilations, Json.read text = .ok value ∧
      Manifest.compilationsOf value = .ok compilations ∧
      (∀ c ∈ compilations, c.name.isKey = true) ∧
      ∃ events, q = { p with manifest := .ofList compilations, loaded := p.settings, events } := by
  have hrun := h
  unfold loadManifest at h
  rw [apply_bind, apply_get] at h
  dsimp only at h
  rw [hplace] at h
  cases hvalue : Json.read text with
  | error fault =>
    rw [Manifest.ofFile_of_read_error hread hvalue] at h
    cases h
  | ok value =>
    have hfound := Manifest.ofFile_of_read hread hvalue
    cases hcompilations : Manifest.compilationsOf value with
    | error e =>
      rw [hfound, hcompilations] at h
      cases h
    | ok compilations =>
      rw [hcompilations] at hfound
      have hkeys : ∀ c ∈ compilations, c.name.isKey = true := by
        rw [hfound] at h
        dsimp only [Except.map] at h
        obtain ⟨_, _, -, hkept⟩ := apply_bind_eq_ok.1 h
        split at hkept
        · rename_i hall
          exact List.all_eq_true.1 hall
        · cases hkept
      obtain ⟨events, hloaded⟩ := loadManifest_of_ofFile (hplace ▸ hfound) hkeys
      rw [hloaded] at hrun
      cases hrun
      exact ⟨value, compilations, rfl, hcompilations, hkeys, events, rfl⟩

end Action

/-! ## What can be read -/

/-- What one comes to in a value that can be read can be read. -/
lemma Json.IsReadable.elements? {value : Json} {items : List Json} (h : value.IsReadable)
    (hitems : value.elements? = some items) : ∀ item ∈ items, item.IsReadable := by
  cases h with
  | list h =>
    cases hitems
    exact h
  | text value =>
    cases hitems
    intro item hitem
    obtain ⟨c, -, rfl⟩ := List.mem_map.1 hitem
    exact .text _
  | object hnames h =>
    cases hitems
    intro item hitem
    obtain ⟨member, -, rfl⟩ := List.mem_map.1 hitem
    exact .text _
  | broken text =>
    cases hitems
    intro item hitem
    obtain ⟨p, -, rfl⟩ := List.mem_map.1 hitem
    exact isReadable_ofPoints _
  | brokenObject h =>
    cases hitems
    intro item hitem
    obtain ⟨⟨name, value⟩, -, rfl⟩ := List.mem_map.1 hitem
    cases name with
    | whole name => exact .text name
    | broken name => exact .broken name
  | null => cases hitems
  | truth value => cases hitems
  | integer h => cases hitems
  | real h => cases hitems

lemma Json.IsReadable.members? {value : Json} {members : Pairs Json} (h : value.IsReadable)
    (hmembers : value.members? = some members) : ∀ member ∈ members, member.2.IsReadable := by
  cases h with
  | object hnames h =>
    cases hmembers
    exact h
  | brokenObject h =>
    cases hmembers
    intro member hmember
    obtain ⟨m, hm, hvalue⟩ := mem_wholeMembers hmember
    exact hvalue ▸ h m hm
  | _ => cases hmembers

namespace Compilation

variable {value : Json} {members : Pairs Json} {c : Compilation}

lemma isReadable_of_member {name : String} (h : ∀ member ∈ members, member.2.IsReadable)
    (hmember : member members name = .ok value) : value.IsReadable := by
  unfold member at hmember
  split at hmember
  · rename_i found hfound
    cases hmember
    exact h _ (Pairs.mem_of_get? hfound)
  · cases hmember

lemma isReadable_of_outputsOf {outputs : List Json} (h : value.IsReadable)
    (houtputs : outputsOf value = .ok outputs) : ∀ output ∈ outputs, output.IsReadable := by
  unfold outputsOf at houtputs
  split at houtputs
  · cases houtputs
    exact List.forall_mem_nil _
  · split at houtputs
    · rename_i hitems
      cases houtputs
      exact h.elements? hitems
    · cases houtputs

/-- What is recorded of a compilation can be read if what it is made of can. -/
lemma isReadable_toJson (hkind : c.kind.IsReadable) (hname : c.name.IsReadable)
    (hsource : c.source.IsReadable) (houtputs : ∀ output ∈ c.outputs, output.IsReadable) :
    c.toJson.IsReadable := by
  have hnames : ["kind", "name", "sourcePath", "outputPaths"].Nodup := by decide
  refine .object hnames ?_
  simp only [List.forall_mem_cons]
  exact ⟨hkind, hname, hsource, .list houtputs, List.forall_mem_nil _⟩

/-- What is recorded of a compilation that was read can be read. -/
lemma isReadable_of_ofJson (h : value.IsReadable) (hc : ofJson value = .ok c) :
    c.toJson.IsReadable := by
  unfold ofJson at hc
  split at hc
  · rename_i members hmembers
    have h := h.members? hmembers
    obtain ⟨kind, hkind, hc⟩ := except_bind_eq_ok.1 hc
    obtain ⟨name, hname, hc⟩ := except_bind_eq_ok.1 hc
    obtain ⟨source, hsource, hc⟩ := except_bind_eq_ok.1 hc
    obtain ⟨outputs, houtputs, hc⟩ := except_bind_eq_ok.1 hc
    cases hc
    -- outputs that are not recorded read as those of nothing
    have hvalue : ((Pairs.get? members "outputPaths").getD .null).IsReadable := by
      cases hpaths : Pairs.get? members "outputPaths" with
      | none => exact .null
      | some paths => exact h _ (Pairs.mem_of_get? hpaths)
    exact isReadable_toJson (isReadable_of_member h hkind) (isReadable_of_member h hname)
      (isReadable_of_member h hsource) (isReadable_of_outputsOf hvalue houtputs)
  · cases hc

end Compilation

namespace Manifest

variable {m : Manifest} {c : Compilation} {compilations : List Compilation}

lemma isReadable_of_compilationsOf {value : Json} (h : value.IsReadable)
    (hvalue : compilationsOf value = .ok compilations) :
    ∀ c ∈ compilations, c.toJson.IsReadable := by
  unfold compilationsOf at hvalue
  split at hvalue
  · rename_i items hitems
    intro c hc
    obtain ⟨item, hitem, hread⟩ := exists_mem_of_forall₂ (mapM_eq_ok_iff.1 hvalue) hc
    exact Compilation.isReadable_of_ofJson (h.elements? hitems item hitem) hread
  · cases hvalue

/-- What is recorded depends on the text of the file. -/
lemma ofFile_congr {files files' : FileTree} {place text : String}
    (hread : files.readText place = .ok text) (hread' : files'.readText place = .ok text) :
    ofFile files' (.text place) = ofFile files (.text place) := by
  cases hvalue : Json.read text with
  | error fault => rw [ofFile_of_read_error hread hvalue, ofFile_of_read_error hread' hvalue]
  | ok value => rw [ofFile_of_read hread hvalue, ofFile_of_read hread' hvalue]

lemma isReadable_toJson (h : ∀ c ∈ m.entries, c.toJson.IsReadable) : m.toJson.IsReadable := by
  refine .list fun item hitem => ?_
  obtain ⟨c, hc, rfl⟩ := List.mem_map.1 hitem
  exact h c hc

/-- The text of a manifest that is whole gives its entries back. -/
lemma ofFile_of_isReadable {files : FileTree} {place : String}
    (h : ∀ c ∈ m.entries, c.toJson.IsReadable) (hwhole : m.toJson.isWhole = true)
    (hread : files.readText place = .ok m.print) :
    ofFile files (.text place) = .ok (some m.entries) := by
  have hvalue : Json.read m.print = .ok m.toJson :=
    ((isReadable_toJson h).isReadBack hwhole).read_print
  rw [ofFile_of_read hread hvalue, compilationsOf_toJson]
  rfl

end Manifest

namespace Action

variable {p : Project} {m : Manifest} {place : String}

/-- The text of a manifest that is whole gives the manifest back. -/
lemma loadManifest_of_print (h : ∀ c ∈ m.entries, c.toJson.IsReadable)
    (hwhole : m.toJson.isWhole = true) (hkeys : ∀ c ∈ m.entries, c.name.isKey = true)
    (hplace : p.settings.manifest = .text place) (hread : p.files.readText place = .ok m.print) :
    ∃ events, loadManifest.apply p =
      (.ok (), { p with manifest := m, loaded := p.settings, events }) := by
  have hfound := Manifest.ofFile_of_isReadable h hwhole hread
  rw [← hplace] at hfound
  obtain ⟨events, hloaded⟩ := loadManifest_of_ofFile hfound hkeys
  rw [m.ofList_entries] at hloaded
  exact ⟨events, hloaded⟩

end Action

/-! ## Compilations of texts -/

namespace Json

variable {value : Json}

lemma IsString.exists_points (h : value.IsString) : ∃ points, value.points? = some points :=
  Option.isSome_iff_exists.1 h

lemma IsString.isReadable (h : value.IsString) : value.IsReadable := by
  obtain ⟨points, hpoints⟩ := h.exists_points
  rw [eq_ofPoints hpoints]
  exact isReadable_ofPoints points

lemma IsString.isKey (h : value.IsString) : value.isKey = true := by
  cases value with
  | text s => rfl
  | broken b => rfl
  | _ => cases h

/-- Texts of one place in the order of keys are the same. -/
lemma IsString.eq_of_rank {other : Json} (h : value.IsString) (h' : other.IsString)
    (hrank : value.rank = other.rank) : value = other := by
  obtain ⟨points, hpoints⟩ := h.exists_points
  obtain ⟨points', hpoints'⟩ := h'.exists_points
  rw [rank_of_points? hpoints, rank_of_points? hpoints'] at hrank
  have hcodes : points.map Text.Point.code = points'.map Text.Point.code :=
    congrArg Rank.codes hrank
  rw [eq_ofPoints hpoints, eq_ofPoints hpoints',
    (List.map_inj_right fun _ _ => Text.Point.code_inj.1).1 hcodes]

end Json

namespace Compilation

variable {c : Compilation}

/-- Whether a compilation records texts alone, whole or not. -/
structure IsOfStrings (c : Compilation) : Prop where
  kind : c.kind.IsString
  name : c.name.IsString
  source : c.source.IsString
  outputs : ∀ output ∈ c.outputs, output.IsString

lemma IsOfStrings.isReadable (h : c.IsOfStrings) : c.toJson.IsReadable :=
  isReadable_toJson h.kind.isReadable h.name.isReadable h.source.isReadable
    fun output houtput => (h.outputs output houtput).isReadable

lemma IsOfTexts.isOfStrings (h : c.IsOfTexts) : c.IsOfStrings := by
  obtain ⟨kind, name, source, outputs, rfl⟩ := h
  refine ⟨rfl, rfl, rfl, fun output houtput => ?_⟩
  obtain ⟨path, -, rfl⟩ := List.mem_map.1 houtput
  rfl

end Compilation

/-! ## The one text of a manifest -/

namespace Manifest

/-- A text is that of compilations, whatever changes they are left of: it lists them by name, in the
order of code points, and it gives them back if a file can hold it. -/
structure Encodes (compilations : List Compilation) (text : String) : Prop where
  print : ∀ m : Manifest, (∀ c, c ∈ m.entries ↔ c ∈ compilations) →
    m.isOrdered = true ∧ m.print = text
  changes : ∀ changes, (∀ c, IsLeft changes c ↔ c ∈ compilations) → (after changes).print = text
  listing : ∃ entries : List Compilation, entries.Perm compilations ∧
    (entries.Pairwise fun c d => ∀ s t, c.name.points? = some s → d.name.points? = some t →
      s.map Text.Point.code < t.map Text.Point.code) ∧
    text = (Json.list (entries.map Compilation.toJson)).print
  load : (∀ c ∈ compilations, c.toJson.isWhole = true) →
    ∀ {p : Project} {place}, p.settings.manifest = .text place →
      p.files.readText place = .ok text →
      ∃ q, Action.loadManifest.apply p = (.ok (), q) ∧
        ∀ c, c ∈ q.manifest.entries ↔ c ∈ compilations

/-- Compilations of texts with different names have one text. -/
theorem exists_encodes {compilations : List Compilation}
    (hstrings : ∀ c ∈ compilations, c.IsOfStrings)
    (hnames : (compilations.map Compilation.name).Nodup) :
    ∃ text, Encodes compilations text := by
  have hranks : compilations.Pairwise fun c d => c.rank ≠ d.rank := by
    refine (List.pairwise_map.1 hnames).imp_of_mem fun {c d} hc hd hne hrank => hne ?_
    exact (hstrings c hc).name.eq_of_rank (hstrings d hd).name hrank
  -- the text is that of the manifest that they are put into one after the other
  have hmem (c : Compilation) : c ∈ (ofList compilations).entries ↔ c ∈ compilations :=
    mem_ofList_of_pairwise hranks
  have hsame (m : Manifest) (h : ∀ c, c ∈ m.entries ↔ c ∈ compilations) :
      m = ofList compilations := eq_of_mem_iff fun c => (h c).trans (hmem c).symm
  have hentries : ∀ c ∈ (ofList compilations).entries, c.IsOfStrings :=
    fun c hc => hstrings c ((hmem c).1 hc)
  refine ⟨(ofList compilations).print, ?_, ?_, ?_, ?_⟩
  · intro m h
    rw [hsame m h]
    exact ⟨isOrdered_of_strings fun c hc => (hentries c hc).name, rfl⟩
  · exact fun changes h => by rw [hsame _ fun c => mem_after.trans (h c)]
  · refine ⟨(ofList compilations).entries, ?_, ?_, rfl⟩
    · exact (List.perm_ext_iff_of_nodup (nodup_entries _) hnames.of_map).2 hmem
    · refine (ofList compilations).sorted.imp fun {c d} hlt s t hs ht => ?_
      rw [Compilation.rank, Compilation.rank, Json.rank_of_points? hs, Json.rank_of_points? ht,
        Json.Rank.lt_def] at hlt
      simpa [Json.Rank.Precedes] using hlt
  · intro hwhole p place hplace hread
    obtain ⟨events, hloaded⟩ := Action.loadManifest_of_print
      (fun c hc => (hentries c hc).isReadable)
      (isWhole_toJson.2 fun c hc => hwhole c ((hmem c).1 hc))
      (fun c hc => (hentries c hc).name.isKey) hplace hread
    exact ⟨_, hloaded, hmem⟩

end Manifest

/-! ## Entries that are not written here -/

/-- What an entry has to have to be that of a compilation: outputs may be missing, or nothing. -/
structure Compilation.IsRecordedBy (c : Compilation) (members : Pairs Json) : Prop where
  kind : members.get? "kind" = some c.kind
  name : members.get? "name" = some c.name
  source : members.get? "sourcePath" = some c.source
  outputs : members.get? "outputPaths" = some (.list c.outputs) ∨
    c.outputs = [] ∧ (members.get? "outputPaths" = none ∨
      members.get? "outputPaths" = some .null)

lemma Compilation.IsRecordedBy.ofMembers {c : Compilation} {members : Pairs Json}
    (h : c.IsRecordedBy members) : Compilation.ofMembers members = .ok c := by
  have houtputs : outputsOf ((Pairs.get? members "outputPaths").getD .null) = .ok c.outputs := by
    rcases h.outputs with hlist | ⟨hnone, hmissing | hnull⟩
    · rw [hlist, Option.getD_some, outputsOf_list]
    · rw [hmissing, hnone]
      rfl
    · rw [hnull, hnone]
      rfl
  simp only [Compilation.ofMembers, member, h.kind, h.name, h.source, houtputs, bind,
    Except.bind, pure, Except.pure]

/-- A value that holds the members of a compilation, and any others, records it. -/
def Compilation.IsOf (c : Compilation) (value : Json) : Prop :=
  ∃ members, value.members? = some members ∧ c.IsRecordedBy members

/-- Entries that are those of compilations make a manifest, of the last one of each name. -/
theorem Action.loadManifest_of_isRecordedBy {place text : String} {p : Project}
    {entries : List Json} {compilations : List Compilation}
    (hplace : p.settings.manifest = .text place) (hread : p.files.readText place = .ok text)
    (hvalue : Json.read text = .ok (.list entries))
    (h : List.Forall₂ (fun value c => c.IsOf value) entries compilations)
    (hkeys : ∀ c ∈ compilations, c.name.isKey = true) :
    ∃ q, loadManifest.apply p = (.ok (), q) ∧
      ∀ c, c ∈ q.manifest.entries ↔ Manifest.IsLastIn compilations c := by
  have hcompilations : Manifest.compilationsOf (.list entries) = .ok compilations := by
    refine mapM_eq_ok_iff.2 (h.imp ?_)
    rintro value c ⟨members, hmembers, hrecorded⟩
    rw [Compilation.ofJson, hmembers]
    exact hrecorded.ofMembers
  have hfound : Manifest.ofFile p.files p.settings.manifest = .ok (some compilations) := by
    rw [hplace, Manifest.ofFile_of_read hread hvalue, hcompilations]
    rfl
  obtain ⟨events, hload⟩ := loadManifest_of_ofFile hfound hkeys
  exact ⟨_, hload, fun c => Manifest.mem_ofList⟩

/-! ## Loading and writing -/

namespace Action

variable {p q : Project} {place text : String}

/-- Loads the manifest and writes its file. -/
def rewriteManifest : Action Unit := do
  loadManifest
  persist

/-- What loading the manifest of a project and writing its file does: of the compilations that the
file records the last one of each name is kept, the file gets the text of these, and doing it again
changes nothing. Only names that have no order and texts that are not whole keep the file from being
written, once and again. -/
structure Rewrites (place : String) (p : Project) (m : Manifest) : Prop where
  kept : ∃ compilations, Manifest.ofFile p.files (.text place) = .ok (some compilations) ∧
    (∀ c, c ∈ m.entries ↔ Manifest.IsLastIn compilations c) ∧
    ((∀ c ∈ compilations, c.name.IsString) → m.isOrdered = true)
  written : m.isOrdered = true → m.toJson.isWhole = true →
    ∃ q r, rewriteManifest.apply p = (.ok (), q) ∧ rewriteManifest.apply q = (.ok (), r) ∧
      q.manifest = m ∧ r.manifest = m ∧ q.files.readText place = .ok m.print ∧
      ∀ l, r.files.node? l = q.files.node? l
  refused : m.isOrdered = false →
    ∃ q r, rewriteManifest.apply p = (.error .shape, q) ∧
      rewriteManifest.apply q = (.error .shape, r) ∧ q.manifest = m ∧ r.manifest = m ∧
      q.files = p.files ∧ r.files = p.files
  unencodable : m.isOrdered = true → m.toJson.isWhole = false →
    ∃ q r, rewriteManifest.apply p = (.error (.encoding m.toJson.printedPoints), q) ∧
      rewriteManifest.apply q = (.error (.encoding m.toJson.printedPoints), r) ∧
      q.manifest = m ∧ r.manifest = m ∧ (∀ l, q.files.node? l = p.files.node? l) ∧
      ∀ l, r.files.node? l = p.files.node? l

/-- Names that have no order keep a manifest from being written. -/
lemma persist_of_not_isOrdered (h : p.manifest.isOrdered = false) :
    persist.apply p = (.error .shape, p) := by
  rw [apply_persist, recording, h]
  rfl

/-- A manifest that is not whole cannot be encoded. If its file can be read, nothing is new. -/
lemma persist_of_not_isWhole (hordered : p.manifest.isOrdered = true)
    (hwhole : p.manifest.toJson.isWhole = false) (hplace : p.loaded.manifest = .text place)
    (hfile : p.files.IsFile place) :
    ∃ files, persist.apply p =
        (.error (.encoding p.manifest.toJson.printedPoints), { p with files }) ∧
      ∀ l, files.node? l = p.files.node? l := by
  obtain ⟨files, hw⟩ := writeNothing_of_admits (admits_of_isFile hfile)
  have hgrows := growsAt_writeNothing place p.files
  rw [hw] at hgrows
  refine ⟨files, ?_, fun l => ?_⟩
  · rw [apply_persist, recording, hordered, hplace]
    dsimp only
    rw [Filing.writeValue, hwhole, if_neg Bool.false_ne_true,
      apply_bind_of_ok (Filing.ofUpdate_eq_ok.2 hw)]
    rfl
  · -- the directories above a file are there already
    rcases hgrows l with hsame | ⟨hmade, hnone, -⟩
    · exact hsame
    · rw [hfile.node?_of_mem_made hmade] at hnone
      cases hnone

/-- Loading the manifest of a file and writing the file does what writing does then. -/
lemma rewriteManifest_of_ofFile {compilations : List Compilation} {result : Except Failure Unit}
    {P : FileTree → Prop}
    (hfound : Manifest.ofFile p.files p.settings.manifest = .ok (some compilations))
    (hkeys : ∀ c ∈ compilations, c.name.isKey = true)
    (hpersist : ∀ q : Project, q.manifest = .ofList compilations → q.loaded = p.settings →
      q.files = p.files → ∃ files, persist.apply q = (result, { q with files }) ∧ P files) :
    ∃ q, rewriteManifest.apply p = (result, q) ∧ q.manifest = .ofList compilations ∧
      q.settings = p.settings ∧ P q.files := by
  obtain ⟨events, hload⟩ := loadManifest_of_ofFile hfound hkeys
  obtain ⟨files, hwrite, hfiles⟩ := hpersist
    { p with manifest := .ofList compilations, loaded := p.settings, events } rfl rfl rfl
  refine ⟨{ p with manifest := .ofList compilations, loaded := p.settings, events, files }, ?_, rfl,
    rfl, hfiles⟩
  rw [rewriteManifest, apply_bind_of_ok hload, hwrite]

section Rewriting

variable {compilations : List Compilation} (hplace : p.settings.manifest = .text place)
  (hread : p.files.readText place = .ok text)
  (hfound : Manifest.ofFile p.files p.settings.manifest = .ok (some compilations))
  (hkeys : ∀ c ∈ compilations, c.name.isKey = true)

include hplace hread hfound hkeys

/-- What is written of the compilations of a file is read back and written again. -/
lemma rewriteManifest_of_isWritable (hreadable : ∀ c ∈ compilations, c.toJson.IsReadable)
    (hwritable : (Manifest.ofList compilations).isWritable = true) :
    ∃ q r, rewriteManifest.apply p = (.ok (), q) ∧ rewriteManifest.apply q = (.ok (), r) ∧
      q.manifest = .ofList compilations ∧ r.manifest = .ofList compilations ∧
      q.files.readText place = .ok (Manifest.ofList compilations).print ∧
      ∀ l, r.files.node? l = q.files.node? l := by
  have hpersist {t : FileTree} (hadmits : t.Admits place) (q : Project)
      (hm : q.manifest = .ofList compilations) (hl : q.loaded.manifest = .text place)
      (hf : q.files = t) : ∃ files, persist.apply q = (.ok (), { q with files }) ∧
        (writeAtomic place (Manifest.ofList compilations).print).apply t = (.ok (), files) := by
    obtain ⟨files, hw⟩ := writeAtomic_of_admits hadmits (Manifest.ofList compilations).print
    have hqw : (writeAtomic place q.manifest.print).apply q.files = (.ok (), files) := by
      rw [hm, hf, hw]
    exact ⟨files, persist_of_isWritable (by rw [hm, hwritable]) hl hqw, hw⟩
  have hadmits : p.files.Admits place := admits_of_isFile (isFile_of_readText hread)
  obtain ⟨q, hq, hqm, hqs, hqw⟩ := rewriteManifest_of_ofFile hfound hkeys fun q hm hl hf =>
    hpersist hadmits q hm (by rw [hl, hplace]) hf
  -- what is in the file now is read back
  have hmem {c : Compilation} (hc : c ∈ (Manifest.ofList compilations).entries) :
      c ∈ compilations := Manifest.mem_of_mem_ofList hc
  have hreread := readText_of_writeAtomic hqw
  have hrefound : Manifest.ofFile q.files q.settings.manifest =
      .ok (some (Manifest.ofList compilations).entries) := by
    rw [hqs, hplace]
    exact Manifest.ofFile_of_isReadable (fun c hc => hreadable c (hmem hc))
      (Bool.and_eq_true_iff.1 hwritable).2 hreread
  have hsame : Manifest.ofList (Manifest.ofList compilations).entries = .ofList compilations :=
    Manifest.ofList_entries _
  obtain ⟨r, hr, hrm, -, hrw⟩ := rewriteManifest_of_ofFile hrefound (fun c hc => hkeys c (hmem hc))
    fun r hm hl hf => hpersist (admits_of_writeAtomic hqw) r (hm.trans hsame)
      (by rw [hl, hqs, hplace]) hf
  exact ⟨q, r, hq, hr, hqm, hrm.trans hsame, hreread, node?_of_rewritten hqw hrw⟩

omit hplace hread in
/-- Without an order nothing is written, so that the same file is loaded again. -/
lemma rewriteManifest_of_not_isOrdered
    (hordered : (Manifest.ofList compilations).isOrdered = false) :
    ∃ q r, rewriteManifest.apply p = (.error .shape, q) ∧
      rewriteManifest.apply q = (.error .shape, r) ∧ q.manifest = .ofList compilations ∧
      r.manifest = .ofList compilations ∧ q.files = p.files ∧ r.files = p.files := by
  have hpersist (q : Project) (hm : q.manifest = .ofList compilations) {t : FileTree}
      (hf : q.files = t) :
      ∃ files, persist.apply q = (.error .shape, { q with files }) ∧ files = t :=
    ⟨q.files, persist_of_not_isOrdered (by rwa [hm]), hf⟩
  obtain ⟨q, hq, hqm, hqs, hqf⟩ :=
    rewriteManifest_of_ofFile hfound hkeys fun q hm _ hf => hpersist q hm hf
  obtain ⟨r, hr, hrm, -, hrf⟩ := rewriteManifest_of_ofFile (by rwa [hqf, hqs]) hkeys
    fun r hm _ hf => hpersist r hm hf
  exact ⟨q, r, hq, hr, hqm, hrm, hqf, hrf.trans hqf⟩

/-- What cannot be encoded leaves the file with its text, so that the same is loaded again. -/
lemma rewriteManifest_of_not_isWhole
    (hordered : (Manifest.ofList compilations).isOrdered = true)
    (hwhole : (Manifest.ofList compilations).toJson.isWhole = false) :
    ∃ q r, rewriteManifest.apply p =
        (.error (.encoding (Manifest.ofList compilations).toJson.printedPoints), q) ∧
      rewriteManifest.apply q =
        (.error (.encoding (Manifest.ofList compilations).toJson.printedPoints), r) ∧
      q.manifest = .ofList compilations ∧ r.manifest = .ofList compilations ∧
      (∀ l, q.files.node? l = p.files.node? l) ∧ ∀ l, r.files.node? l = p.files.node? l := by
  have hpersist {t : FileTree} (hfile : t.IsFile place) (q : Project)
      (hm : q.manifest = .ofList compilations) (hl : q.loaded.manifest = .text place)
      (hf : q.files = t) :
      ∃ files, persist.apply q =
          (.error (.encoding (Manifest.ofList compilations).toJson.printedPoints),
            { q with files }) ∧ ∀ l, files.node? l = t.node? l := by
    obtain ⟨files, hrefused, hsame⟩ := persist_of_not_isWhole (p := q) (by rw [hm, hordered])
      (by rw [hm, hwhole]) hl (hf ▸ hfile)
    refine ⟨files, ?_, fun l => by rw [hsame l, hf]⟩
    rw [← hm, hrefused]
  obtain ⟨q, hq, hqm, hqs, hqf⟩ := rewriteManifest_of_ofFile hfound hkeys fun q hm hl hf =>
    hpersist (isFile_of_readText hread) q hm (hl ▸ hplace) hf
  have hchanges : p.files.ChangesAt ∅ q.files :=
    ⟨fun l hl => (hqf l).trans hl, fun l _ => by rw [content?, hqf l, content?]⟩
  have hreread := hchanges.readText (Set.notMem_empty _) hread
  have hrefound : Manifest.ofFile q.files q.settings.manifest = .ok (some compilations) := by
    rw [hqs, ← hfound, hplace]
    exact Manifest.ofFile_congr hread hreread
  obtain ⟨r, hr, hrm, -, hrf⟩ := rewriteManifest_of_ofFile hrefound hkeys fun r hm hl hf =>
    hpersist (isFile_of_readText hreread) r hm (by rw [hl, hqs, hplace]) hf
  exact ⟨q, r, hq, hr, hqm, hrm, hqf, fun l => (hrf l).trans (hqf l)⟩

end Rewriting

/-- A manifest that is loaded from a text is written, if its names have an order and it is whole, and
then the file is the same each time that this is done. -/
theorem rewrites_of_loadManifest (hplace : p.settings.manifest = .text place)
    (hread : p.files.readText place = .ok text) (h : loadManifest.apply p = (.ok (), q)) :
    Rewrites place p q.manifest := by
  obtain ⟨value, compilations, hvalue, hcompilations, hkeys, events, rfl⟩ :=
    loadManifest_eq_ok hplace hread h
  have hfound : Manifest.ofFile p.files p.settings.manifest = .ok (some compilations) := by
    rw [hplace, Manifest.ofFile_of_read hread hvalue, hcompilations]
    rfl
  have hreadable : ∀ c ∈ compilations, c.toJson.IsReadable :=
    Manifest.isReadable_of_compilationsOf (Json.isReadable_of_read hvalue) hcompilations
  constructor
  case kept =>
    refine ⟨compilations, hplace ▸ hfound, fun c => Manifest.mem_ofList, fun hnames => ?_⟩
    exact Manifest.isOrdered_of_strings fun c hc => hnames c (Manifest.mem_of_mem_ofList hc)
  case written =>
    exact fun hordered hwhole => rewriteManifest_of_isWritable hplace hread hfound hkeys hreadable
      (Bool.and_eq_true_iff.2 ⟨hordered, hwhole⟩)
  case refused => exact rewriteManifest_of_not_isOrdered hfound hkeys
  case unencodable => exact rewriteManifest_of_not_isWhole hplace hread hfound hkeys

end Action

/-- The text of a manifest is that of the set of its entries, whatever changes have led to it: it
lists them by name, and gives them back if a file can hold it. A file is loaded if its entries are those of compilations,
in any order; the last one of each name is kept, and loading the file and writing it is done once
and for all. -/
theorem manifest_encoding :
    (∀ changes c, c ∈ (Manifest.after changes).entries ↔ Manifest.IsLeft changes c) ∧
      (∀ compilations : List Compilation, (∀ c ∈ compilations, c.IsOfStrings) →
        (compilations.map Compilation.name).Nodup → ∃ text, Manifest.Encodes compilations text) ∧
      ∀ (place text : String) (p : Project), p.settings.manifest = .text place →
        p.files.readText place = .ok text →
        (∀ (entries : List Json) (compilations : List Compilation),
          Json.read text = .ok (.list entries) →
          List.Forall₂ (fun value c => c.IsOf value) entries compilations →
          (∀ c ∈ compilations, c.name.isKey = true) →
          ∃ q, Action.loadManifest.apply p = (.ok (), q) ∧
            ∀ c, c ∈ q.manifest.entries ↔ Manifest.IsLastIn compilations c) ∧
        ∀ q, Action.loadManifest.apply p = (.ok (), q) → Action.Rewrites place p q.manifest :=
  ⟨fun _ _ => Manifest.mem_after, fun _ => Manifest.exists_encodes,
    fun _ _ _ hplace hread =>
      ⟨fun _ _ => Action.loadManifest_of_isRecordedBy hplace hread,
        fun _ => Action.rewrites_of_loadManifest hplace hread⟩⟩

/-! ## A manifest out of order -/

/-- Entries out of order, one name twice, and outputs that are nothing or missing. -/
def looseEntries : List (Pairs Json) :=
  [[("kind", .text "Enum"), ("name", .text "Ort"), ("sourcePath", .text "Ort.xlsx"),
      ("outputPaths", .null)],
    [("kind", .text "Enum"), ("name", .text "Art"), ("sourcePath", .text "Alt.xlsx"),
      ("outputPaths", .ofTexts ["Alt.py"])],
    [("sourcePath", .text "Art.xlsx"), ("name", .text "Art"), ("kind", .text "Enum")]]

/-- A project with a manifest of these entries. -/
def looseManifest : Project :=
  .ofFiles (.ofDirectories "Dist" "Resources")
    ⟨[(["Dist"], .directory), (["Dist", "ParseResult.json"],
      .file (.text (Json.list (looseEntries.map .object)).print))]⟩ "Resources"

/-- The entry of a table without outputs. -/
def bareTable (name source : String) : Compilation := .ofTexts "Enum" name source []

/-- The compilations of the entries. -/
def looseTables : List Compilation :=
  [bareTable "Ort" "Ort.xlsx", .ofTexts "Enum" "Art" "Alt.xlsx" ["Alt.py"],
    bareTable "Art" "Art.xlsx"]

/-- The text of the manifest gives its entries back. -/
lemma read_looseEntries : Json.read (Json.list (looseEntries.map .object)).print =
    .ok (.list (looseEntries.map .object)) := by
  have hmembers : ["kind", "name", "sourcePath", "outputPaths"].Nodup := by decide
  have hfewer : ["sourcePath", "name", "kind"].Nodup := by decide
  refine Json.read_print (.list ?_)
  simp only [looseEntries, List.map_cons, List.map_nil, List.forall_mem_cons]
  refine ⟨.object hmembers ?_, .object hmembers ?_, .object hfewer ?_, List.forall_mem_nil _⟩ <;>
  · simp only [List.forall_mem_cons]
    simp only [Json.IsTextual.text, Json.IsTextual.null, Json.isTextual_ofTexts,
      List.not_mem_nil, false_implies, implies_true, and_self]

/-- Two tables are kept. -/
lemma isLastIn_looseTables {c : Compilation} : Manifest.IsLastIn looseTables c ↔
    c ∈ [bareTable "Ort" "Ort.xlsx", bareTable "Art" "Art.xlsx"] := by
  have hentries : (Manifest.ofList looseTables).entries =
      [bareTable "Art" "Art.xlsx", bareTable "Ort" "Ort.xlsx"] := rfl
  rw [← Manifest.mem_ofList, hentries]
  exact (List.Perm.swap ..).mem_iff

/-- The manifest is loaded and written, and then its file has the one text of the entries that are
kept, which other changes lead to as well. -/
theorem looseManifest_encoding :
    ∃ text q r, Manifest.Encodes [bareTable "Ort" "Ort.xlsx", bareTable "Art" "Art.xlsx"] text ∧
      (Manifest.after [.insert (bareTable "Art" "Art.xlsx"),
        .insert (bareTable "Ort" "Ort.xlsx")]).print = text ∧
      (Manifest.after [.insert (bareTable "Ort" "Ort.xlsx"), .insert (bareTable "Art" "Alt.xlsx"),
        .erase (.text "Ort"), .insert (bareTable "Art" "Art.xlsx"),
        .insert (bareTable "Ort" "Ort.xlsx")]).print = text ∧
      Action.rewriteManifest.apply looseManifest = (.ok (), q) ∧
      Action.rewriteManifest.apply q = (.ok (), r) ∧
      q.files.readText "Dist/ParseResult.json" = .ok text ∧
      ∀ l, r.files.node? l = q.files.node? l := by
  obtain ⟨-, hencodes, hfile⟩ := manifest_encoding
  have htexts : ∀ c ∈ [bareTable "Ort" "Ort.xlsx", bareTable "Art" "Art.xlsx"], c.IsOfTexts := by
    simp only [List.forall_mem_cons]
    exact ⟨⟨_, _, _, _, rfl⟩, ⟨_, _, _, _, rfl⟩, List.forall_mem_nil _⟩
  have hnames : ([bareTable "Ort" "Ort.xlsx", bareTable "Art" "Art.xlsx"].map
      Compilation.name).Nodup := by
    simp [bareTable, Compilation.ofTexts]
  obtain ⟨text, htext⟩ := hencodes _ (fun c hc => (htexts c hc).isOfStrings) hnames
  have hset {m : Manifest}
      (hm : m.entries = [bareTable "Art" "Art.xlsx", bareTable "Ort" "Ort.xlsx"]) :
      m.print = text := by
    refine (htext.print m fun c => ?_).2
    rw [hm]
    exact (List.Perm.swap ..).mem_iff
  obtain ⟨hloads, hrewrites⟩ := hfile "Dist/ParseResult.json" _ looseManifest rfl rfl
  have hrecorded : List.Forall₂ (fun value c => Compilation.IsOf c value)
      (looseEntries.map .object) looseTables :=
    .cons ⟨_, rfl, rfl, rfl, rfl, .inr ⟨rfl, .inr rfl⟩⟩
      (.cons ⟨_, rfl, rfl, rfl, rfl, .inl rfl⟩
        (.cons ⟨_, rfl, rfl, rfl, rfl, .inr ⟨rfl, .inl rfl⟩⟩ .nil))
  obtain ⟨q, hload, hkept⟩ := hloads _ _ read_looseEntries hrecorded (by decide)
  have hmem (c : Compilation) := (hkept c).trans isLastIn_looseTables
  obtain ⟨hordered, hprint⟩ := htext.print _ hmem
  have hwhole : q.manifest.toJson.isWhole = true :=
    Manifest.isWhole_toJson.2 fun c hc => (htexts c ((hmem c).1 hc)).isListable.whole
  obtain ⟨r, s, hfirst, hsecond, -, -, hwritten, hsame⟩ :=
    (hrewrites q hload).written hordered hwhole
  rw [hprint] at hwritten
  exact ⟨text, r, s, htext, hset rfl, hset rfl, hfirst, hsecond, hwritten, hsame⟩

/-! ## A manifest that is not whole -/

/-- A project with a manifest in which the name of a table is half a surrogate pair. -/
def halfManifest : Project :=
  .ofFiles (.ofDirectories "Dist" "Resources")
    ⟨[(["Dist"], .directory), (["Dist", "ParseResult.json"],
      .file (.text "[\x7b\"kind\": \"Enum\", \"name\": \"\\ud800\", \"sourcePath\": \"a\"\x7d]"))]⟩
    "Resources"

/-- The manifest can be loaded and put in order, but it is not whole. -/
lemma loads_halfManifest :
    (Action.loadManifest.apply halfManifest).1.isOk = true ∧
      (Action.loadManifest.apply halfManifest).2.manifest.isOrdered = true ∧
      (Action.loadManifest.apply halfManifest).2.manifest.toJson.isWhole = false := by
  decide +kernel

/-- The manifest is loaded, but its file cannot be written again: it stays as it is. -/
theorem halfManifest_rewrites :
    ∃ q r points, Action.loadManifest.apply halfManifest = (.ok (), q) ∧
      Action.rewriteManifest.apply halfManifest = (.error (.encoding points), r) ∧
      ∀ l, r.files.node? l = halfManifest.files.node? l := by
  obtain ⟨hok, hordered, hwhole⟩ := loads_halfManifest
  rcases hload : Action.loadManifest.apply halfManifest with ⟨f | _, q⟩
  · rw [hload] at hok
    cases hok
  · rw [hload] at hordered hwhole
    have hrewrites : Action.Rewrites "Dist/ParseResult.json" halfManifest q.manifest :=
      Action.rewrites_of_loadManifest rfl rfl hload
    obtain ⟨r, -, hpersist, -, -, -, hsame, -⟩ := hrewrites.unencodable hordered hwhole
    exact ⟨q, r, _, rfl, hpersist, hsame⟩

end SheetCompiler
