import SheetCompiler.Proofs.FileTree.Read
import Mathlib.Data.Set.Insert

/-!
# What changes in a tree

Writing and deleting change files at some locations only and keep every directory (`ChangesAt`), so
that a path that leads to another location is read as before. Writing takes nothing away
(`Extends`), so that what stands in the way of a file still does afterwards.

Main statements:

* `changesAt_writeAtomic` and `ShrinksAt.changesAt`: what a write and a deletion change;
* `ChangesAt.read`: what is read elsewhere stays the same;
* `admits_of_writeAtomic` and `not_admits_of_error`: what has been written can be written again, and
  a write that fails would fail again;
* `admits_of_isFile`: a file that can be read can be replaced;
* `node?_of_rewritten`: a write that is repeated changes nothing.
-/

namespace SheetCompiler.FileTree

open SheetCompiler.Path SheetCompiler.Stateful

lemma content?_eq_some_iff {t : FileTree} {l : Location} {content : Content} :
    t.content? l = some content ↔ t.node? l = some (.file content) := by
  unfold content?
  cases t.node? l with
  | none => simp
  | some entry => cases entry <;> simp

lemma content?_eq_none_iff {t : FileTree} {l : Location} :
    t.content? l = none ↔ ∀ content, t.node? l ≠ some (.file content) := by
  rw [Option.eq_none_iff_forall_ne_some]
  exact forall_congr' fun content => not_congr content?_eq_some_iff

lemma content?_of_node? {t u : FileTree} {l : Location} (h : u.node? l = t.node? l) :
    u.content? l = t.content? l := by
  unfold content?
  rw [h]

/-- Whether a path leads to a file. -/
def IsFile (t : FileTree) (path : String) : Prop := ∃ content, t.read path = .ok content

lemma IsFile.content?_ne_none {t : FileTree} {path : String} (h : t.IsFile path) :
    t.content? (location path) ≠ none := by
  obtain ⟨content, hread⟩ := h
  rw [content?_eq_some_iff.2 (read_eq_ok_iff.1 hread).2.1]
  exact Option.some_ne_none _

/-! ## Files that change -/

/-- Directories stay, and files change at the given locations only. -/
structure ChangesAt (locs : Set Location) (t u : FileTree) : Prop where
  directories : ∀ l, t.node? l = some .directory → u.node? l = some .directory
  files : ∀ l, l ∉ locs → u.content? l = t.content? l

variable {locs more : Set Location} {t u v : FileTree} {path : String}

lemma ChangesAt.refl (locs : Set Location) (t : FileTree) : ChangesAt locs t t :=
  ⟨fun _ h => h, fun _ _ => rfl⟩

lemma ChangesAt.trans (t u v : FileTree) (h : ChangesAt locs t u) (h' : ChangesAt locs u v) :
    ChangesAt locs t v :=
  ⟨fun l hl => h'.directories l (h.directories l hl),
    fun l hl => (h'.files l hl).trans (h.files l hl)⟩

lemma ChangesAt.mono (h : ChangesAt locs t u) (hm : locs ⊆ more) : ChangesAt more t u :=
  ⟨h.directories, fun l hl => h.files l fun hc => hl (hm hc)⟩

/-- A file is changed by putting another one in its place. -/
lemma changesAt_put (h : t.IsFile path) (content : Content) :
    ChangesAt {location path} t (t.put (location path) (.file content)) := by
  refine ⟨fun l hl => ?_, fun l hl => content?_of_node? (node?_put_of_ne t hl _)⟩
  rwa [node?_put_of_ne]
  rintro rfl
  obtain ⟨_, hread⟩ := h
  rw [(read_eq_ok_iff.1 hread).2.1] at hl
  cases hl

/-- A path that leads elsewhere is read as before. -/
theorem ChangesAt.read {content : Content} (h : ChangesAt locs t u) (hl : location path ∉ locs)
    (hr : t.read path = .ok content) : u.read path = .ok content := by
  obtain ⟨hloc, hfile, hdemands⟩ := read_eq_ok_iff.1 hr
  obtain ⟨hfollow, habove, -⟩ := locate_eq_ok_iff.1 hloc
  have hsame := h.files _ hl
  rw [content?_eq_some_iff.2 hfile, content?_eq_some_iff] at hsame
  refine read_eq_ok_iff.2 ⟨locate_eq_ok_iff.2 ⟨hfollow, fun d hd => ?_, rfl⟩, hsame, hdemands⟩
  exact h.directories d (habove d hd)

lemma ChangesAt.readText {text : String} (h : ChangesAt locs t u) (hl : location path ∉ locs)
    (hr : t.readText path = .ok text) : u.readText path = .ok text := by
  unfold FileTree.readText at hr ⊢
  cases hread : t.read path with
  | error e =>
    rw [hread] at hr
    cases hr
  | ok content =>
    rw [hread] at hr
    rw [h.read hl hread]
    exact hr

/-- Making directories changes no file. -/
lemma GrowsAt.changesAt {made : List Location} (h : GrowsAt made t u) : ChangesAt locs t u := by
  refine ⟨fun l hl => h.node?_of_some hl, fun l _ => ?_⟩
  rcases h l with hl | ⟨-, ht, hu⟩
  · exact content?_of_node? hl
  · unfold content?
    rw [ht, hu]

/-- A write changes the file at its path. -/
lemma IsWriteTo.changesAt (hw : IsWriteTo path t u) : ChangesAt {location path} t u := by
  cases hw with
  | directories hgrows => exact hgrows.changesAt
  | file text w hgrows hwritten =>
    refine ChangesAt.trans _ w _ hgrows.changesAt ⟨fun l hl => ?_, fun l hl => ?_⟩
    · -- the file stands where no directory is
      have hne : l ≠ location path := fun hc => hwritten.noDirectory (hc ▸ hl)
      rw [hwritten.others l hne, hl]
    · exact content?_of_node? (hwritten.others l hl)

theorem changesAt_writeAtomic {text : String} {r : Except FileError Unit}
    (hw : (writeAtomic path text).apply t = (r, u)) : ChangesAt {location path} t u :=
  (isWriteTo_of_writeAtomic hw).changesAt

/-- A write that fails changes no file. -/
lemma changesAt_of_writeAtomic_error {text : String} {e : FileError}
    (hw : (writeAtomic path text).apply t = (.error e, u)) : ChangesAt locs t u := by
  rcases writeAtomic_cases path text t with ⟨e', v, hv, hgrows⟩ | ⟨v, w, hv, -, -⟩
  · rw [hw] at hv
    cases hv
    exact hgrows.changesAt
  · rw [hw] at hv
    cases hv

/-! ## Removing files -/

/-- A path that leads to something leads to a file or to a directory. -/
lemma contains_cases (h : t.contains path = true) :
    (∃ content, t.lookup path = .ok (location path, .file content) ∧
        t.node? (location path) = some (.file content)) ∨
      t.lookup path = .ok (location path, .directory) ∧
        t.node? (location path) = some .directory := by
  unfold contains at h
  cases hl : t.lookup path with
  | error cause =>
    rw [hl] at h
    cases h
  | ok found =>
    obtain ⟨l, entry⟩ := found
    cases entry with
    | file content =>
      obtain ⟨hloc, hfile, -⟩ := lookup_eq_file_iff.1 hl
      obtain rfl := (locate_eq_ok_iff.1 hloc).2.2
      exact .inl ⟨content, rfl, hfile⟩
    | directory =>
      obtain ⟨l', hloc, hrest⟩ := except_bind_eq_ok.1 hl
      obtain rfl := (locate_eq_ok_iff.1 hloc).2.2
      split at hrest
      · cases hrest
      · split at hrest <;> cases hrest
      · rename_i hdir
        cases hrest
        exact .inr ⟨rfl, hdir⟩

/-- A path does not lead anywhere if nothing is there. -/
lemma contains_of_node?_eq_none (h : t.node? (location path) = none) :
    t.contains path = false := by
  rw [Bool.eq_false_iff]
  intro hc
  rcases contains_cases hc with ⟨content, -, hfile⟩ | ⟨-, hdir⟩
  · rw [h] at hfile
    cases hfile
  · rw [h] at hdir
    cases hdir

/-- Nothing is where no file is and no directory is. -/
lemma Admits.node?_eq_none (h : t.Admits path) (hnone : t.content? (location path) = none) :
    t.node? (location path) = none := by
  cases hn : t.node? (location path) with
  | none => rfl
  | some entry =>
    cases entry with
    | file content => exact absurd hn (content?_eq_none_iff.1 hnone content)
    | directory => exact absurd hn h.free

lemma contains_of_isFile (h : t.IsFile path) : t.contains path = true := by
  obtain ⟨content, hr⟩ := h
  unfold FileTree.read at hr
  unfold contains
  split at hr
  · rename_i hl
    rw [hl]
    rfl
  · cases hr
  · cases hr

/-- A file that a path leads to is removed. -/
lemma removeFile_of_isFile (h : t.IsFile path) :
    (∃ content, t.node? (location path) = some (.file content)) ∧
      (removeFile path).apply t = (.ok (), t.erase (location path)) := by
  obtain ⟨content, hr⟩ := h
  have hl := lookup_eq_file_iff.2 (read_eq_ok_iff.1 hr)
  refine ⟨⟨content, (read_eq_ok_iff.1 hr).2.1⟩, ?_⟩
  unfold removeFile
  rw [apply_bind, apply_get]
  dsimp only
  rw [hl]
  rfl

/-! ## Deleting files -/

/-- Files are gone, and only at the given locations. -/
def ShrinksAt (locs : Set Location) (t u : FileTree) : Prop :=
  ∀ l, u.node? l = t.node? l ∨
    (l ∈ locs ∧ (∃ content, t.node? l = some (.file content)) ∧ u.node? l = none)

lemma ShrinksAt.refl (locs : Set Location) (t : FileTree) : ShrinksAt locs t t :=
  fun _ => .inl rfl

lemma ShrinksAt.trans (h : ShrinksAt locs t u) (h' : ShrinksAt locs u v) :
    ShrinksAt locs t v := by
  intro l
  rcases h l with hl | ⟨hm, ht, hu⟩ <;> rcases h' l with hl' | ⟨hm', ⟨content, hu'⟩, hv⟩
  · exact .inl (hl'.trans hl)
  · exact .inr ⟨hm', ⟨content, hl ▸ hu'⟩, hv⟩
  · exact .inr ⟨hm, ht, hl'.trans hu⟩
  · rw [hu] at hu'
    cases hu'

lemma ShrinksAt.mono (h : ShrinksAt locs t u) (hm : locs ⊆ more) : ShrinksAt more t u :=
  fun l => (h l).imp id fun ⟨hl, hrest⟩ => ⟨hm hl, hrest⟩

lemma ShrinksAt.changesAt (h : ShrinksAt locs t u) : ChangesAt locs t u := by
  refine ⟨fun l hl => ?_, fun l hl => ?_⟩
  · rcases h l with hsame | ⟨-, ⟨content, hfile⟩, -⟩
    · rw [hsame, hl]
    · rw [hl] at hfile
      cases hfile
  · rcases h l with hsame | ⟨hm, -⟩
    · exact content?_of_node? hsame
    · exact absurd hm hl

lemma ShrinksAt.node?_eq_none (h : ShrinksAt locs t u) {l : Location} (hl : t.node? l = none) :
    u.node? l = none := by
  rcases h l with hsame | ⟨-, -, hu⟩
  · rw [hsame, hl]
  · exact hu

/-- A path leads to a file that can be deleted, or there is nothing to delete. -/
def IsDeletable (t : FileTree) (path : String) : Prop :=
  t.IsFile path ∨ t.node? (location path) = none

lemma ShrinksAt.isDeletable (h : ShrinksAt locs t u) (hd : t.IsDeletable path) :
    u.IsDeletable path := by
  rcases hd with ⟨content, hr⟩ | hnone
  · rcases h (location path) with hsame | ⟨-, -, hu⟩
    · obtain ⟨hloc, hfile, hdemands⟩ := read_eq_ok_iff.1 hr
      obtain ⟨hfollow, habove, -⟩ := locate_eq_ok_iff.1 hloc
      refine .inl ⟨content, read_eq_ok_iff.2 ⟨locate_eq_ok_iff.2 ⟨hfollow, fun d hd => ?_, rfl⟩,
        hsame.trans hfile, hdemands⟩⟩
      exact h.changesAt.directories d (habove d hd)
    · exact .inr hu
  · exact .inr (h.node?_eq_none hnone)

lemma node?_erase_file {l : Location} {content : Content} (h : t.node? l = some (.file content)) :
    (t.erase l).node? l = none := by
  have hroot : l ≠ [] := by
    rintro rfl
    rw [node?_nil] at h
    cases h
  exact node?_erase_self t hroot

lemma shrinksAt_erase {l : Location} {content : Content} (h : t.node? l = some (.file content)) :
    ShrinksAt {l} t (t.erase l) := by
  intro d
  by_cases hd : d = l
  · subst hd
    exact .inr ⟨rfl, ⟨content, h⟩, node?_erase_file h⟩
  · exact .inl (node?_erase_of_ne t hd)

/-! ## What stays there -/

/-- Nothing is taken away: directories stay directories, and files stay files. -/
structure Extends (t u : FileTree) : Prop where
  directories : ∀ l, t.node? l = some .directory → u.node? l = some .directory
  files : ∀ l, t.content? l ≠ none → u.content? l ≠ none

lemma Extends.refl (t : FileTree) : Extends t t := ⟨fun _ h => h, fun _ h => h⟩

lemma Extends.trans (t u v : FileTree) (h : Extends t u) (h' : Extends u v) : Extends t v :=
  ⟨fun l hl => h'.directories l (h.directories l hl), fun l hl => h'.files l (h.files l hl)⟩

/-- What a write has written is there, and nothing is taken away. -/
lemma IsWriteTo.extends (hw : IsWriteTo path t u) : Extends t u := by
  have hchanges := hw.changesAt
  refine ⟨hchanges.directories, fun l hl => ?_⟩
  by_cases hp : l = location path
  · subst hp
    cases hw with
    | directories hgrows =>
      have hunchanged : ChangesAt ∅ t u := hgrows.changesAt
      rwa [hunchanged.files (location path) (Set.notMem_empty _)]
    | file text w hgrows hwritten =>
      rw [content?_eq_some_iff.2 hwritten.place]
      exact Option.some_ne_none _
  · rwa [hchanges.files l hp]

lemma extends_writeAtomic {text : String} {r : Except FileError Unit}
    (hw : (writeAtomic path text).apply t = (r, u)) : Extends t u :=
  (isWriteTo_of_writeAtomic hw).extends

/-- A path that leads to a file still does. -/
lemma Extends.isFile (h : Extends t u) (hf : t.IsFile path) : u.IsFile path := by
  obtain ⟨content, hr⟩ := hf
  obtain ⟨hloc, hfile, hdemands⟩ := read_eq_ok_iff.1 hr
  obtain ⟨hfollow, habove, -⟩ := locate_eq_ok_iff.1 hloc
  have hsome : t.content? (location path) ≠ none := by
    rw [content?_eq_some_iff.2 hfile]
    exact Option.some_ne_none _
  obtain ⟨content', hcontent⟩ := Option.ne_none_iff_exists'.1 (h.files _ hsome)
  refine ⟨content', read_eq_ok_iff.2 ⟨locate_eq_ok_iff.2 ⟨hfollow, fun d hd => ?_, rfl⟩,
    content?_eq_some_iff.1 hcontent, hdemands⟩⟩
  exact h.directories d (habove d hd)

/-- What stands in the way of a file stays there. -/
lemma Admits.of_extends (h : u.Admits path) (hx : Extends t u) : t.Admits path := by
  refine ⟨h.followable, h.named, h.noPoint, h.noPoints, h.apart, fun d hd content hfile => ?_,
    fun hdir => h.free (hx.directories _ hdir)⟩
  have hsome : t.content? d ≠ none := by
    rw [content?_eq_some_iff.2 hfile]
    exact Option.some_ne_none _
  obtain ⟨content', hcontent⟩ := Option.ne_none_iff_exists'.1 (hx.files d hsome)
  exact h.clear d hd content' (content?_eq_some_iff.1 hcontent)

/-! ## Writes that can be repeated -/

/-- A write that fails leaves what stands in its way. -/
theorem not_admits_of_error {text : String} {e : FileError}
    (hw : (writeAtomic path text).apply t = (.error e, u)) : ¬ u.Admits path := by
  intro hu
  have ht : t.Admits path := hu.of_extends (extends_writeAtomic hw)
  obtain ⟨v, hv⟩ := writeAtomic_of_admits ht text
  rw [hw] at hv
  cases hv

/-- The name of a file that takes its place is none of the names of directories. -/
lemma named_of_replaceable {l : Location} (h : t.replaceable path = .ok l) :
    base path ≠ "" ∧ base path ≠ "." ∧ base path ≠ ".." := by
  obtain ⟨l', hloc, hrest⟩ := except_bind_eq_ok.1 h
  have hfollow := (locate_eq_ok_iff.1 hloc).1
  split at hrest
  · cases hrest
  · rename_i hpoint
    split at hrest
    · cases hrest
    · rename_i hslash
      have hbase : base path ≠ "" :=
        fun hb => hslash (endsWith_slash_of_base_eq hb hfollow.nonempty)
      rw [last_of_base_ne hbase] at hpoint
      exact ⟨hbase, fun h₁ => hpoint (.inl h₁), fun h₂ => hpoint (.inr h₂)⟩

/-- A write that succeeds could be repeated. -/
theorem admits_of_writeAtomic {text : String}
    (hw : (writeAtomic path text).apply t = (.ok (), u)) : u.Admits path := by
  unfold writeAtomic writeWithin at hw
  obtain ⟨loc, w, -, hw⟩ := apply_bind_eq_ok.1 hw
  simp only [apply_bind, apply_get, apply_modify] at hw
  rcases moveTo_cases (node?_freshName w loc)
    (temporaryIn (directory path)) path text with
    ⟨cause, x, -, hx, -⟩ | ⟨l, x, hreplaceable, hx, hwritten⟩
  · rw [hw] at hx
    cases hx
  · rw [hw] at hx
    cases hx
    obtain ⟨hnamed, hpoint, hpoints⟩ := named_of_replaceable hreplaceable
    have hne : ∀ d ∈ directories path, d ≠ location path := fun d hd hc =>
      hwritten.noDirectory (hc ▸ hwritten.above d hd)
    refine ⟨hwritten.followable, hnamed, hpoint, hpoints, fun hm => hne _ hm rfl,
      fun d hd content hfile => ?_, fun hdir => ?_⟩
    · rw [hwritten.others d (hne d hd), hwritten.above d hd] at hfile
      cases hfile
    · rw [hwritten.place] at hdir
      cases hdir

/-- A file that can be read can be replaced. -/
theorem admits_of_isFile (h : t.IsFile path) : t.Admits path := by
  obtain ⟨content, hread⟩ := h
  obtain ⟨hlocate, hfile, hdemands⟩ := read_eq_ok_iff.1 hread
  obtain ⟨hfollow, habove, -⟩ := locate_eq_ok_iff.1 hlocate
  obtain ⟨hnamed, hpoint⟩ := base_of_demandsDirectory hdemands hfollow.nonempty
  have hapart : location path ∉ directories path := by
    intro hm
    rw [habove _ hm] at hfile
    cases hfile
  refine ⟨hfollow, hnamed, hpoint, fun hpoints => ?_, hapart, fun d hd content' hc => ?_, ?_⟩
  · -- two points lead to a directory that has been passed before
    have hup : location path = (follow [] (components (parent path))).dropLast := by
      rw [location, components_of_base_ne hnamed, hpoints, follow_append, follow_cons, follow_nil,
        step, if_neg (by decide), if_pos rfl]
    have hpassed : directories path =
        passed [] (components (parent path)) ++ [follow [] (components (parent path))] := by
      rw [directories, components_of_base_ne hnamed, passed_append, passed, passed]
    by_cases hroot : follow [] (components (parent path)) = []
    · rw [hup, hroot, List.dropLast_nil, node?_nil] at hfile
      cases hfile
    · refine hapart ?_
      rw [hup, hpassed]
      refine List.mem_append_left _
        (mem_passed_of_prefix_of_ne (List.dropLast_prefix _) fun hc => ?_)
      have hlength := congrArg List.length hc
      have hpos := List.length_pos_of_ne_nil hroot
      rw [List.length_dropLast] at hlength
      omega
  · rw [habove d hd] at hc
    cases hc
  · intro hdir
    rw [hfile] at hdir
    cases hdir

/-- Where there is a file, the directories above it are there. -/
lemma IsFile.node?_of_mem_made (h : t.IsFile path) {l : Location} (hl : l ∈ made path) :
    t.node? l = some .directory := by
  have hnamed := (admits_of_isFile h).named
  obtain ⟨content, hread⟩ := h
  obtain ⟨-, habove, -⟩ := locate_eq_ok_iff.1 (read_eq_ok_iff.1 hread).1
  exact habove l (made_subset hnamed l hl)

/-- What has been written is a file, and it is read back. -/
lemma readText_of_writeAtomic {text : String}
    (hw : (writeAtomic path text).apply t = (.ok (), u)) : u.readText path = .ok text := by
  have hadmits := admits_of_writeAtomic hw
  exact readText_writeAtomic_self hw hadmits.named hadmits.noPoint

/-- A write that is repeated changes nothing. -/
theorem node?_of_rewritten {text : String} (hw : (writeAtomic path text).apply t = (.ok (), u))
    (hagain : (writeAtomic path text).apply u = (.ok (), v)) (l : Location) :
    v.node? l = u.node? l := by
  rcases writeAtomic_cases path text t with ⟨e, x, hx, -⟩ | ⟨x, y, hx, -, hwritten⟩
  · rw [hw] at hx
    cases hx
  rw [hw] at hx
  cases hx
  rcases writeAtomic_cases path text u with ⟨e, x, hx, -⟩ | ⟨x, z, hx, hgrows, hrewritten⟩
  · rw [hagain] at hx
    cases hx
  rw [hagain] at hx
  cases hx
  by_cases hl : l = location path
  · rw [hl, hrewritten.place, hwritten.place]
  · rw [hrewritten.others l hl]
    rcases hgrows l with hsame | ⟨hmade, hnone, -⟩
    · exact hsame
    · -- the directories that a write makes are there after the first one
      have hd := made_subset (admits_of_writeAtomic hw).named l hmade
      rw [hwritten.others l hl, hwritten.above l hd] at hnone
      cases hnone

/-- A path whose text can be read leads to a file. -/
lemma isFile_of_readText {text : String} (h : t.readText path = .ok text) : t.IsFile path := by
  unfold FileTree.readText at h
  cases hr : t.read path with
  | error e =>
    rw [hr] at h
    cases h
  | ok content => exact ⟨content, hr⟩

/-! ## Checking where files may be written -/

instance (path : String) : Decidable (IsFollowable path) :=
  decidable_of_iff ('\x00' ∉ path.toList ∧ path.utf8ByteSize < pathLimit ∧ path ≠ "" ∧
      Text.startsWith "/" path = false ∧ ∀ c ∈ components path, c.utf8ByteSize ≤ nameLimit)
    ⟨fun ⟨h₁, h₂, h₃, h₄, h₅⟩ => ⟨h₁, h₂, h₃, h₄, h₅⟩,
      fun h => ⟨h.noNull, h.short, h.nonempty, h.relative, h.names⟩⟩

/-- Whether a directory stands at a location. -/
def isDirectoryAt (t : FileTree) (l : Location) : Bool :=
  match t.node? l with
  | some .directory => true
  | _ => false

lemma isDirectoryAt_iff {l : Location} :
    t.isDirectoryAt l = true ↔ t.node? l = some .directory := by
  unfold isDirectoryAt
  split <;> simp_all

instance (t : FileTree) (path : String) : Decidable (t.Admits path) :=
  decidable_of_iff (IsFollowable path ∧ (base path ≠ "" ∧ base path ≠ "." ∧ base path ≠ "..") ∧
      location path ∉ directories path ∧ (∀ d ∈ directories path, (t.content? d).isNone = true) ∧
      t.isDirectoryAt (location path) = false)
    ⟨fun ⟨hf, ⟨h, h₁, h₂⟩, hapart, hclear, hfree⟩ => ⟨hf, h, h₁, h₂, hapart,
        fun d hd => content?_eq_none_iff.1 (Option.isNone_iff_eq_none.1 (hclear d hd)),
        fun hdir => Bool.false_ne_true (hfree.symm.trans (isDirectoryAt_iff.2 hdir))⟩,
      fun h => ⟨h.followable, ⟨h.named, h.noPoint, h.noPoints⟩, h.apart,
        fun d hd => Option.isNone_iff_eq_none.2 (content?_eq_none_iff.2 (h.clear d hd)),
        Bool.eq_false_iff.2 fun hdir => h.free (isDirectoryAt_iff.1 hdir)⟩⟩

end SheetCompiler.FileTree
