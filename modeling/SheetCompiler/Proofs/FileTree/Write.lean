import SheetCompiler.Proofs.FileTree.Location
import SheetCompiler.Proofs.Stateful
import Mathlib.Data.List.Nodup
import Mathlib.Data.List.Perm.Subperm
import Mathlib.Data.List.TakeWhile

/-!
# What a write does to a tree

A write makes the directories above its place, and then changes one location. Making directories
only adds them (`GrowsAt`), and the temporary file of a write is gone afterwards, so that a write
changes no file but the one at its path.

Main statements:

* `node?_freshName`: the temporary file takes the place of nothing;
* `writeAtomic_cases`: both outcomes of a write, location by location;
* `writeAtomic_of_admits`: a write succeeds where nothing stands in its way.
-/

namespace SheetCompiler

namespace Path

open SheetCompiler.Text

/-! ## The directory of a path and the name in it -/

/-- The locations at which a write to a path may make directories. -/
def made (path : String) : List Location :=
  (above (directory path) ++ [directory path]).map location

lemma comps_append_slashes (cs : List Char) {slashes : List Char} (h : ∀ c ∈ slashes, c = '/') :
    comps (cs ++ slashes) = comps cs := by
  induction slashes generalizing cs with
  | nil => rw [List.append_nil]
  | cons c slashes ih =>
    have hc : c = '/' := h c (by simp)
    rw [hc, ← List.singleton_append, ← List.append_assoc, ih _ fun d hd => h d (by simp [hd]),
      comps_append_slash_nil]

lemma comps_dropSlashes (cs : List Char) : comps (dropSlashes cs) = comps cs := by
  unfold dropSlashes
  split
  · rfl
  · have hcs : cs = (cs.reverse.dropWhile (· = '/')).reverse
        ++ (cs.reverse.takeWhile (· = '/')).reverse := by
      rw [← List.reverse_append, List.takeWhile_append_dropWhile, List.reverse_reverse]
    conv_rhs => rw [hcs]
    rw [comps_append_slashes]
    intro c hc
    rw [List.mem_reverse] at hc
    simpa using List.mem_takeWhile_imp hc

/-- A path is what stands up to its last slash, and its last name. -/
lemma toList_eq_beforeBase_append (path : String) :
    path.toList = beforeBase path.toList ++ (base path).toList := by
  rw [beforeBase, base, String.toList_ofList, ← List.reverse_append,
    List.takeWhile_append_dropWhile, List.reverse_reverse]

/-- The directory of a path begins it. -/
lemma parent_begins (path : String) : (parent path).toList <+: path.toList := by
  have hbefore : (parent path).toList <+: beforeBase path.toList := by
    rw [parent, String.toList_ofList, dropSlashes]
    split
    · exact List.prefix_rfl
    · have hsplit := List.takeWhile_append_dropWhile (p := (· = '/'))
        (l := (beforeBase path.toList).reverse)
      refine ⟨((beforeBase path.toList).reverse.takeWhile (· = '/')).reverse, ?_⟩
      rw [← List.reverse_append, hsplit, List.reverse_reverse]
  refine hbefore.trans ⟨(base path).toList, ?_⟩
  rw [← toList_eq_beforeBase_append]

lemma slash_not_mem_base (path : String) : '/' ∉ (base path).toList := by
  rw [base, String.toList_ofList, List.mem_reverse]
  intro h
  simpa using List.mem_takeWhile_imp h

/-- What stands up to the last slash is nothing, or ends in that slash. -/
lemma beforeBase_eq_nil_or (cs : List Char) :
    beforeBase cs = [] ∨ ∃ front, beforeBase cs = front ++ ['/'] := by
  rw [beforeBase]
  cases h : cs.reverse.dropWhile (· ≠ '/') with
  | nil => exact .inl rfl
  | cons c rest =>
    have hslash : c = '/' := by
      have hne : cs.reverse.dropWhile (· ≠ '/') ≠ [] := by rw [h]; simp
      have hc := List.head_dropWhile_not (fun c => decide (c ≠ '/')) hne
      simp only [h, List.head_cons] at hc
      simpa using hc
    exact .inr ⟨rest.reverse, by rw [hslash, List.reverse_cons]⟩

/-- The components of a path are those of its directory, and its last name. -/
lemma components_of_base_ne {path : String} (h : base path ≠ "") :
    components path = components (parent path) ++ [base path] := by
  have hne : (base path).toList ≠ [] := fun hc => h (String.toList_inj.1 hc)
  have hbase := comps_of_not_mem (slash_not_mem_base path) hne
  rw [components_eq, components_eq, parent, String.toList_ofList, comps_dropSlashes]
  conv_lhs => rw [toList_eq_beforeBase_append path]
  rcases beforeBase_eq_nil_or path.toList with hb | ⟨front, hb⟩
  · rw [hb, List.nil_append, hbase, comps_nil]
    simp
  · rw [hb, List.append_assoc, List.singleton_append, comps_append_slash, hbase,
      comps_append_slash_nil]
    simp

lemma location_directory (path : String) :
    location (directory path) = FileTree.follow [] (components (parent path)) := by
  unfold directory
  split
  · rename_i h
    rw [h]
    rfl
  · rfl

lemma components_point : components "." = ["."] := by decide

lemma location_point : location "." = [] := by
  rw [location, components_point]
  rfl

lemma directories_point : directories "." = [[]] := by
  rw [directories, components_point]
  rfl

/-- The locations where a write makes directories are passed on the way to its path. -/
lemma made_subset {path : String} (h : base path ≠ "") : ∀ l ∈ made path, l ∈ directories path := by
  intro l hl
  rw [made, List.map_append, List.mem_append] at hl
  rw [directories, FileTree.mem_passed_iff, components_of_base_ne h]
  rcases hl with hl | hl
  · rw [List.mem_map] at hl
    obtain ⟨u, hu, rfl⟩ := hl
    have hmem : components u ∈ (above (directory path)).map components := List.mem_map_of_mem hu
    rw [components_above] at hmem
    obtain ⟨c, rest, hrest⟩ := mem_beginnings hmem
    rw [List.nil_append] at hrest
    unfold directory at hrest
    split at hrest
    · -- nothing stands above the working directory
      rename_i hp
      rw [components_point] at hrest
      cases hu' : components u with
      | nil => exact ⟨[], base path, [], by rw [hp]; rfl, by rw [location, hu']⟩
      | cons d ds => rw [hu'] at hrest; simp at hrest
    · exact ⟨components u, c, rest ++ [base path], by rw [hrest]; simp, rfl⟩
  · rw [List.map_singleton, List.mem_singleton] at hl
    exact ⟨components (parent path), base path, [], rfl, by rw [hl, location_directory]⟩

end Path

namespace FileTree

open SheetCompiler.Path SheetCompiler.Stateful

/-! ## Making directories -/

/-- Only directories are new, and only at the given locations. -/
def GrowsAt (locs : List Location) (t u : FileTree) : Prop :=
  ∀ l, u.node? l = t.node? l ∨ (l ∈ locs ∧ t.node? l = none ∧ u.node? l = some .directory)

lemma GrowsAt.refl (locs : List Location) (t : FileTree) : GrowsAt locs t t := fun _ => .inl rfl

lemma GrowsAt.trans {locs : List Location} (t u v : FileTree) (h : GrowsAt locs t u)
    (h' : GrowsAt locs u v) : GrowsAt locs t v := by
  intro l
  rcases h l with hl | ⟨hm, ht, hu⟩
  · rcases h' l with hl' | ⟨hm, hu, hv⟩
    · exact .inl (hl'.trans hl)
    · exact .inr ⟨hm, hl ▸ hu, hv⟩
  · rcases h' l with hl' | ⟨-, hu', -⟩
    · exact .inr ⟨hm, ht, hl'.trans hu⟩
    · rw [hu] at hu'
      cases hu'

lemma GrowsAt.mono {locs more : List Location} {t u : FileTree} (h : GrowsAt locs t u)
    (hm : ∀ l ∈ locs, l ∈ more) : GrowsAt more t u := fun l => by
  rcases h l with hl | ⟨hl, ht, hu⟩
  · exact .inl hl
  · exact .inr ⟨hm l hl, ht, hu⟩

/-- What is there stays. -/
lemma GrowsAt.node?_of_some {locs : List Location} {t u : FileTree} (h : GrowsAt locs t u)
    {l : Location} {e : Entry} (he : t.node? l = some e) : u.node? l = some e := by
  rcases h l with hl | ⟨-, ht, -⟩
  · rw [hl, he]
  · rw [he] at ht
    cases ht

/-- Files are not made. -/
lemma GrowsAt.file_iff {locs : List Location} {t u : FileTree} (h : GrowsAt locs t u) (l : Location)
    (content : Content) : u.node? l = some (.file content) ↔ t.node? l = some (.file content) := by
  refine ⟨fun hu => ?_, h.node?_of_some⟩
  rcases h l with hl | ⟨-, -, hd⟩
  · rw [← hl, hu]
  · rw [hu] at hd
    cases hd

lemma apply_locateM (path : String) (t : FileTree) :
    (locateM path).apply t =
      match t.locate path with
      | .ok loc => (.ok loc, t)
      | .error cause => (.error ⟨cause, path, none⟩, t) := by
  simp only [locateM, apply_bind, apply_get]
  cases t.locate path <;> rfl

/-- Making a directory puts it at its path, where nothing was. -/
lemma apply_makeDirectory (path : String) (t : FileTree) :
    (makeDirectory path).apply t =
      match t.locate path with
      | .error cause => (.error ⟨cause, path, none⟩, t)
      | .ok loc =>
        match t.node? loc with
        | some _ => (.error ⟨.exists, path, none⟩, t)
        | none => (.ok (), t.put loc .directory) := by
  rw [makeDirectory, apply_bind, apply_locateM]
  cases t.locate path with
  | error cause => rfl
  | ok loc =>
    simp only [apply_bind, apply_get]
    cases t.node? loc <;> rfl

lemma growsAt_put {t : FileTree} {loc : Location} (h : t.node? loc = none) :
    GrowsAt [loc] t (t.put loc .directory) := by
  have hne : loc ≠ [] := fun hc => by simp [hc] at h
  intro l
  by_cases hl : l = loc
  · subst hl
    exact .inr ⟨by simp, h, node?_put_self t hne _⟩
  · exact .inl (node?_put_of_ne t hl _)

lemma keeps_makeDirectory (path : String) :
    Keeps (GrowsAt [location path]) (makeDirectory path) := by
  intro t
  rw [apply_makeDirectory]
  cases hl : t.locate path with
  | error cause => exact GrowsAt.refl _ _
  | ok loc =>
    have hloc := (locate_eq_ok_iff.1 hl).2.2
    dsimp only
    cases hn : t.node? loc with
    | some e => exact GrowsAt.refl _ _
    | none =>
      rw [← hloc]
      exact growsAt_put hn

lemma keeps_makeMissing (path : String) : Keeps (GrowsAt [location path]) (makeMissing path) := by
  refine Keeps.bind GrowsAt.trans (Keeps.get (GrowsAt.refl _)) fun t => ?_
  split
  · exact Keeps.pure (GrowsAt.refl _) _
  · exact keeps_makeDirectory path

lemma keeps_ensureDirectory (path : String) :
    Keeps (GrowsAt [location path]) (ensureDirectory path) := by
  refine Keeps.bind GrowsAt.trans (Keeps.get (GrowsAt.refl _)) fun t => ?_
  split
  · exact Keeps.pure (GrowsAt.refl _) _
  · exact keeps_makeDirectory path

/-- Making the directory of a path and those above it only adds directories. -/
lemma keeps_makeDirectories (path : String) :
    Keeps (GrowsAt (made path)) (makeDirectories (directory path)) := by
  have hmono {u : String} {a : Update Unit} (ha : Keeps (GrowsAt [location u]) a)
      (hu : location u ∈ made path) : Keeps (GrowsAt (made path)) a :=
    fun t => (ha t).mono fun l hl => by rwa [List.mem_singleton.1 hl]
  refine Keeps.bind GrowsAt.trans ?_ fun _ => ?_
  · refine Keeps.forM (GrowsAt.refl _) GrowsAt.trans fun u hu => ?_
    exact hmono (keeps_makeMissing u) (List.mem_map_of_mem (by simp [hu]))
  · exact hmono (keeps_ensureDirectory _) (List.mem_map_of_mem (by simp))

/-! ## The temporary file -/

lemma temporaryName_inj {j k : Nat} (h : temporaryName j = temporaryName k) : j = k := by
  rw [← String.toList_inj] at h
  simp only [temporaryName, String.toList_append, List.append_cancel_left_eq,
    List.append_cancel_right_eq] at h
  have hrepr (n : Nat) : (toString n).toList = Nat.toDigits 10 n := by
    show n.repr.toList = _
    rw [Nat.repr_eq_ofList_toDigits, String.toList_ofList]
  rw [hrepr, hrepr] at h
  rw [← Nat.ofDigitChars_ten_toDigits (n := j), h, Nat.ofDigitChars_ten_toDigits]

lemma node?_eq_none_iff {t : FileTree} {loc : Location} :
    t.node? loc = none ↔ loc ≠ [] ∧ loc ∉ t.entries.map Prod.fst := by
  unfold node?
  by_cases h : loc = []
  · simp [h]
  · rw [if_neg h, Option.map_eq_none_iff, List.find?_eq_none]
    constructor
    · intro hall
      refine ⟨h, fun hm => ?_⟩
      obtain ⟨e, he, rfl⟩ := List.mem_map.1 hm
      exact hall e he (by simp)
    · rintro ⟨-, hm⟩ e he hd
      exact hm (List.mem_map.2 ⟨e, he, by simpa using hd⟩)

/-- The temporary file takes the place of nothing: there are more names than entries. -/
theorem node?_freshName (t : FileTree) (loc : Location) :
    t.node? (loc ++ [freshName t loc]) = none := by
  have hfree : ∃ k ∈ List.range (t.entries.length + 1),
      t.node? (loc ++ [temporaryName k]) = none := by
    by_contra hall
    -- otherwise every name would be that of an entry
    have hsub : (List.range (t.entries.length + 1)).map (fun k => loc ++ [temporaryName k]) ⊆
        t.entries.map Prod.fst := by
      intro l hl
      obtain ⟨k, hk, rfl⟩ := List.mem_map.1 hl
      by_contra hm
      exact hall ⟨k, hk, node?_eq_none_iff.2 ⟨by simp, hm⟩⟩
    have hnodup : ((List.range (t.entries.length + 1)).map
        fun k => loc ++ [temporaryName k]).Nodup := by
      refine List.Nodup.map (fun j k hjk => temporaryName_inj ?_) List.nodup_range
      simpa using hjk
    have hle := (List.subperm_of_subset hnodup hsub).length_le
    simp only [List.length_map, List.length_range] at hle
    omega
  obtain ⟨k, hk, hnone⟩ := hfree
  have hsome : ((List.range (t.entries.length + 1)).find?
      fun k => !(t.node? (loc ++ [temporaryName k])).isSome).isSome :=
    List.find?_isSome.2 ⟨k, hk, by simp [hnone]⟩
  obtain ⟨j, hj⟩ := Option.isSome_iff_exists.1 hsome
  have hname : freshName t loc = temporaryName j := by
    unfold freshName
    simp only [hj, Option.getD_some]
  have := List.find?_some hj
  rw [hname]
  simpa using this

/-! ## Writing -/

/-- What a successful write makes of a tree in which the directories are there already. -/
structure Written (path text : String) (v u : FileTree) : Prop where
  followable : IsFollowable path
  above : ∀ d ∈ directories path, v.node? d = some .directory
  noDirectory : v.node? (location path) ≠ some .directory
  place : u.node? (location path) = some (.file (.text text))
  others : ∀ l, l ≠ location path → u.node? l = v.node? l

/-- A place that a file may take is what the path leads to, and no directory. -/
lemma locate_of_replaceable {t : FileTree} {path : String} {loc : Location}
    (h : t.replaceable path = .ok loc) :
    t.locate path = .ok loc ∧ t.node? loc ≠ some .directory := by
  obtain ⟨loc', hl, hrest⟩ := except_bind_eq_ok.1 h
  split at hrest
  · cases hrest
  · split at hrest
    · cases hrest
    · split at hrest
      · cases hrest
      · rename_i hn
        cases hrest
        exact ⟨hl, hn⟩

/-- Moving a file that lies at a free location changes the location it is moved to, or nothing. -/
lemma moveTo_cases {v : FileTree} {source : Location} (hs : v.node? source = none)
    (shown path text : String) :
    (∃ cause u, (v.put source (.file (.text text))).replaceable path = .error cause ∧
      (moveTo source shown path (.text text)).apply (v.put source (.file (.text text))) =
        (.error ⟨cause, shown, some path⟩, u) ∧ ∀ l, u.node? l = v.node? l) ∨
    (∃ loc u, (v.put source (.file (.text text))).replaceable path = .ok loc ∧
      (moveTo source shown path (.text text)).apply (v.put source (.file (.text text))) =
        (.ok (), u) ∧ Written path text v u) := by
  have hne : source ≠ [] := fun hc => by simp [hc] at hs
  -- taking the temporary file away again leaves everything as it was
  have herase (l : Location) :
      ((v.put source (.file (.text text))).erase source).node? l = v.node? l := by
    by_cases hl : l = source
    · rw [hl, node?_erase_self _ hne, hs]
    · rw [node?_erase_of_ne _ hl, node?_put_of_ne _ hl]
  cases hr : (v.put source (.file (.text text))).replaceable path with
  | error cause =>
    refine .inl ⟨cause, (v.put source (.file (.text text))).erase source, rfl, ?_, herase⟩
    simp [moveTo, hr]
  | ok loc =>
    refine .inr ⟨loc, ((v.put source (.file (.text text))).erase source).put loc
      (.file (.text text)), rfl, by simp [moveTo, hr], ?_⟩
    obtain ⟨hl, hn⟩ := locate_of_replaceable hr
    obtain ⟨hpath, habove, hloc⟩ := locate_eq_ok_iff.1 hl
    subst hloc
    have hroot : location path ≠ [] := fun hc => hn (by rw [hc, node?_nil])
    refine ⟨hpath, fun d hd => ?_, fun hd => hn ?_, node?_put_self _ hroot _, fun l hl => ?_⟩
    · -- the temporary file is no directory, so it is not passed
      have hd' := habove d hd
      by_cases hds : d = source
      · rw [hds, node?_put_self _ hne] at hd'
        cases hd'
      · rwa [node?_put_of_ne _ hds] at hd'
    · have hls : location path ≠ source := fun hc => by rw [hc, hs] at hd; cases hd
      rwa [node?_put_of_ne _ hls]
    · rw [node?_put_of_ne _ hl, herase]

/-- What goes beyond no bound passes. -/
lemma checkBound_of_not {bound : Option Nat} {n : Nat} (h : isBeyond bound n = false)
    (cause : FileCause) (path : String) : checkBound bound n cause path = pure () := by
  rw [checkBound, h, if_neg Bool.false_ne_true]

lemma keeps_checkBound (locs : List Location) (bound : Option Nat) (n : Nat) (cause : FileCause)
    (path : String) : Keeps (GrowsAt locs) (checkBound bound n cause path) := by
  unfold checkBound
  split
  · exact Keeps.throw (GrowsAt.refl _) _
  · exact Keeps.pure (GrowsAt.refl _) _

/-- Within its bounds a directory is made and located. -/
lemma apply_prepareWithin {b : Bounds} {t : FileTree} {directory : String}
    (hdepth : isBeyond b.depth (t.missingAbove directory).length = false)
    (hroom : isBeyond b.room (temporarySize directory) = false) :
    (prepareWithin b directory).apply t =
      (makeDirectories directory >>= fun _ => locateM directory).apply t := by
  rw [prepareWithin, apply_bind_of_ok (apply_get t), checkBound_of_not hdepth,
    checkBound_of_not hroom]
  simp only [pure_bind, bind_pure]

lemma prepareWithin_none (directory : String) :
    prepareWithin .none directory = makeDirectories directory >>= fun _ => locateM directory :=
  funext fun _ => apply_prepareWithin rfl rfl

/-- Making the directory of a path and locating it only adds directories, within any bounds. -/
lemma keeps_prepareWithin (b : Bounds) (path : String) :
    Keeps (GrowsAt (made path)) (prepareWithin b (directory path)) := by
  have hlocate : Keeps (GrowsAt (made path)) (locateM (directory path)) := fun t => by
    rw [apply_locateM]
    cases t.locate (directory path) <;> exact GrowsAt.refl _ _
  refine Keeps.bind GrowsAt.trans (Keeps.get (GrowsAt.refl _)) fun t => ?_
  refine Keeps.bind GrowsAt.trans (keeps_checkBound _ _ _ _ _) fun _ => ?_
  refine Keeps.bind GrowsAt.trans (keeps_makeDirectories path) fun _ => ?_
  refine Keeps.bind GrowsAt.trans hlocate fun loc => ?_
  exact Keeps.bind GrowsAt.trans (keeps_checkBound _ _ _ _ _) fun _ => Keeps.pure (GrowsAt.refl _) _

/-- A write within bounds fails and only makes directories, or it writes its file and nothing else
but directories. -/
theorem writeWithin_cases (b : Bounds) (path text : String) (t : FileTree) :
    (∃ e u, (writeWithin b path text).apply t = (.error e, u) ∧ GrowsAt (made path) t u) ∨
    (∃ u v, (writeWithin b path text).apply t = (.ok (), u) ∧ GrowsAt (made path) t v ∧
      Written path text v u) := by
  have hgrows := keeps_prepareWithin b path t
  unfold writeWithin
  rcases hp : (prepareWithin b (directory path)).apply t with ⟨e | loc, v⟩
  · rw [hp] at hgrows
    exact .inl ⟨e, v, by rw [apply_bind_of_error hp], hgrows⟩
  · rw [hp] at hgrows
    rw [apply_bind_of_ok hp]
    simp only [apply_bind, apply_get, apply_modify]
    rcases moveTo_cases (node?_freshName v loc) (temporaryIn (directory path)) path text
      with ⟨cause, u, -, hu, hsame⟩ | ⟨_, u, -, hu, hw⟩
    · refine .inl ⟨_, u, hu, fun l => ?_⟩
      rw [hsame]
      exact hgrows l
    · exact .inr ⟨u, v, hu, hgrows, hw⟩

/-- A write fails and only makes directories, or it writes its file and nothing else but
directories. -/
theorem writeAtomic_cases (path text : String) (t : FileTree) :
    (∃ e u, (writeAtomic path text).apply t = (.error e, u) ∧ GrowsAt (made path) t u) ∨
    (∃ u v, (writeAtomic path text).apply t = (.ok (), u) ∧ GrowsAt (made path) t v ∧
      Written path text v u) :=
  writeWithin_cases .none path text t

/-- What a write to a path makes of a tree, whether or not it succeeds: some directories, or also the
file. -/
inductive IsWriteTo (path : String) (t u : FileTree) : Prop
  | directories (h : GrowsAt (made path) t u)
  | file (text : String) (v : FileTree) (h : GrowsAt (made path) t v) (hw : Written path text v u)

lemma isWriteTo_of_writeAtomic {path text : String} {t u : FileTree} {r : Except FileError Unit}
    (hw : (writeAtomic path text).apply t = (r, u)) : IsWriteTo path t u := by
  rcases writeAtomic_cases path text t with ⟨e, v, hv, hgrows⟩ | ⟨v, w, hv, hgrows, hwritten⟩
  · rw [hw] at hv
    cases hv
    exact .directories hgrows
  · rw [hw] at hv
    cases hv
    exact .file text w hgrows hwritten

/-- A write whose text cannot be encoded makes directories. -/
lemma growsAt_writeNothing (path : String) (t : FileTree) :
    GrowsAt (made path) t ((writeNothing path).apply t).2 :=
  Keeps.bind GrowsAt.trans (keeps_prepareWithin .none path) (fun _ => Keeps.pure (GrowsAt.refl _) _) t

end FileTree

/-! ## Where a write succeeds -/

namespace Path

open SheetCompiler.Text

/-- A path that begins another one can be followed if that one can. -/
lemma IsFollowable.of_prefix {path u : String} (h : IsFollowable path)
    (hpre : u.toList <+: path.toList) (hne : u ≠ "")
    (hc : ∀ c ∈ components u, c ∈ components path) : IsFollowable u := by
  obtain ⟨rest, hrest⟩ := hpre
  have happ : path = u ++ String.ofList rest := by
    rw [← String.toList_inj, String.toList_append, String.toList_ofList, hrest]
  refine ⟨fun hn => h.noNull ?_, ?_, hne, ?_, fun c hcu => h.names c (hc c hcu)⟩
  · rw [← hrest]
    exact List.mem_append_left _ hn
  · have := h.short
    rw [happ, String.utf8ByteSize_append] at this
    omega
  · have hrel := h.relative
    have hslash : "/".toList = ['/'] := rfl
    rw [startsWith, ← hrest, hslash] at hrel
    rw [startsWith, hslash]
    cases hu : u.toList with
    | nil => rfl
    | cons c cs => rw [hu] at hrel; simpa [List.isPrefixOf] using hrel

lemma IsFollowable.of_mem_above {path u : String} (h : IsFollowable path) (hu : u ∈ above path) :
    IsFollowable u := by
  obtain ⟨hpre, hne⟩ := prefix_of_mem_above hu
  refine h.of_prefix hpre hne fun c hc => ?_
  have hmem : components u ∈ (above path).map components := List.mem_map_of_mem hu
  rw [components_above] at hmem
  obtain ⟨d, rest, hrest⟩ := mem_beginnings hmem
  rw [List.nil_append] at hrest
  rw [hrest]
  exact List.mem_append_left _ hc

lemma isFollowable_point : IsFollowable "." :=
  ⟨by decide, by decide, by decide, by decide, by decide⟩

lemma IsFollowable.directory {path : String} (h : IsFollowable path) (hb : base path ≠ "") :
    IsFollowable (directory path) := by
  unfold Path.directory
  split
  · exact isFollowable_point
  · rename_i hne
    refine h.of_prefix ?_ hne fun c hc => ?_
    · exact parent_begins path
    · rw [components_of_base_ne hb]
      exact List.mem_append_left _ hc

/-- A path with a last name does not end in a slash. -/
lemma exists_last_of_base_ne {path : String} (h : base path ≠ "") :
    ∃ front c, path.toList = front ++ [c] ∧ c ≠ '/' := by
  have hne : (base path).toList ≠ [] := fun hc => h (String.toList_inj.1 hc)
  refine ⟨beforeBase path.toList ++ (base path).toList.dropLast, (base path).toList.getLast hne,
    ?_, ?_⟩
  · rw [List.append_assoc, List.dropLast_append_getLast, ← toList_eq_beforeBase_append]
  · intro hc
    exact slash_not_mem_base path (hc ▸ List.getLast_mem hne)

lemma last_of_base_ne {path : String} (h : base path ≠ "") : last path = base path := by
  obtain ⟨front, c, hp, hc⟩ := exists_last_of_base_ne h
  have hdrop : dropSlashes path.toList = path.toList := by
    rw [dropSlashes, hp, if_neg (by simp [hc])]
    simp [hc]
  rw [last, hdrop, String.ofList_toList]

lemma endsWith_slash_of_base_ne {path : String} (h : base path ≠ "") :
    endsWith "/" path = false := by
  obtain ⟨front, c, hp, hc⟩ := exists_last_of_base_ne h
  have hslash : "/".toList = ['/'] := rfl
  rw [endsWith, hp, hslash, Bool.eq_false_iff]
  intro hend
  rw [List.isSuffixOf_iff_suffix] at hend
  obtain ⟨more, hmore⟩ := hend
  exact hc (List.append_inj' hmore rfl |>.2 |> List.cons.inj |>.1).symm

end Path

namespace FileTree

open SheetCompiler.Path SheetCompiler.Stateful

/-- Whether a file may be written at a path: no file stands where a directory above it must go, and
no directory where it must go itself. -/
structure Admits (t : FileTree) (path : String) : Prop where
  followable : IsFollowable path
  named : base path ≠ ""
  noPoint : base path ≠ "."
  noPoints : base path ≠ ".."
  apart : location path ∉ directories path
  clear : ∀ d ∈ directories path, ∀ content, t.node? d ≠ some (.file content)
  free : t.node? (location path) ≠ some .directory

/-- A directory is made, or is there, where no file stands. -/
lemma makeMissing_ok {t : FileTree} {u : String} (hf : IsFollowable u)
    (habove : ∀ d ∈ directories u, t.node? d = some .directory)
    (hclear : ∀ content, t.node? (location u) ≠ some (.file content)) :
    ∃ v, (makeMissing u).apply t = (.ok (), v) ∧ v.node? (location u) = some .directory := by
  have hl : t.locate u = .ok (location u) := locate_eq_ok_iff.2 ⟨hf, habove, rfl⟩
  cases hn : t.node? (location u) with
  | none =>
    have hroot : location u ≠ [] := fun hc => by simp [hc] at hn
    have hcontains : t.contains u = false := by
      simp [contains, lookup, hl, hn, bind, Except.bind, Except.isOk, Except.toBool]
    refine ⟨t.put (location u) .directory, ?_, node?_put_self t hroot _⟩
    simp [makeMissing, apply_bind, hcontains, apply_makeDirectory, hl, hn]
  | some e =>
    cases e with
    | file content => exact absurd hn (hclear content)
    | directory =>
      have hcontains : t.contains u = true := by
        simp [contains, lookup, hl, hn, bind, Except.bind, Except.isOk, Except.toBool]
      exact ⟨t, by simp [makeMissing, apply_bind, hcontains], hn⟩

lemma ensureDirectory_ok {t : FileTree} {u : String} (hf : IsFollowable u)
    (habove : ∀ d ∈ directories u, t.node? d = some .directory)
    (hclear : ∀ content, t.node? (location u) ≠ some (.file content)) :
    ∃ v, (ensureDirectory u).apply t = (.ok (), v) ∧ v.node? (location u) = some .directory := by
  have hl : t.locate u = .ok (location u) := locate_eq_ok_iff.2 ⟨hf, habove, rfl⟩
  cases hn : t.node? (location u) with
  | none =>
    have hroot : location u ≠ [] := fun hc => by simp [hc] at hn
    have hdir : t.isDirectory u = false := by
      simp [isDirectory, lookup, hl, hn, bind, Except.bind]
    refine ⟨t.put (location u) .directory, ?_, node?_put_self t hroot _⟩
    simp [ensureDirectory, apply_bind, hdir, apply_makeDirectory, hl, hn]
  | some e =>
    cases e with
    | file content => exact absurd hn (hclear content)
    | directory =>
      have hdir : t.isDirectory u = true := by
        simp [isDirectory, lookup, hl, hn, bind, Except.bind]
      exact ⟨t, by simp [ensureDirectory, apply_bind, hdir], hn⟩

/-- The directories above a path are made one below the other. -/
lemma forM_makeMissing_ok {done cs : List String} {us : List String} {t : FileTree}
    (hus : us.map components = beginnings done cs) (hf : ∀ u ∈ us, IsFollowable u)
    (hdone : ∀ d ∈ passed [] done, t.node? d = some .directory)
    (hhere : t.node? (follow [] done) = some .directory)
    (hclear : ∀ d ∈ passed [] (done ++ cs), ∀ content, t.node? d ≠ some (.file content)) :
    ∃ v, (us.forM makeMissing).apply t = (.ok (), v) ∧
      ∀ d ∈ passed [] (done ++ cs), v.node? d = some .directory := by
  induction cs generalizing done us t with
  | nil =>
    rw [beginnings, List.map_eq_nil_iff] at hus
    subst hus
    rw [List.append_nil]
    exact ⟨t, rfl, hdone⟩
  | cons c cs ih =>
    have habove : ∀ e ∈ passed [] (done ++ [c]), t.node? e = some .directory := by
      intro e he
      rw [passed_append, List.mem_append] at he
      rcases he with he | he
      · exact hdone e he
      · rw [passed, passed, List.mem_singleton] at he
        rw [he, hhere]
    cases cs with
    | nil =>
      -- the last component is what the path leads to, and it is not made here
      rw [beginnings, List.map_eq_nil_iff] at hus
      subst hus
      exact ⟨t, rfl, habove⟩
    | cons d cs =>
      rw [beginnings] at hus
      obtain ⟨u, us, rfl, hu, hus⟩ := List.map_eq_cons_iff.1 hus
      have hloc : location u = follow [] (done ++ [c]) := by rw [location, hu]
      have hmem : follow [] (done ++ [c]) ∈ passed [] (done ++ c :: d :: cs) :=
        mem_passed_iff.2 ⟨done ++ [c], d, cs, by simp, rfl⟩
      obtain ⟨w, hw, hdir⟩ := makeMissing_ok (t := t) (hf u (by simp))
        (by rw [directories, hu]; exact habove) (by rw [hloc]; exact hclear _ hmem)
      -- one more directory puts nothing in the way of those below it
      have hgrows : GrowsAt [location u] t w := by
        have := keeps_makeMissing u t
        rwa [hw] at this
      obtain ⟨v, hv, hall⟩ := ih hus (fun x hx => hf x (by simp [hx]))
        (fun e he => hgrows.node?_of_some (habove e he)) (by rw [← hloc, hdir])
        (fun e he content hfile => hclear e (by simpa using he) content
          ((hgrows.file_iff e content).1 hfile))
      refine ⟨v, ?_, fun e he => hall e (by simpa using he)⟩
      show (makeMissing u >>= fun _ => us.forM makeMissing).apply t = _
      rw [apply_bind_of_ok hw, hv]

lemma makeDirectories_ok {t : FileTree} {u : String} (hf : IsFollowable u)
    (hclear : ∀ d ∈ directories u, ∀ content, t.node? d ≠ some (.file content))
    (hfree : ∀ content, t.node? (location u) ≠ some (.file content)) :
    ∃ v, (makeDirectories u).apply t = (.ok (), v) ∧
      (∀ d ∈ directories u, v.node? d = some .directory) ∧
      v.node? (location u) = some .directory := by
  have hroot : ∀ d ∈ passed [] [], t.node? d = some .directory := by simp [passed]
  obtain ⟨w, hw, hdirs⟩ := forM_makeMissing_ok (components_above u)
    (fun x hx => hf.of_mem_above hx) hroot (by simp) (by simpa [directories] using hclear)
  rw [List.nil_append] at hdirs
  have hgrows : GrowsAt ((above u).map location) t w := by
    have hmakes : Keeps (GrowsAt ((above u).map location)) ((above u).forM makeMissing) := by
      refine Keeps.forM (GrowsAt.refl _) GrowsAt.trans fun x hx s => ?_
      refine (keeps_makeMissing x s).mono fun l hl => ?_
      rw [List.mem_singleton.1 hl]
      exact List.mem_map_of_mem hx
    have := hmakes t
    rwa [hw] at this
  obtain ⟨v, hv, hdir⟩ := ensureDirectory_ok hf hdirs fun content hfile =>
    hfree content ((hgrows.file_iff _ content).1 hfile)
  have hgrows' : GrowsAt [location u] w v := by
    have := keeps_ensureDirectory u w
    rwa [hv] at this
  refine ⟨v, ?_, fun d hd => hgrows'.node?_of_some (hdirs d hd), hdir⟩
  rw [makeDirectories, apply_bind_of_ok hw, hv]

lemma directories_eq {path : String} (h : base path ≠ "") :
    directories path = passed [] (components (parent path)) ++ [location (directory path)] := by
  rw [directories, components_of_base_ne h, passed_append, location_directory]
  rfl

/-- What the way to a path passes is passed on the way to its directory, or is that directory. -/
lemma mem_directories_iff {path : String} (h : base path ≠ "") {d : Location} :
    d ∈ directories path ↔
      d ∈ directories (directory path) ∨ d = location (directory path) := by
  by_cases hp : parent path = ""
  · -- the working directory is all that is passed
    have hdir : directory path = "." := by rw [directory, if_pos hp]
    have hpassed : directories path = [[]] := by
      rw [directories_eq h, hp, hdir, location_point]
      rfl
    rw [hpassed, hdir, directories_point, location_point]
    simp
  · have hdir : directory path = parent path := by rw [directory, if_neg hp]
    rw [directories_eq h, List.mem_append, List.mem_singleton, hdir, directories]

/-- A file takes its place where every directory above it is there and it is none itself. -/
lemma replaceable_eq_ok {t : FileTree} {path : String} (hf : IsFollowable path)
    (hb : base path ≠ "") (h₁ : base path ≠ ".") (h₂ : base path ≠ "..")
    (habove : ∀ d ∈ directories path, t.node? d = some .directory)
    (hfree : t.node? (location path) ≠ some .directory) :
    t.replaceable path = .ok (location path) := by
  have hl : t.locate path = .ok (location path) := locate_eq_ok_iff.2 ⟨hf, habove, rfl⟩
  unfold replaceable
  rw [hl, last_of_base_ne hb, endsWith_slash_of_base_ne hb]
  simp only [bind, Except.bind, h₁, h₂, or_self, if_false, Bool.false_eq_true]

/-- The directories on the way to a path are made where no file stands. -/
lemma makeDirectories_of_admits {t : FileTree} {path : String} (h : t.Admits path) :
    ∃ v, (makeDirectories (directory path)).apply t = (.ok (), v) ∧
      (∀ d ∈ directories path, v.node? d = some .directory) ∧
      v.node? (location path) ≠ some .directory := by
  have hmem {d : Location} := mem_directories_iff (d := d) h.named
  obtain ⟨v, hv, habove, hdir⟩ := makeDirectories_ok (t := t) (h.followable.directory h.named)
    (fun d hd => h.clear d (hmem.2 (.inl hd))) (h.clear _ (hmem.2 (.inr rfl)))
  have hgrows : GrowsAt (made path) t v := by
    have := keeps_makeDirectories path t
    rwa [hv] at this
  refine ⟨v, hv, fun d hd => ?_, ?_⟩
  · rcases hmem.1 hd with hd | hd
    · exact habove d hd
    · rw [hd, hdir]
  · rcases hgrows (location path) with hl | ⟨hm, -, -⟩
    · rw [hl]
      exact h.free
    · exact absurd (made_subset h.named _ hm) h.apart

/-- The directory of a path is made and located where nothing stands in the way of the path. -/
lemma prepareWithin_of_admits {t : FileTree} {path : String} (h : t.Admits path) :
    ∃ v, (prepareWithin .none (directory path)).apply t =
        (.ok (location (directory path)), v) ∧
      (∀ d ∈ directories path, v.node? d = some .directory) ∧
      v.node? (location path) ≠ some .directory := by
  obtain ⟨v, hv, habove, hfree⟩ := makeDirectories_of_admits h
  have hloc : v.locate (directory path) = .ok (location (directory path)) :=
    locate_eq_ok_iff.2 ⟨h.followable.directory h.named,
      fun d hd => habove d ((mem_directories_iff h.named).2 (.inl hd)), rfl⟩
  have hl := apply_locateM (directory path) v
  rw [hloc] at hl
  exact ⟨v, by rw [prepareWithin_none, apply_bind_of_ok hv, hl], habove, hfree⟩

lemma writeNothing_of_admits {t : FileTree} {path : String} (h : t.Admits path) :
    ∃ u, (writeNothing path).apply t = (.ok (), u) := by
  obtain ⟨v, hv, -⟩ := prepareWithin_of_admits h
  exact ⟨v, by rw [writeNothing, apply_bind_of_ok hv, apply_pure]⟩

/-- A write succeeds where nothing stands in its way. -/
theorem writeAtomic_of_admits {t : FileTree} {path : String} (h : t.Admits path) (text : String) :
    ∃ u, (writeAtomic path text).apply t = (.ok (), u) := by
  obtain ⟨v, hv, habove, hfree⟩ := prepareWithin_of_admits h
  have hnone := node?_freshName v (location (directory path))
  rcases moveTo_cases hnone (temporaryIn (directory path)) path text
    with ⟨cause, u, hr, -, -⟩ | ⟨_, u, -, hu, -⟩
  · -- the temporary file is no directory and stands in no other way
    rw [replaceable_eq_ok h.followable h.named h.noPoint h.noPoints] at hr
    · cases hr
    · intro d hd
      rw [node?_put_of_ne, habove d hd]
      intro hc
      rw [← hc, habove d hd] at hnone
      cases hnone
    · by_cases hc : location path = location (directory path)
          ++ [freshName v (location (directory path))]
      · rw [hc, node?_put_self _ (by simp)]
        simp
      · rwa [node?_put_of_ne _ hc]
  · refine ⟨u, ?_⟩
    unfold writeAtomic writeWithin
    rw [apply_bind_of_ok hv]
    simp only [apply_bind, apply_get, apply_modify]
    exact hu

/-- A path can still be written to after another write, if neither is in the other's way. -/
lemma Admits.of_isWriteTo {t u : FileTree} {m path : String} (h : t.Admits m)
    (hw : IsWriteTo path t u) (hmade : location m ∉ made path)
    (hplace : location path ∉ directories m) : u.Admits m := by
  refine ⟨h.followable, h.named, h.noPoint, h.noPoints, h.apart, fun d hd content hfile => ?_,
    fun hdir => ?_⟩
  · cases hw with
    | directories hgrows => exact h.clear d hd content ((hgrows.file_iff d content).1 hfile)
    | file text w hgrows hwritten =>
      have hne : d ≠ location path := fun hc => hplace (hc ▸ hd)
      rw [hwritten.others d hne] at hfile
      exact h.clear d hd content ((hgrows.file_iff d content).1 hfile)
  · have hfree {v : FileTree} (hgrows : GrowsAt (made path) t v) :
        v.node? (location m) ≠ some .directory := by
      rcases hgrows (location m) with hl | ⟨hl, -, -⟩
      · rw [hl]
        exact h.free
      · exact absurd hl hmade
    cases hw with
    | directories hgrows => exact hfree hgrows hdir
    | file text w hgrows hwritten =>
      by_cases hm : location m = location path
      · rw [hm, hwritten.place] at hdir
        cases hdir
      · rw [hwritten.others _ hm] at hdir
        exact hfree hgrows hdir

lemma Admits.of_writeAtomic {t u : FileTree} {m path text : String} {r : Except FileError Unit}
    (h : t.Admits m) (hw : (writeAtomic path text).apply t = (r, u))
    (hmade : location m ∉ made path) (hplace : location path ∉ directories m) : u.Admits m :=
  h.of_isWriteTo (isWriteTo_of_writeAtomic hw) hmade hplace

/-- A write makes no other files than texts. -/
lemma IsWriteTo.node?_of_ne_text {t u : FileTree} {path : String} (hw : IsWriteTo path t u)
    {l : Location} {content : Content} (hne : ∀ text, content ≠ .text text)
    (hl : u.node? l = some (.file content)) : t.node? l = some (.file content) := by
  cases hw with
  | directories hgrows => exact (hgrows.file_iff l _).1 hl
  | file text w hgrows hwritten =>
    by_cases hp : l = location path
    · rw [hp, hwritten.place] at hl
      cases hl
      exact absurd rfl (hne text)
    · rw [hwritten.others l hp] at hl
      exact (hgrows.file_iff l _).1 hl

/-! ## Paths that are none -/

/-- Whether a cause is about a file: the path is one, and the directories can be made. -/
def IsFileCause (cause : FileCause) : Prop := ¬ (cause = .nullCharacter ∨ cause = .tooDeep)

instance : DecidablePred IsFileCause := fun cause =>
  inferInstanceAs (Decidable ¬ (cause = .nullCharacter ∨ cause = .tooDeep))

lemma isFileCause_of_walk {t : FileTree} {loc : Location} {cs : List String} {cause : FileCause}
    (h : t.walk loc cs = .error cause) : IsFileCause cause := by
  induction cs generalizing loc with
  | nil => cases h
  | cons c cs ih =>
    rw [walk] at h
    split at h
    · split_ifs at h
      · cases h
        decide
      · exact ih h
      · exact ih h
      · exact ih h
    · cases h
      decide
    · cases h
      decide

lemma isFileCause_of_locate {t : FileTree} {path : String} {cause : FileCause}
    (hn : '\x00' ∉ path.toList) (h : t.locate path = .error cause) : IsFileCause cause := by
  unfold locate at h
  rw [if_neg (by simpa using hn)] at h
  split_ifs at h
  · cases h
    decide
  · cases h
    decide
  · exact isFileCause_of_walk h

/-- Only a path with a null character is none. -/
lemma locate_eq_nullCharacter_iff {t : FileTree} {path : String} :
    t.locate path = .error .nullCharacter ↔ '\x00' ∈ path.toList := by
  constructor
  · intro h
    by_contra hn
    exact isFileCause_of_locate hn h (.inl rfl)
  · intro hn
    rw [locate, if_pos (by simpa using hn)]

end FileTree

end SheetCompiler
