import SheetCompiler.FileTree.Update
import Mathlib.Tactic.Lemma
import Mathlib.Data.List.Induction

/-!
# Where paths lead

A path leads to a location that its components alone decide: one point stays, two points lead back.
The tree only decides whether the path can be followed there, which asks every location passed on
the way to be a directory.

Main statements:

* `walk_eq_ok_iff` and `locate_eq_ok_iff`: when a path is followed, and where to;
* `components_join`: a name below a directory is one more component;
* `components_above`: the paths above a path are its proper beginnings, component by component.
-/

namespace SheetCompiler

namespace FileTree

/-- Where a component leads from a location. -/
def step (loc : Location) (c : String) : Location :=
  if c = "." then loc else if c = ".." then loc.dropLast else loc ++ [c]

/-- Where components lead from a location. -/
def follow (loc : Location) (cs : List String) : Location := cs.foldl step loc

/-- The locations from which a component is followed. -/
def passed (loc : Location) : List String → List Location
  | [] => []
  | c :: cs => loc :: passed (step loc c) cs

@[simp] lemma follow_nil (loc : Location) : follow loc [] = loc := rfl

@[simp] lemma follow_cons (loc : Location) (c : String) (cs : List String) :
    follow loc (c :: cs) = follow (step loc c) cs := rfl

lemma follow_append (loc : Location) (cs ds : List String) :
    follow loc (cs ++ ds) = follow (follow loc cs) ds := List.foldl_append

lemma step_of_ne {c : String} (h₁ : c ≠ ".") (h₂ : c ≠ "..") (loc : Location) :
    step loc c = loc ++ [c] := by
  rw [step, if_neg h₁, if_neg h₂]

lemma passed_append (loc : Location) (cs ds : List String) :
    passed loc (cs ++ ds) = passed loc cs ++ passed (follow loc cs) ds := by
  induction cs generalizing loc with
  | nil => rfl
  | cons c cs ih =>
    rw [List.cons_append, passed, passed, ih, List.cons_append, follow_cons]

/-- A location is passed where some of the components have led and one is left. -/
lemma mem_passed_iff {loc l : Location} {cs : List String} :
    l ∈ passed loc cs ↔ ∃ done c rest, cs = done ++ c :: rest ∧ l = follow loc done := by
  induction cs generalizing loc with
  | nil => simp [passed]
  | cons c cs ih =>
    rw [passed, List.mem_cons, ih]
    constructor
    · rintro (rfl | ⟨done, d, rest, rfl, rfl⟩)
      · exact ⟨[], c, cs, rfl, rfl⟩
      · exact ⟨c :: done, d, rest, rfl, rfl⟩
    · rintro ⟨done, d, rest, hcs, rfl⟩
      cases done with
      | nil => exact .inl rfl
      | cons e done =>
        obtain ⟨rfl, rfl⟩ := List.cons.inj hcs
        exact .inr ⟨done, d, rest, rfl, rfl⟩

/-- What encloses the location that components lead to is passed on the way. -/
lemma mem_passed_of_prefix_of_ne {cs : List String} {l : Location} (h : l <+: follow [] cs)
    (hne : l ≠ follow [] cs) : l ∈ passed [] cs := by
  induction cs using List.reverseRecOn generalizing l with
  | nil => exact absurd (List.prefix_nil.1 h) hne
  | append_singleton cs c ih =>
    have hfollow : follow [] (cs ++ [c]) = step (follow [] cs) c := follow_append [] cs [c]
    have hpassed : passed [] (cs ++ [c]) = passed [] cs ++ [follow [] cs] := passed_append [] cs [c]
    rw [hpassed, List.mem_append, List.mem_singleton]
    rw [hfollow, step] at h hne
    split_ifs at h hne with hpoint hpoints
    · exact .inl (ih h hne)
    · -- what encloses the directory above encloses the directory
      have hlt : l.length < (follow [] cs).dropLast.length :=
        Nat.lt_of_le_of_ne h.length_le fun hc => hne (h.eq_of_length hc)
      refine .inl (ih (h.trans (List.dropLast_prefix _)) ?_)
      rintro rfl
      rw [List.length_dropLast] at hlt
      omega
    · rcases List.prefix_concat_iff.1 h with hl | hl
      · exact absurd hl hne
      · exact or_iff_not_imp_right.2 (ih hl)

/-- Components are followed when every location passed is a directory and no name is too long. -/
theorem walk_eq_ok_iff {t : FileTree} {loc l : Location} {cs : List String} :
    t.walk loc cs = .ok l ↔
      (∀ d ∈ passed loc cs, t.node? d = some .directory) ∧
        (∀ c ∈ cs, c.utf8ByteSize ≤ nameLimit) ∧ l = follow loc cs := by
  induction cs generalizing loc with
  | nil =>
    rw [walk]
    simp [passed, eq_comm]
  | cons c cs ih =>
    rw [walk]
    cases hn : t.node? loc with
    | none => simp [passed, hn]
    | some e =>
      cases e with
      | file content => simp [passed, hn]
      | directory =>
        by_cases hc : nameLimit < c.utf8ByteSize
        · simp only [hc, if_true]
          exact ⟨fun h => by simp at h, fun h => absurd hc (Nat.not_lt.2 (h.2.1 c (by simp)))⟩
        · have hstep : (if c = "." then t.walk loc cs
              else if c = ".." then t.walk loc.dropLast cs
              else t.walk (loc ++ [c]) cs) = t.walk (step loc c) cs := by
            unfold step
            split
            · rfl
            · split <;> rfl
          simp only [hc, if_false]
          rw [hstep, ih]
          simp [passed, hn, Nat.le_of_not_lt hc]

end FileTree

namespace Path

open SheetCompiler.Text

/-- Whether a text can be followed at all, whatever the tree is. -/
structure IsFollowable (path : String) : Prop where
  noNull : '\x00' ∉ path.toList
  short : path.utf8ByteSize < FileTree.pathLimit
  nonempty : path ≠ ""
  relative : startsWith "/" path = false
  names : ∀ c ∈ components path, c.utf8ByteSize ≤ FileTree.nameLimit

/-- The location a path leads to. -/
def location (path : String) : Location := FileTree.follow [] (components path)

/-- The locations that are directories if the path can be followed. -/
def directories (path : String) : List Location := FileTree.passed [] (components path)

end Path

namespace FileTree

open SheetCompiler.Path

/-- A path is followed to its location, and exactly if what it passes are directories. -/
theorem locate_eq_ok_iff {t : FileTree} {path : String} {l : Location} :
    t.locate path = .ok l ↔
      IsFollowable path ∧ (∀ d ∈ directories path, t.node? d = some .directory) ∧
        l = location path := by
  unfold locate
  by_cases h₁ : path.toList.contains '\x00' = true
  · rw [if_pos h₁]
    refine ⟨fun h => by simp at h, fun h => absurd (by simpa using h₁) h.1.noNull⟩
  rw [if_neg h₁]
  by_cases h₂ : pathLimit ≤ path.utf8ByteSize
  · rw [if_pos h₂]
    refine ⟨fun h => by simp at h, fun h => absurd h.1.short (Nat.not_lt.2 h₂)⟩
  rw [if_neg h₂]
  by_cases h₃ : path = "" ∨ Text.startsWith "/" path = true
  · rw [if_pos h₃]
    refine ⟨fun h => by simp at h, fun h => ?_⟩
    rcases h₃ with h₃ | h₃
    · exact absurd h₃ h.1.nonempty
    · exact absurd h₃ (by simp [h.1.relative])
  rw [if_neg h₃, walk_eq_ok_iff]
  rw [not_or] at h₃
  constructor
  · rintro ⟨hd, hn, hl⟩
    exact ⟨⟨by simpa using h₁, Nat.lt_of_not_le h₂, h₃.1, by simpa using h₃.2, hn⟩, hd, hl⟩
  · rintro ⟨hp, hd, hl⟩
    exact ⟨hd, hp.names, hl⟩

end FileTree

namespace Path

open SheetCompiler.Text

/-! ## Components of joined paths -/

/-- The components of a path as lists of characters. -/
def comps (cs : List Char) : List (List Char) := (splitOn '/' cs).filter fun c => c ≠ []

lemma components_eq (path : String) : components path = (comps path.toList).map String.ofList := by
  rw [components, pieces, comps, List.filter_map]
  congr 2
  funext c
  have : String.ofList c = "" ↔ c = [] := by
    rw [← String.toList_inj, String.toList_ofList]
    rfl
  simp [this]

/-- The pieces in front of a separator and those behind it. -/
lemma splitOn_append_sep (sep : Char) (cs ds : List Char) :
    splitOn sep (cs ++ sep :: ds) = splitOn sep cs ++ splitOn sep ds := by
  induction cs with
  | nil => simp [splitOn]
  | cons c cs ih =>
    rw [List.cons_append, splitOn, splitOn, ih]
    by_cases hc : c = sep
    · simp [hc]
    · simp only [hc, if_false]
      cases hs : splitOn sep cs with
      | nil => exact absurd hs (splitOn_ne_nil sep cs)
      | cons piece rest => rfl

lemma comps_append_slash (cs ds : List Char) : comps (cs ++ '/' :: ds) = comps cs ++ comps ds := by
  rw [comps, splitOn_append_sep, List.filter_append, comps, comps]

@[simp] lemma comps_nil : comps [] = [] := rfl

lemma comps_of_not_mem {cs : List Char} (h : '/' ∉ cs) (hne : cs ≠ []) : comps cs = [cs] := by
  rw [comps, splitOn_of_not_mem h]
  simp [hne]

/-- A slash at the end adds no component. -/
lemma comps_append_slash_nil (cs : List Char) : comps (cs ++ ['/']) = comps cs := by
  rw [comps_append_slash, comps_nil, List.append_nil]

/-- A name below a directory is one more component. -/
theorem components_join (directory : String) {name : String} (h : '/' ∉ name.toList)
    (hne : name ≠ "") : components (join directory name) = components directory ++ [name] := by
  have hcs : name.toList ≠ [] := fun hc => hne (String.toList_inj.1 hc)
  have hstart : startsWith "/" name = false := by
    cases hn : name.toList with
    | nil => exact absurd hn hcs
    | cons c cs =>
      rw [hn, List.mem_cons, not_or] at h
      have hslash : "/".toList = ['/'] := rfl
      simp [startsWith, hn, hslash, List.isPrefixOf, h.1]
  have hname : comps name.toList = [name.toList] := comps_of_not_mem h hcs
  rw [join, hstart, if_neg Bool.false_ne_true, components_eq, components_eq]
  by_cases hd : directory = ""
  · subst hd
    rw [if_pos (.inl rfl), String.toList_append]
    simp [hname]
  by_cases hend : endsWith "/" directory = true
  · -- the slash that the directory ends in is the one between the two
    have hsuffix : ['/'] <:+ directory.toList := by simpa [endsWith] using hend
    obtain ⟨cs, hcs'⟩ := hsuffix
    rw [if_pos (.inr hend), String.toList_append, ← hcs', List.append_assoc, List.singleton_append,
      comps_append_slash, comps_append_slash_nil, hname]
    simp
  · have hslash : "/".toList = ['/'] := rfl
    rw [if_neg (by simp [hd, hend]), String.toList_append, String.toList_append, hslash,
      List.append_assoc, List.singleton_append, comps_append_slash, hname]
    simp

/-- A name below a directory leads to its place below the location of the directory. -/
lemma location_join (directory : String) {name : String} (h : '/' ∉ name.toList) (hne : name ≠ "")
    (h₁ : name ≠ ".") (h₂ : name ≠ "..") :
    location (join directory name) = location directory ++ [name] := by
  rw [location, components_join directory h hne, FileTree.follow_append, FileTree.follow_cons,
    FileTree.follow_nil, FileTree.step_of_ne h₁ h₂, location]

/-! ## The paths above a path -/

/-- The proper beginnings of what follows components, from one more component on. -/
def beginnings {α : Type} (done : List α) : List α → List (List α)
  | [] | [_] => []
  | c :: d :: cs => (done ++ [c]) :: beginnings (done ++ [c]) (d :: cs)

lemma beginnings_map {α β : Type} (f : α → β) (done cs : List α) :
    (beginnings done cs).map (List.map f) = beginnings (done.map f) (cs.map f) := by
  induction cs generalizing done with
  | nil => rfl
  | cons c cs ih =>
    cases cs with
    | nil => rfl
    | cons d cs =>
      have := ih (done ++ [c])
      simp only [List.map_append, List.map_cons, List.map_nil] at this
      simp only [beginnings, List.map_cons, List.map_append, List.map_nil, this]

/-- A beginning ends in front of a component. -/
lemma mem_beginnings {α : Type} {done cs u : List α} (h : u ∈ beginnings done cs) :
    ∃ c rest, done ++ cs = u ++ c :: rest := by
  induction cs generalizing done with
  | nil => simp [beginnings] at h
  | cons c cs ih =>
    cases cs with
    | nil => simp [beginnings] at h
    | cons d cs =>
      rw [beginnings, List.mem_cons] at h
      rcases h with rfl | h
      · exact ⟨d, cs, by simp⟩
      · obtain ⟨e, rest, he⟩ := ih h
        exact ⟨e, rest, by simpa using he⟩

lemma aboveFrom_cons_of_ne {c : Char} (h : c ≠ '/') (read cs : List Char) :
    aboveFrom read (c :: cs) = aboveFrom (c :: read) cs := by
  rw [aboveFrom]
  intro d tail hc
  exact absurd hc h

/-- Characters other than slashes only lengthen what has been read. -/
lemma aboveFrom_append {read piece : List Char} (h : '/' ∉ piece) (cs : List Char) :
    aboveFrom read (piece ++ cs) = aboveFrom (piece.reverse ++ read) cs := by
  induction piece generalizing read with
  | nil => rfl
  | cons c piece ih =>
    rw [List.mem_cons, not_or] at h
    rw [List.cons_append, aboveFrom_cons_of_ne (Ne.symm h.1), ih h.2, List.reverse_cons,
      List.append_assoc, List.singleton_append]

lemma aboveFrom_slash (d : Char) (read cs : List Char) :
    aboveFrom (d :: read) ('/' :: cs) =
      if d ≠ '/' ∧ cs.any (· ≠ '/') then (d :: read).reverse :: aboveFrom ('/' :: d :: read) cs
      else aboveFrom ('/' :: d :: read) cs := by
  rw [aboveFrom]

lemma aboveFrom_slash_of_slash {read : List Char} (h : read = [] ∨ read.head? = some '/')
    (cs : List Char) : aboveFrom read ('/' :: cs) = aboveFrom ('/' :: read) cs := by
  cases read with
  | nil =>
    rw [aboveFrom]
    intro d tail _ hc
    simp at hc
  | cons d read =>
    have hd : d = '/' := by simpa using h
    rw [aboveFrom_slash, if_neg (by simp [hd])]

/-- Something stands between or behind slashes exactly if some piece is not empty. -/
lemma any_joinWith {pieces : List (List Char)} (h : ∀ piece ∈ pieces, '/' ∉ piece) :
    (joinWith ['/'] pieces).any (· ≠ '/') = !(pieces.filter fun c => c ≠ []).isEmpty := by
  induction pieces with
  | nil => rfl
  | cons piece rest ih =>
    have hrest := ih fun p hp => h p (List.mem_cons_of_mem _ hp)
    have hpiece : piece.any (· ≠ '/') = decide (piece ≠ []) := by
      cases piece with
      | nil => rfl
      | cons c piece =>
        have hc : c ≠ '/' := fun hc => h (c :: piece) (by simp) (by simp [hc])
        simp [hc]
    have hjoin : (joinWith ['/'] (piece :: rest)).any (· ≠ '/') =
        (piece.any (· ≠ '/') || (joinWith ['/'] rest).any (· ≠ '/')) := by
      cases rest with
      | nil => simp [joinWith]
      | cons next rest => simp [joinWith]
    rw [hjoin, hrest, hpiece]
    by_cases hp : piece = [] <;> simp [hp]

/-- A piece that has been read is one more component. -/
lemma comps_reverse_append {read piece : List Char} (h : '/' ∉ piece) (hne : piece ≠ [])
    (hread : read = [] ∨ read.head? = some '/') :
    comps (piece.reverse ++ read).reverse = comps read.reverse ++ [piece] := by
  rw [List.reverse_append, List.reverse_reverse]
  rcases hread with rfl | hread
  · simp [comps_of_not_mem h hne]
  · obtain ⟨tail, rfl⟩ : ∃ tail, read = '/' :: tail := by
      cases read with
      | nil => simp at hread
      | cons d tail => exact ⟨tail, by simpa using hread⟩
    rw [List.reverse_cons, List.append_assoc, List.singleton_append, comps_append_slash,
      comps_append_slash_nil, comps_of_not_mem h hne]

/-- The paths above pieces that are still to be read, behind components that have been read. -/
lemma aboveFrom_joinWith {read : List Char} {pieces : List (List Char)}
    (h : ∀ piece ∈ pieces, '/' ∉ piece) (hread : read = [] ∨ read.head? = some '/') :
    (aboveFrom read (joinWith ['/'] pieces)).map comps =
      beginnings (comps read.reverse) (pieces.filter fun c => c ≠ []) := by
  induction pieces generalizing read with
  | nil => rfl
  | cons piece rest ih =>
    have hpiece := h piece (by simp)
    have hrest : ∀ p ∈ rest, '/' ∉ p := fun p hp => h p (List.mem_cons_of_mem _ hp)
    cases rest with
    | nil =>
      have hnone : aboveFrom read piece = [] := by
        rw [← List.append_nil piece, aboveFrom_append hpiece]
        rfl
      rw [joinWith, hnone]
      by_cases hp : piece = [] <;> simp [hp, beginnings]
    | cons next rest =>
      rw [joinWith, List.append_assoc, List.singleton_append, aboveFrom_append hpiece]
      cases hrev : piece.reverse with
      | nil =>
        -- an empty piece: two slashes beside each other
        have hp : piece = [] := by simpa using hrev
        rw [List.nil_append, aboveFrom_slash_of_slash hread, ih hrest (.inr rfl)]
        simp [hp, comps_append_slash_nil]
      | cons c before =>
        have hp : piece = before.reverse ++ [c] := by
          rw [← List.reverse_reverse piece, hrev, List.reverse_cons]
        have hne : piece ≠ [] := by simp [hp]
        have hc : c ≠ '/' := fun hc => hpiece (by simp [hp, hc])
        have hnew := comps_reverse_append hpiece hne hread
        rw [hrev] at hnew
        have hdone : comps ('/' :: (c :: before ++ read)).reverse =
            comps read.reverse ++ [piece] := by
          rw [List.reverse_cons, comps_append_slash_nil, hnew]
        rw [List.cons_append, aboveFrom_slash, any_joinWith hrest]
        have hfilter : (piece :: next :: rest).filter (fun c => c ≠ []) =
            piece :: (next :: rest).filter fun c => c ≠ [] :=
          List.filter_cons_of_pos (by simpa using hne)
        rw [hfilter]
        have hslash : ('/' :: (c :: before ++ read)).head? = some '/' := rfl
        have hmore := ih hrest (.inr hslash)
        rw [hdone] at hmore
        cases hf : (next :: rest).filter fun c => c ≠ [] with
        | nil =>
          -- only slashes follow, so the piece is the last component
          rw [hf] at hmore
          rw [if_neg (by simp)]
          exact hmore
        | cons d ds =>
          rw [hf] at hmore
          rw [if_pos ⟨hc, by simp⟩, List.map_cons, beginnings, ← hmore, ← List.cons_append, hnew]

/-- The paths above a path are its proper beginnings, component by component. -/
theorem components_above (path : String) :
    (above path).map components = beginnings [] (components path) := by
  have hpieces : ∀ piece ∈ splitOn '/' path.toList, '/' ∉ piece :=
    fun piece hp => not_mem_of_mem_splitOn hp
  have h := aboveFrom_joinWith hpieces (.inl rfl)
  rw [joinWith_splitOn] at h
  rw [above, List.map_map]
  have hfun : (components ∘ String.ofList) = List.map String.ofList ∘ comps := by
    funext cs
    rw [Function.comp, Function.comp, components_eq, String.toList_ofList]
  rw [hfun, ← List.map_map, h, beginnings_map, components_eq]
  rfl

/-- A path above another one begins it, and is not empty. -/
lemma prefix_of_mem_above {path u : String} (h : u ∈ above path) :
    u.toList <+: path.toList ∧ u ≠ "" := by
  have hmain : ∀ (cs read w : List Char), w ∈ aboveFrom read cs →
      w <+: read.reverse ++ cs ∧ w ≠ [] := by
    intro cs
    induction cs with
    | nil => intro read w hw; simp [aboveFrom] at hw
    | cons c cs ih =>
      intro read w hw
      have hmore : w ∈ aboveFrom (c :: read) cs → w <+: read.reverse ++ c :: cs ∧ w ≠ [] := by
        intro hw
        have := ih (c :: read) w hw
        simpa using this
      by_cases hc : c = '/'
      · subst hc
        cases read with
        | nil => exact hmore (by rwa [aboveFrom_slash_of_slash (.inl rfl)] at hw)
        | cons d read =>
          rw [aboveFrom_slash] at hw
          split at hw
          · rw [List.mem_cons] at hw
            rcases hw with rfl | hw
            · exact ⟨List.prefix_append _ _, by simp⟩
            · exact hmore hw
          · exact hmore hw
      · exact hmore (by rwa [aboveFrom_cons_of_ne hc] at hw)
  rw [above, List.mem_map] at h
  obtain ⟨w, hw, rfl⟩ := h
  obtain ⟨hpre, hne⟩ := hmain path.toList [] w hw
  refine ⟨by simpa using hpre, fun hc => hne ?_⟩
  rw [← String.toList_inj, String.toList_ofList] at hc
  exact hc

end Path

end SheetCompiler
