import SheetCompiler.Proofs.FileTree.Change

/-!
# Atomic writes are all or nothing

On a path of ordinary names every component leads one step down, so that what is passed on the way
is what encloses its place. A write to such a path fails where a directory stands in its place, a
file in the place of a directory above it, where no file can have the path, or where it goes beyond what
bounds writes from outside the tree; nothing else can keep it from succeeding. Whether or not it
succeeds, no file changes but the one at the path, and the temporary file is gone.

Main statements:

* `exists_writeAtomic_iff`: a write succeeds exactly where the tree admits it;
* `exists_writeWithin_iff`: so it does within bounds, unless it goes beyond them;
* `mem_directories_iff_of_isOrdinary`: what is passed on the way to a path of ordinary names;
* `isAllOrNothing_writeWithin`: what a write to such a path does in either case.
-/

namespace SheetCompiler

namespace Path

open SheetCompiler.Text

/-! ## Paths of ordinary names -/

/-- Whether a path consists of names of entries: none is empty, one point or two points. -/
def IsOrdinary (path : String) : Prop := ∀ c ∈ pieces '/' path, c ≠ "" ∧ c ≠ "." ∧ c ≠ ".."

instance (path : String) : Decidable (IsOrdinary path) :=
  inferInstanceAs (Decidable (∀ c ∈ pieces '/' path, c ≠ "" ∧ c ≠ "." ∧ c ≠ ".."))

/-- Whether a path of ordinary names is none that a file can have: it holds a null character, or it
or one of its names is too long. -/
def ExceedsLimits (path : String) : Prop :=
  '\x00' ∈ path.toList ∨ FileTree.pathLimit ≤ path.utf8ByteSize ∨
    ∃ c ∈ pieces '/' path, FileTree.nameLimit < c.utf8ByteSize

variable {path : String}

lemma IsOrdinary.components_eq (h : IsOrdinary path) : components path = pieces '/' path :=
  List.filter_eq_self.2 fun c hc => by simpa using (h c hc).1

/-- Ordinary names lead one step down each. -/
lemma follow_of_ordinary {loc : Location} {cs : List String} (h : ∀ c ∈ cs, c ≠ "." ∧ c ≠ "..") :
    FileTree.follow loc cs = loc ++ cs := by
  induction cs generalizing loc with
  | nil => rw [FileTree.follow_nil, List.append_nil]
  | cons c cs ih =>
    obtain ⟨hc, hcs⟩ := List.forall_mem_cons.1 h
    rw [FileTree.follow_cons, FileTree.step_of_ne hc.1 hc.2, ih hcs, List.append_assoc,
      List.singleton_append]

/-- A path of ordinary names leads to the location of these names. -/
lemma IsOrdinary.location_eq (h : IsOrdinary path) : location path = pieces '/' path := by
  rw [location, h.components_eq, follow_of_ordinary fun c hc => (h c hc).2, List.nil_append]

/-- What is passed on the way to a path of ordinary names is what encloses its location. -/
theorem mem_directories_iff_of_isOrdinary (h : IsOrdinary path) {l : Location} :
    l ∈ directories path ↔ l <+: location path ∧ l ≠ location path := by
  have hordinary : ∀ c ∈ components path, c ≠ "." ∧ c ≠ ".." := by
    rw [h.components_eq]
    exact fun c hc => (h c hc).2
  constructor
  · intro hl
    obtain ⟨done, c, rest, hsplit, rfl⟩ := FileTree.mem_passed_iff.1 hl
    have hdone : FileTree.follow [] done = done := by
      rw [follow_of_ordinary, List.nil_append]
      exact fun d hd => hordinary d (by rw [hsplit]; exact List.mem_append_left _ hd)
    rw [hdone, h.location_eq, ← h.components_eq, hsplit]
    refine ⟨List.prefix_append _ _, fun hc => ?_⟩
    exact absurd (congrArg List.length hc) (by simp)
  · rintro ⟨hfront, hne⟩
    exact FileTree.mem_passed_of_prefix_of_ne hfront hne

/-- A path of ordinary names ends in a name. -/
lemma IsOrdinary.base_ne (h : IsOrdinary path) :
    base path ≠ "" ∧ base path ≠ "." ∧ base path ≠ ".." := by
  have hnamed : base path ≠ "" := by
    intro hbase
    have hpath := toList_eq_beforeBase_append path
    rw [hbase, String.toList_empty, List.append_nil] at hpath
    -- without a name behind the last slash, some piece is empty
    have hempty : [] ∈ splitOn '/' path.toList := by
      rcases beforeBase_eq_nil_or path.toList with hnil | ⟨front, hfront⟩
      · rw [hpath, hnil]
        exact List.mem_singleton_self _
      · rw [hpath, hfront, splitOn_append_sep]
        exact List.mem_append_right _ (List.mem_singleton_self _)
    exact (h "" (List.mem_map_of_mem hempty)).1 rfl
  refine ⟨hnamed, (h (base path) ?_).2⟩
  rw [← h.components_eq, components_of_base_ne hnamed]
  exact List.mem_append_right _ (List.mem_singleton_self _)

lemma IsOrdinary.relative (h : IsOrdinary path) : startsWith "/" path = false := by
  have hslash : "/".toList = ['/'] := rfl
  rw [startsWith, hslash]
  cases hp : path.toList with
  | nil => rfl
  | cons c cs =>
    have hc : c ≠ '/' := by
      rintro rfl
      have hempty : [] ∈ splitOn '/' path.toList := by
        rw [hp, splitOn, if_pos rfl]
        exact List.mem_cons_self
      exact (h "" (List.mem_map_of_mem hempty)).1 rfl
    simpa [List.isPrefixOf] using hc.symm

/-- A path of ordinary names can be followed unless it exceeds the limits. -/
lemma IsOrdinary.isFollowable_iff (h : IsOrdinary path) :
    IsFollowable path ↔ ¬ ExceedsLimits path := by
  unfold ExceedsLimits
  constructor
  · rintro hf (hnull | hlong | ⟨c, hc, hlong⟩)
    · exact hf.noNull hnull
    · exact absurd hf.short (Nat.not_lt.2 hlong)
    · exact absurd (hf.names c (h.components_eq ▸ hc)) (Nat.not_le.2 hlong)
  · intro hlimits
    rw [not_or, not_or] at hlimits
    obtain ⟨hnull, hshort, hnames⟩ := hlimits
    refine ⟨hnull, Nat.lt_of_not_le hshort, ?_, h.relative, fun c hc => ?_⟩
    · rintro rfl
      exact h.base_ne.1 (by decide)
    · rw [h.components_eq] at hc
      exact Nat.le_of_not_lt fun hlong => hnames ⟨c, hc, hlong⟩

end Path

namespace FileTree

open SheetCompiler.Path SheetCompiler.Stateful

/-! ## Where a write succeeds -/

/-- A write succeeds exactly where the tree admits it. -/
theorem exists_writeAtomic_iff {t : FileTree} {path : String} (text : String) :
    (∃ u, (writeAtomic path text).apply t = (.ok (), u)) ↔ t.Admits path := by
  constructor
  · rintro ⟨u, hw⟩
    exact (admits_of_writeAtomic hw).of_extends (extends_writeAtomic hw)
  · exact fun h => writeAtomic_of_admits h text

/-- Whether a write to a path goes beyond bounds: more directories above its own are missing than can
be made one inside the other, or there is no room for the path of its temporary file. -/
def Bounds.AreExceeded (b : Bounds) (t : FileTree) (path : String) : Prop :=
  isBeyond b.depth (t.missingAbove (directory path)).length = true ∨
    isBeyond b.room (temporarySize (directory path)) = true

lemma isBeyond_of_checkBound {bound : Option Nat} {n : Nat} {cause : FileCause} {path : String}
    {t u : FileTree} (h : (checkBound bound n cause path).apply t = (.ok (), u)) :
    isBeyond bound n = false := by
  unfold checkBound at h
  split at h
  · cases h
  · rename_i hnot
    exact Bool.eq_false_iff.2 hnot

/-- What is prepared goes beyond no bounds. -/
lemma not_areExceeded_of_prepareWithin {b : Bounds} {t u : FileTree} {path : String}
    {loc : Location} (h : (prepareWithin b (directory path)).apply t = (.ok loc, u)) :
    ¬ b.AreExceeded t path := by
  obtain ⟨_, _, hget, h⟩ := apply_bind_eq_ok.1 h
  cases hget
  obtain ⟨_, _, hdepth, h⟩ := apply_bind_eq_ok.1 h
  obtain ⟨_, _, -, h⟩ := apply_bind_eq_ok.1 h
  obtain ⟨_, _, -, h⟩ := apply_bind_eq_ok.1 h
  obtain ⟨_, _, hroom, -⟩ := apply_bind_eq_ok.1 h
  rintro (hbeyond | hbeyond)
  · rw [isBeyond_of_checkBound hdepth] at hbeyond
    cases hbeyond
  · rw [isBeyond_of_checkBound hroom] at hbeyond
    cases hbeyond

/-- A write that goes beyond no bounds is done as if there were none. -/
lemma writeWithin_of_not_areExceeded {b : Bounds} {t : FileTree} {path : String}
    (h : ¬ b.AreExceeded t path) (text : String) :
    (writeWithin b path text).apply t = (writeAtomic path text).apply t := by
  rw [Bounds.AreExceeded, not_or, Bool.not_eq_true, Bool.not_eq_true] at h
  have hprepare : (prepareWithin b (directory path)).apply t =
      (prepareWithin .none (directory path)).apply t := by
    rw [apply_prepareWithin h.1 h.2, prepareWithin_none]
  have hbind (f : Location → Update Unit) : (prepareWithin b (directory path) >>= f).apply t =
      (prepareWithin .none (directory path) >>= f).apply t := by
    rw [apply_bind, apply_bind, hprepare]
  exact hbind _

/-- A write within bounds succeeds exactly where the tree admits it, unless it goes beyond them. -/
theorem exists_writeWithin_iff {b : Bounds} {t : FileTree} {path : String} (text : String) :
    (∃ u, (writeWithin b path text).apply t = (.ok (), u)) ↔
      t.Admits path ∧ ¬ b.AreExceeded t path := by
  constructor
  · rintro ⟨u, hw⟩
    obtain ⟨loc, v, hprepare, -⟩ := apply_bind_eq_ok.1 hw
    have hwithin := not_areExceeded_of_prepareWithin hprepare
    rw [writeWithin_of_not_areExceeded hwithin] at hw
    exact ⟨(exists_writeAtomic_iff text).1 ⟨u, hw⟩, hwithin⟩
  · rintro ⟨hadmits, hwithin⟩
    rw [writeWithin_of_not_areExceeded hwithin]
    exact writeAtomic_of_admits hadmits text

/-- What stands in the way of a file at a path of ordinary names. -/
lemma admits_iff_of_isOrdinary {t : FileTree} {path : String} (h : IsOrdinary path) :
    t.Admits path ↔ ¬ ExceedsLimits path ∧ t.node? (location path) ≠ some .directory ∧
      ∀ l ∈ directories path, ∀ content, t.node? l ≠ some (.file content) := by
  constructor
  · exact fun ha => ⟨h.isFollowable_iff.1 ha.followable, ha.free, ha.clear⟩
  · rintro ⟨hlimits, hfree, hclear⟩
    obtain ⟨hnamed, hpoint, hpoints⟩ := h.base_ne
    refine ⟨h.isFollowable_iff.2 hlimits, hnamed, hpoint, hpoints, fun hm => ?_, hclear, hfree⟩
    exact ((mem_directories_iff_of_isOrdinary h).1 hm).2 rfl

/-! ## Temporary files -/

/-- Whether a location is that of a temporary file, by its name. -/
def IsTemporary (l : Location) : Prop :=
  ∃ directory name, l = directory ++ [name] ∧ Text.startsWith ".tmp-" name = true ∧
    Text.endsWith ".part" name = true

/-! ## Both outcomes -/

/-- What a write of a text to a path makes of a tree within bounds: all that it should, or nothing
but directories above the path that were missing. -/
structure IsAllOrNothing (b : Bounds) (path text : String) (t : FileTree)
    (r : Except FileError Unit) (u : FileTree) : Prop where
  fails_iff : (∃ e, r = .error e) ↔
    t.node? (location path) = some .directory ∨
      (∃ l content, l <+: location path ∧ l ≠ location path ∧ t.node? l = some (.file content)) ∨
      ExceedsLimits path ∨ b.AreExceeded t path
  written : r = .ok () → u.read path = .ok (.text text)
  parents : r = .ok () → ∀ l, l <+: location path → l ≠ location path →
    u.node? l = some .directory
  others : r = .ok () → ∀ l, l ≠ location path → u.content? l = t.content? l
  untouched : (∃ e, r = .error e) → ∀ l, u.content? l = t.content? l
  made : ∀ l, u.node? l = t.node? l ∨ (r = .ok () ∧ l = location path) ∨
    (l <+: location path ∧ l ≠ location path ∧ t.node? l = none ∧ u.node? l = some .directory)
  noTemporary : ∀ l, IsTemporary l → l ≠ location path → ∀ content,
    u.node? l = some (.file content) → t.node? l = some (.file content)

/-- A write to a path of ordinary names is all or nothing. -/
theorem isAllOrNothing_writeWithin (b : Bounds) (path text : String) (t : FileTree)
    (h : IsOrdinary path) :
    IsAllOrNothing b path text t ((writeWithin b path text).apply t).1
      ((writeWithin b path text).apply t).2 := by
  have hpassed {l : Location} := mem_directories_iff_of_isOrdinary (l := l) h
  have hreturns := @exists_writeWithin_iff b t path text
  rw [admits_iff_of_isOrdinary h] at hreturns
  have hmade {l : Location} (hl : l ∈ made path) : l <+: location path ∧ l ≠ location path :=
    hpassed.1 (made_subset h.base_ne.1 l hl)
  rcases writeWithin_cases b path text t with ⟨e, u, hw, hgrows⟩ | ⟨u, v, hw, hgrows, hwritten⟩
  · rw [hw] at hreturns ⊢
    have hunchanged : FileTree.ChangesAt ∅ t u := hgrows.changesAt
    have hcontent (l : Location) : u.content? l = t.content? l :=
      hunchanged.files l (Set.notMem_empty l)
    constructor
    case fails_iff =>
      refine iff_of_true ⟨e, rfl⟩ ?_
      by_contra hnone
      rw [not_or, not_or, not_or] at hnone
      obtain ⟨hfree, hclear, hlimits, hwithin⟩ := hnone
      obtain ⟨u', hu'⟩ := hreturns.2 ⟨⟨hlimits, hfree, fun l hl content hfile =>
        hclear ⟨l, content, (hpassed.1 hl).1, (hpassed.1 hl).2, hfile⟩⟩, hwithin⟩
      cases hu'
    case written => nofun
    case parents => nofun
    case others => nofun
    case untouched => exact fun _ => hcontent
    case made =>
      intro l
      rcases hgrows l with hsame | ⟨hl, hnone, hdirectory⟩
      · exact .inl hsame
      · exact .inr (.inr ⟨(hmade hl).1, (hmade hl).2, hnone, hdirectory⟩)
    case noTemporary => exact fun l _ _ content hfile => (hgrows.file_iff l content).1 hfile
  · rw [hw] at hreturns ⊢
    have hfile {l : Location} (hl : l ≠ location path) (content : Content) :
        u.node? l = some (.file content) ↔ t.node? l = some (.file content) := by
      rw [hwritten.others l hl, hgrows.file_iff]
    constructor
    case fails_iff =>
      obtain ⟨⟨hlimits, hfree, hclear⟩, hwithin⟩ := hreturns.1 ⟨u, rfl⟩
      refine iff_of_false (by simp) ?_
      rintro (hdirectory | ⟨l, content, hfront, hne, hblocked⟩ | hlong | hbeyond)
      · exact hfree hdirectory
      · exact hclear l (hpassed.2 ⟨hfront, hne⟩) content hblocked
      · exact hlimits hlong
      · exact hwithin hbeyond
    case written =>
      refine fun _ => read_eq_ok_iff.2 ⟨locate_eq_ok_iff.2 ⟨hwritten.followable, ?_, rfl⟩,
        hwritten.place, demandsDirectory_of_base h.base_ne.1 h.base_ne.2.1⟩
      intro d hd
      rw [hwritten.others d (hpassed.1 hd).2]
      exact hwritten.above d hd
    case parents =>
      intro _ l hfront hne
      rw [hwritten.others l hne]
      exact hwritten.above l (hpassed.2 ⟨hfront, hne⟩)
    case others =>
      refine fun _ l hl => Option.ext fun content => ?_
      rw [content?_eq_some_iff, content?_eq_some_iff, hfile hl]
    case untouched => rintro ⟨e, he⟩; cases he
    case made =>
      intro l
      by_cases hl : l = location path
      · exact .inr (.inl ⟨rfl, hl⟩)
      · rcases hgrows l with hsame | ⟨hm, hnone, hdirectory⟩
        · exact .inl ((hwritten.others l hl).trans hsame)
        · exact .inr (.inr ⟨(hmade hm).1, hl, hnone, (hwritten.others l hl).trans hdirectory⟩)
    case noTemporary => exact fun l _ hl content hu => (hfile hl content).1 hu

/-- A tree with a file in the place of a directory. -/
def blockedTree : FileTree := ⟨[(["Dist"], .file (.text "none"))]⟩

/-- The bounds of a working directory whose path has 78 bytes with the slash behind it, where paths
are as long as they may be and a thousand calls may be made one inside the other. -/
def deepBounds : Bounds := ⟨some (pathLimit - 79), some 970⟩

/-- The file stays as it is, and no temporary one is left beside it. -/
theorem isAllOrNothing_blockedTree :
    IsOrdinary "Dist/Enum/Item.py" ∧
      (∃ e, ((writeWithin deepBounds "Dist/Enum/Item.py" "text").apply blockedTree).1 =
        .error e) ∧
      ∀ l, ((writeWithin deepBounds "Dist/Enum/Item.py" "text").apply blockedTree).2.content? l =
        blockedTree.content? l := by
  have hordinary : IsOrdinary "Dist/Enum/Item.py" := by decide
  have hwrite := isAllOrNothing_writeWithin deepBounds "Dist/Enum/Item.py" "text" blockedTree
    hordinary
  have hlocation : location "Dist/Enum/Item.py" = ["Dist", "Enum", "Item.py"] := by decide
  have hfails := hwrite.fails_iff.2
    (.inr (.inl ⟨["Dist"], .text "none", by rw [hlocation]; simp, by rw [hlocation]; simp, rfl⟩))
  exact ⟨hordinary, hfails, hwrite.untouched hfails⟩

/-- A name of one byte more than a name may have. -/
def longName : String := String.ofList (List.replicate 256 'a')

lemma utf8ByteSize_longName : longName.utf8ByteSize = 256 := by
  have hreplicate (n : Nat) : (String.ofList (List.replicate n 'a')).utf8ByteSize = n := by
    induction n with
    | zero => rfl
    | succ n ih =>
      rw [List.replicate_succ, String.ofList_cons, String.utf8ByteSize_append, ih, Nat.add_comm]
      rfl
  exact hreplicate 256

lemma pieces_longName : Text.pieces '/' longName = [longName] := by
  have hnone : '/' ∉ longName.toList := by
    unfold longName
    rw [String.toList_ofList, List.mem_replicate]
    simp
  generalize longName = name at hnone
  rw [Text.pieces, Text.splitOn_of_not_mem hnone, List.map_singleton, String.ofList_toList]

lemma isOrdinary_longName : IsOrdinary longName := by
  have hne {name : String} (h : name.utf8ByteSize ≠ 256) : longName ≠ name := by
    rintro rfl
    exact h utf8ByteSize_longName
  intro c hc
  rw [pieces_longName] at hc
  rw [List.mem_singleton.1 hc]
  exact ⟨hne (by decide), hne (by decide), hne (by decide)⟩

/-- Where nothing at all is there, a file of too long a name still cannot be written. -/
theorem writeAtomic_longName :
    IsOrdinary longName ∧ (∃ e, ((writeAtomic longName "text").apply empty).1 = .error e) ∧
      empty.node? (location longName) ≠ some .directory ∧
      ∀ l content, l <+: location longName → l ≠ location longName →
        empty.node? l ≠ some (.file content) := by
  have hexceeds : ExceedsLimits longName := by
    refine .inr (.inr ⟨longName, ?_, ?_⟩)
    · rw [pieces_longName]
      exact List.mem_singleton_self _
    · rw [utf8ByteSize_longName]
      decide
  have hempty (l : Location) (content : Content) : empty.node? l ≠ some (.file content) := by
    unfold node? empty
    split <;> simp
  refine ⟨isOrdinary_longName, ?_, ?_, fun l content _ _ => hempty l content⟩
  · rcases hw : (writeAtomic longName "text").apply empty with ⟨e | _, u⟩
    · exact ⟨e, rfl⟩
    · have hadmits := (exists_writeAtomic_iff "text").1 ⟨u, hw⟩
      exact absurd hexceeds ((admits_iff_of_isOrdinary isOrdinary_longName).1 hadmits).1
  · rw [isOrdinary_longName.location_eq, pieces_longName]
    simp [node?, empty]

end FileTree

end SheetCompiler
