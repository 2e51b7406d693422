import SheetCompiler.Proofs.Session.Visits

/-!
# Passes

A pass visits workbooks one after the other, up to a visit that ends it. What a visit writes stands
until the pass is over, for other tables have their files elsewhere; but a visit to a Convert table
may be refused for an Enum table that is visited later. So after one pass whatever can be accepted
is up to date, except for Convert tables, and after two passes these are as well.

Main statements:

* `Pass.induct`: what every visit preserves, a pass preserves;
* `Pass.settled`: what is accepted after a pass stands, if it was accepted when it was visited;
* `Pass.settled_others`, `Pass.settled_of_enumsFirst` and `Pass.settled_of_settled`: what is up to
  date after a pass;
* `Pass.node?_eq_of_settled`: where everything is up to date, a pass changes nothing.
-/

namespace SheetCompiler

open SheetCompiler.Stateful SheetCompiler.Path

/-! ## Visits one after the other -/

/-- Visits one after the other make one file tree of another; the last argument says whether one of
them has ended the pass. -/
inductive Pass (s : Settings) (m : Manifest) (place : String) :
    List Visit → FileTree → FileTree → Bool → Prop
  | done (t : FileTree) : Pass s m place [] t t false
  | accepted {v : Visit} {visits : List Visit} {t u w : FileTree} {c : Compiled} {stopped : Bool}
      (h : v.verdict s t = .accepted c) (hwrites : v.Writes s m place c t u)
      (hrest : Pass s m place visits u w stopped) : Pass s m place (v :: visits) t w stopped
  | refused {v : Visit} {visits : List Visit} {t u : FileTree} {stopped : Bool}
      (h : v.verdict s t = .refused) (hrest : Pass s m place visits t u stopped) :
      Pass s m place (v :: visits) t u stopped
  | ended {v : Visit} {visits : List Visit} {t : FileTree} (h : v.verdict s t = .ended) :
      Pass s m place (v :: visits) t t true

/-- A statement about the visits that are left and the file tree that every visit preserves. -/
structure Pass.Preserves (s : Settings) (m : Manifest) (place : String)
    (I : List Visit → FileTree → Prop) : Prop where
  accepted : ∀ v visits t u c, I (v :: visits) t → v.verdict s t = .accepted c →
    v.Writes s m place c t u → I visits u
  refused : ∀ v visits t, I (v :: visits) t → v.verdict s t = .refused → I visits t

section

variable {s : Settings} {m : Manifest} {place : String} {visits more : List Visit} {v : Visit}
  {t u w : FileTree} {stopped : Bool} {c : Compiled} {I : List Visit → FileTree → Prop}

/-- What every visit preserves, a pass preserves. -/
theorem Pass.induct (h : Pass s m place visits t u stopped) (hI : Pass.Preserves s m place I)
    (ht : I visits t) : ∃ rest, I rest u := by
  induction h with
  | done t => exact ⟨_, ht⟩
  | accepted h hwrites _ ih => exact ih (hI.accepted _ _ _ _ _ ht h hwrites)
  | refused h _ ih => exact ih (hI.refused _ _ _ ht h)
  | ended _ => exact ⟨_, ht⟩

/-- A pass begins as its first visit goes. -/
lemma Pass.tail_of_accepted (h : Pass s m place (v :: visits) t u stopped)
    (hc : v.verdict s t = .accepted c) :
    ∃ w, v.Writes s m place c t w ∧ Pass s m place visits w u stopped := by
  cases h with
  | accepted hd hwrites hrest =>
    rw [hc, Verdict.accepted.injEq] at hd
    subst hd
    exact ⟨_, hwrites, hrest⟩
  | refused hd _ =>
    rw [hc] at hd
    cases hd
  | ended hd =>
    rw [hc] at hd
    cases hd

lemma Pass.tail_of_refused (h : Pass s m place (v :: visits) t u stopped)
    (hv : v.verdict s t = .refused) : Pass s m place visits t u stopped := by
  cases h with
  | accepted hd _ _ =>
    rw [hv] at hd
    cases hd
  | refused _ hrest => exact hrest
  | ended hd =>
    rw [hv] at hd
    cases hd

/-- A pass that has not ended goes on with the next visits. -/
lemma Pass.append (h : Pass s m place visits t u false) (h' : Pass s m place more u w stopped) :
    Pass s m place (visits ++ more) t w stopped := by
  generalize hover : false = ended at h
  induction h with
  | done t => exact h'
  | accepted h hwrites _ ih => exact .accepted h hwrites (ih h' hover)
  | refused h _ ih => exact .refused h (ih h' hover)
  | ended _ => cases hover

/-- A pass that has ended goes on with none. -/
lemma Pass.append_of_ended (h : Pass s m place visits t u true) (more : List Visit) :
    Pass s m place (visits ++ more) t u true := by
  generalize hover : true = ended at h
  induction h with
  | done t => cases hover
  | accepted h hwrites _ ih => exact .accepted h hwrites (ih hover)
  | refused h _ ih => exact .refused h (ih hover)
  | ended h => exact .ended h

/-! ## What visits leave alone -/

/-- Visits have made one file tree of another: nothing is taken away, and only the files of recorded
tables and that of the manifest have changed. -/
structure FileTree.Visited (s : Settings) (m : Manifest) (place : String) (t u : FileTree) :
    Prop where
  extended : t.Extends u
  others : ∀ l, l ≠ location place → (∀ v : Visit, v.IsRecorded s m → l ∉ v.places s) →
    u.node? l = t.node? l

namespace FileTree.Visited

lemma refl (s : Settings) (m : Manifest) (place : String) (t : FileTree) :
    t.Visited s m place t := ⟨.refl t, fun _ _ _ => rfl⟩

lemma trans (h : t.Visited s m place u) (h' : u.Visited s m place w) : t.Visited s m place w :=
  ⟨h.extended.trans _ _ _ h'.extended,
    fun l hl hv => (h'.others l hl hv).trans (h.others l hl hv)⟩

lemma of_writes (h : v.Writes s m place c t u) (hv : v.IsRecorded s m) :
    t.Visited s m place u := by
  refine ⟨h.extended, fun l hl hother => h.others l ?_⟩
  rw [Set.mem_insert_iff, not_or]
  exact ⟨hl, hother v hv⟩

variable (h : t.Visited s m place u) (ht : t.IsReady s m place) (hu : u.IsReady s m place)
include h ht hu

omit ht in
/-- Visits make no directory. -/
lemma sameDirectories : t.SameDirectories u := by
  refine fun l => ⟨h.extended.directories l, fun hl => ?_⟩
  by_cases hplace : l = location place
  · exact absurd (hplace ▸ hl) hu.admits.free
  by_cases hfile : ∃ v : Visit, v.IsRecorded s m ∧ l ∈ v.places s
  · obtain ⟨v, hv, output, ho, rfl⟩ := hfile
    obtain ⟨content, hread⟩ := hu.outputs v hv output ho
    rw [(FileTree.read_eq_ok_iff.1 hread).2.1] at hl
    cases hl
  · rwa [h.others l hplace fun v hv hmem => hfile ⟨v, hv, hmem⟩] at hl

/-- Visits make no script that was not there. -/
lemma sameReferences : SameReferences s t u := by
  intro scripts table hscripts hslash
  have hfile {w : FileTree} {output : String} (hw : w.IsFile output) :
      (w.node? (location output)).isSome = true := by
    obtain ⟨content, hread⟩ := hw
    rw [(FileTree.read_eq_ok_iff.1 hread).2.1]
    rfl
  generalize hl : scriptLocation scripts .convert (table ++ ".py") = l
  have hscript : l ∉ workbookLocations :=
    hl ▸ scriptLocation_notMem_workbookLocations scripts .convert table
  by_cases hplace : l = location place
  · subst hplace
    rw [hfile ⟨_, ht.manifest hscript⟩, hfile ⟨_, hu.manifest hscript⟩]
  by_cases houtput : ∃ v : Visit, v.IsRecorded s m ∧ l ∈ v.places s
  · obtain ⟨v, hv, output, ho, rfl⟩ := houtput
    rw [hfile (ht.outputs v hv output ho), hfile (hu.outputs v hv output ho)]
  · rw [h.others l hplace fun v hv hmem => houtput ⟨v, hv, hmem⟩]

omit ht hu in
/-- Visits change no workbook, unless the manifest takes its place. -/
lemma node?_workbook (hv : v.IsRecorded s m) (hne : location v.path ≠ location place) :
    u.node? (location v.path) = t.node? (location v.path) :=
  h.others _ hne fun _ hw => hv.notMem_places hw

/-- After other visits the verdict is the same, as long as the workbook is and, for a Convert table,
the scripts of Enum tables are. -/
lemma verdict_eq (htemplates : s.templates = none) (hv : v.IsRecorded s m)
    (hworkbook : location v.path = location place →
      t.node? (location place) = u.node? (location place))
    (henums : v.kind = .convert → SameEnums s t u) : v.verdict s t = v.verdict s u := by
  have hnode : t.node? (location v.path) = u.node? (location v.path) := by
    by_cases hplace : location v.path = location place
    · rw [hplace]
      exact hworkbook hplace
    · exact (h.node?_workbook hv hplace).symm
  exact Visit.verdict_congr hv.tableFile htemplates (h.sameDirectories hu) hnode
    fun hkind => ⟨henums hkind, h.sameReferences ht hu⟩

end FileTree.Visited

/-- Scripts of Enum tables lie among the files of no other table. -/
lemma Visit.IsRecorded.enumScript_notMem_places (hv : v.IsRecorded s m) (hkind : v.kind ≠ .enum)
    {scripts : String} (hscripts : s.scripts = .text scripts) (table : String) :
    scriptLocation scripts .enum (table ++ ".py") ∉ v.places s := by
  rintro ⟨output, ho, hl⟩
  rcases mem_outputPlaces.1 ho with hp | ⟨-, hp⟩
  · rw [Settings.scriptPath?_eq hscripts, Option.some.injEq] at hp
    rw [← hp, location_scriptPath_eq (slash_notMem_of_isIdentifier hv.named)] at hl
    exact hkind (scriptLocation_inj hl).1
  · exact location_dataPath_ne hv.named hp (isScript_append table) hl

/-- A visit to a table of another kind changes no script of an Enum table. -/
lemma Visit.Writes.sameEnums (h : v.Writes s m place c t u) (hv : v.IsRecorded s m)
    (hkind : v.kind ≠ .enum) (ht : t.IsReady s m place) : SameEnums s t u := by
  intro scripts table hscripts hslash
  generalize hl : scriptLocation scripts .enum (table ++ ".py") = l
  have hscript : l ∉ workbookLocations :=
    hl ▸ scriptLocation_notMem_workbookLocations scripts .enum table
  by_cases hplace : l = location place
  · subst hplace
    rw [(FileTree.read_eq_ok_iff.1 (ht.manifest hscript)).2.1,
      (FileTree.read_eq_ok_iff.1 h.manifest).2.1]
  · refine (h.others l ?_).symm
    rw [Set.mem_insert_iff, not_or, ← hl]
    exact ⟨hl ▸ hplace, hv.enumScript_notMem_places hkind hscripts table⟩

/-- A visit that writes what stands already leaves everything as it was. -/
lemma Visit.Writes.node?_eq_of_stands (h : v.Writes s m place c u w) (hv : v.Stands s place c t)
    (hread : t.read place = .ok (.text m.print)) {l : Location} (hl : u.node? l = t.node? l) :
    w.node? l = t.node? l := by
  by_cases hplace : l = location place
  · rw [hplace, (FileTree.read_eq_ok_iff.1 hread).2.1, (FileTree.read_eq_ok_iff.1 h.manifest).2.1]
  by_cases hmem : l ∈ v.places s
  · exact h.stands.node?_eq hv hmem hplace
  · rw [h.others l (by rw [Set.mem_insert_iff, not_or]; exact ⟨hplace, hmem⟩), hl]

lemma SameEnums.refl (s : Settings) (t : FileTree) : SameEnums s t t := fun _ _ _ _ => rfl

lemma SameEnums.symm (h : SameEnums s t u) : SameEnums s u t :=
  fun scripts table hs ht => (h scripts table hs ht).symm

lemma SameEnums.trans (h : SameEnums s t u) (h' : SameEnums s u w) : SameEnums s t w :=
  fun scripts table hs ht => (h scripts table hs ht).trans (h' scripts table hs ht)

end

/-! ## What is up to date -/

/-- Whether a verdict ends a pass. -/
def Verdict.isEnded : Verdict → Bool
  | .ended => true
  | _ => false

/-- The visits of a pass that finds a file tree as it is: those before one that ends it. -/
def visitedIn (s : Settings) (t : FileTree) (visits : List Visit) : List Visit :=
  visits.takeWhile fun v => !(v.verdict s t).isEnded

/-- The tables of some kinds that visits would accept are up to date. -/
def AreSettled (s : Settings) (place : String) (K : TableKind → Prop) (visits : List Visit)
    (t : FileTree) : Prop :=
  ∀ v ∈ visitedIn s t visits, K v.kind → ∀ c, v.verdict s t = .accepted c → v.Stands s place c t

section

variable {s : Settings} {m : Manifest} {place : String} {K : TableKind → Prop}
  {visits : List Visit} {v : Visit} {t u w : FileTree} {stopped : Bool} {c : Compiled}
  {I : List Visit → FileTree → Prop}

lemma visitedIn_of_ended (h : v.verdict s t = .ended) : visitedIn s t (v :: visits) = [] :=
  List.takeWhile_cons_of_neg (by rw [h]; decide)

lemma visitedIn_cons (h : v.verdict s t ≠ .ended) :
    visitedIn s t (v :: visits) = v :: visitedIn s t visits := by
  refine List.takeWhile_cons_of_pos ?_
  cases hv : v.verdict s t with
  | ended => exact absurd hv h
  | _ => rfl

lemma areSettled_of_ended (h : v.verdict s t = .ended) :
    AreSettled s place K (v :: visits) t := by
  rw [AreSettled, visitedIn_of_ended h]
  exact fun w hw => absurd hw List.not_mem_nil

lemma areSettled_cons (h : v.verdict s t ≠ .ended) :
    AreSettled s place K (v :: visits) t ↔
      (K v.kind → ∀ c, v.verdict s t = .accepted c → v.Stands s place c t) ∧
        AreSettled s place K visits t := by
  rw [AreSettled, visitedIn_cons h, List.forall_mem_cons]
  rfl

/-- What a visit has written stands until the pass is over, if every further visit to the same table
writes the same. -/
lemma Pass.stands (h : Pass s m place visits u w stopped) (hI : Pass.Preserves s m place I)
    (hrecorded : ∀ v visits t, I (v :: visits) t → v.IsRecorded s m) (hu : I visits u)
    (hv : v.IsRecorded s m) (hstands : v.Stands s place c u)
    (hsame : ∀ visits t, I (v :: visits) t → Pass s m place (v :: visits) t w stopped →
      v.verdict s t = .accepted c) : v.Stands s place c w := by
  induction h with
  | done t => exact hstands
  | @accepted other rest t u w d stopped hd hwrites hrest ih =>
    refine ih (hI.accepted _ _ _ _ _ hu hd hwrites) ?_ hsame
    by_cases hother : v = other
    · subst hother
      rw [hsame rest t hu (.accepted hd hwrites hrest), Verdict.accepted.injEq] at hd
      rw [hd]
      exact hwrites.stands
    · exact hv.stands_of_writes (hrecorded _ _ _ hu) hother hstands hwrites
  | refused hd _ ih => exact ih (hI.refused _ _ _ hu hd) hstands hsame
  | ended _ => exact hstands

/-- What is accepted after a pass stands there, if the visits of the pass have accepted the same. -/
theorem Pass.settled (h : Pass s m place visits t u stopped) (hI : Pass.Preserves s m place I)
    (hrecorded : ∀ v visits t, I (v :: visits) t → v.IsRecorded s m) (ht : I visits t)
    (hsame : ∀ v visits t c, I (v :: visits) t → Pass s m place (v :: visits) t u stopped →
      K v.kind → v.verdict s u = .accepted c → v.verdict s t = .accepted c) :
    AreSettled s place K visits u := by
  induction h with
  | done t => exact fun v hv => absurd hv List.not_mem_nil
  | @accepted v rest t u w c stopped hc hwrites hrest ih =>
    have hu := hI.accepted _ _ _ _ _ ht hc hwrites
    have hsettled := ih hu hsame
    by_cases hended : v.verdict s w = .ended
    · exact areSettled_of_ended hended
    · refine (areSettled_cons hended).2 ⟨fun hk d hd => ?_, hsettled⟩
      have hvisit := hsame v rest t d ht (.accepted hc hwrites hrest) hk hd
      rw [hc, Verdict.accepted.injEq] at hvisit
      subst hvisit
      exact hrest.stands hI hrecorded hu (hrecorded _ _ _ ht) hwrites.stands
        fun rest' t' ht' hpass => hsame v rest' t' c ht' hpass hk hd
  | @refused v rest t u stopped hc hrest ih =>
    have hsettled := ih (hI.refused _ _ _ ht hc) hsame
    by_cases hended : v.verdict s u = .ended
    · exact areSettled_of_ended hended
    · refine (areSettled_cons hended).2 ⟨fun hk d hd => ?_, hsettled⟩
      have hvisit := hsame v rest t d ht (.refused hc hrest) hk hd
      rw [hc] at hvisit
      cases hvisit
  | ended hc => exact areSettled_of_ended hc

/-! ## What one pass brings up to date -/

/-- The visits that are left are to recorded tables, and the file tree is one that they come to. -/
structure Pass.Comes (s : Settings) (m : Manifest) (place : String) (visits : List Visit)
    (t : FileTree) : Prop where
  recorded : ∀ v ∈ visits, v.IsRecorded s m
  ready : t.IsReady s m place

lemma Pass.preserves_comes : Pass.Preserves s m place (Pass.Comes s m place) := by
  constructor
  case accepted =>
    intro v visits t u c ht _ hwrites
    exact ⟨fun w hw => ht.recorded w (List.mem_cons_of_mem _ hw), hwrites.isReady ht.ready⟩
  case refused =>
    intro v visits t ht _
    exact ⟨fun w hw => ht.recorded w (List.mem_cons_of_mem _ hw), ht.ready⟩

/-- What a pass leaves alone, and what the next one comes to. -/
lemma Pass.visited (h : Pass s m place visits t u stopped) (ht : Pass.Comes s m place visits t) :
    t.Visited s m place u ∧ u.IsReady s m place := by
  have hI : Pass.Preserves s m place fun visits w =>
      Pass.Comes s m place visits w ∧ t.Visited s m place w := by
    constructor
    case accepted =>
      intro v visits w x c ⟨hw, hvisited⟩ hc hwrites
      exact ⟨Pass.preserves_comes.accepted _ _ _ _ _ hw hc hwrites,
        hvisited.trans (.of_writes hwrites (hw.recorded v List.mem_cons_self))⟩
    case refused =>
      intro v visits w ⟨hw, hvisited⟩ hc
      exact ⟨Pass.preserves_comes.refused _ _ _ hw hc, hvisited⟩
  obtain ⟨rest, hu, hvisited⟩ := h.induct hI ⟨ht, .refl s m place t⟩
  exact ⟨hvisited, hu.ready⟩

/-- Whether a pass that finds a file tree as it is accepts nothing. -/
def AcceptsNone (s : Settings) (visits : List Visit) (t : FileTree) : Prop :=
  ∀ v ∈ visitedIn s t visits, ∀ c, v.verdict s t ≠ .accepted c

/-- A pass that accepts something leaves the manifest in its file, and any other one leaves
everything as it is. -/
lemma Pass.read_or_acceptsNone (h : Pass s m place visits t u stopped) :
    u.read place = .ok (.text m.print) ∨ u = t ∧ AcceptsNone s visits t := by
  induction h with
  | done t => exact .inr ⟨rfl, fun v hv => absurd hv List.not_mem_nil⟩
  | accepted hc hwrites _ ih =>
    rcases ih with hread | ⟨rfl, -⟩
    · exact .inl hread
    · exact .inl hwrites.manifest
  | @refused v rest t u stopped hc _ ih =>
    rcases ih with hread | ⟨rfl, hnone⟩
    · exact .inl hread
    · refine .inr ⟨rfl, ?_⟩
      rw [AcceptsNone, visitedIn_cons (by rw [hc]; nofun), List.forall_mem_cons]
      refine ⟨fun c hd => ?_, hnone⟩
      rw [hc] at hd
      cases hd
  | @ended v rest t hc =>
    refine .inr ⟨rfl, ?_⟩
    rw [AcceptsNone, visitedIn_of_ended hc]
    exact fun w hw => absurd hw List.not_mem_nil

/-- What is accepted after a pass was accepted by the visits of the pass, if the scripts of Enum
tables have stayed the same since a Convert table was visited. -/
lemma Pass.verdict_of_accepted (h : Pass s m place (v :: visits) t u stopped)
    (ht : Pass.Comes s m place (v :: visits) t) (htemplates : s.templates = none)
    (henums : v.kind = .convert → SameEnums s t u) (hc : v.verdict s u = .accepted c) :
    v.verdict s t = .accepted c := by
  obtain ⟨hvisited, hu⟩ := h.visited ht
  rcases h.read_or_acceptsNone with hread | ⟨rfl, -⟩
  · -- the manifest does not lie where the workbook is read
    obtain ⟨cells, hcells⟩ := Visit.exists_workbook_of_accepted hc
    have hne : location v.path ≠ location place := by
      intro hplace
      rw [hplace, (FileTree.read_eq_ok_iff.1 hread).2.1] at hcells
      cases hcells
    rw [hvisited.verdict_eq ht.ready hu htemplates (ht.recorded v List.mem_cons_self)
      (fun hplace => absurd hplace hne) henums]
    exact hc
  · exact hc

/-- After a pass all tables but Convert tables are up to date. -/
theorem Pass.settled_others (h : Pass s m place visits t u stopped)
    (ht : Pass.Comes s m place visits t) (htemplates : s.templates = none) :
    AreSettled s place (· ≠ .convert) visits u :=
  h.settled Pass.preserves_comes (fun v _ _ ht => ht.recorded v List.mem_cons_self) ht
    fun _ _ _ _ ht hpass hkind hc =>
      hpass.verdict_of_accepted ht htemplates (fun hconvert => absurd hconvert hkind) hc

/-- No Enum table is visited after a Convert table. -/
def EnumsFirst (visits : List Visit) : Prop :=
  visits.Pairwise fun v w => v.kind = .convert → w.kind ≠ .enum

/-- Visits to other tables change no script of an Enum table. -/
lemma Pass.sameEnums (h : Pass s m place visits t u stopped) (ht : Pass.Comes s m place visits t)
    (hkinds : ∀ v ∈ visits, v.kind ≠ .enum) : SameEnums s t u := by
  have hI : Pass.Preserves s m place fun visits w =>
      (Pass.Comes s m place visits w ∧ ∀ v ∈ visits, v.kind ≠ .enum) ∧ SameEnums s t w := by
    constructor
    case accepted =>
      intro v visits w x c ⟨⟨hw, hkinds⟩, hsame⟩ hc hwrites
      rw [List.forall_mem_cons] at hkinds
      exact ⟨⟨Pass.preserves_comes.accepted _ _ _ _ _ hw hc hwrites, hkinds.2⟩,
        hsame.trans (hwrites.sameEnums (hw.recorded v List.mem_cons_self) hkinds.1 hw.ready)⟩
    case refused =>
      intro v visits w ⟨⟨hw, hkinds⟩, hsame⟩ hc
      rw [List.forall_mem_cons] at hkinds
      exact ⟨⟨Pass.preserves_comes.refused _ _ _ hw hc, hkinds.2⟩, hsame⟩
  obtain ⟨rest, -, hsame⟩ := h.induct hI ⟨⟨ht, hkinds⟩, .refl s t⟩
  exact hsame

/-- After a pass that visits no Enum table after a Convert table all tables are up to date. -/
theorem Pass.settled_of_enumsFirst (h : Pass s m place visits t u stopped)
    (ht : Pass.Comes s m place visits t) (htemplates : s.templates = none)
    (hfirst : EnumsFirst visits) : AreSettled s place (fun _ => True) visits u := by
  have hI : Pass.Preserves s m place fun visits w =>
      Pass.Comes s m place visits w ∧ EnumsFirst visits := by
    constructor
    case accepted =>
      intro v visits w x c ⟨hw, hfirst⟩ hc hwrites
      exact ⟨Pass.preserves_comes.accepted _ _ _ _ _ hw hc hwrites, hfirst.of_cons⟩
    case refused =>
      intro v visits w ⟨hw, hfirst⟩ hc
      exact ⟨Pass.preserves_comes.refused _ _ _ hw hc, hfirst.of_cons⟩
  refine h.settled hI (fun v _ _ ht => ht.1.recorded v List.mem_cons_self) ⟨ht, hfirst⟩ ?_
  rintro v rest w c ⟨hw, hfirst⟩ hpass - hc
  refine hpass.verdict_of_accepted hw htemplates (fun hconvert => ?_) hc
  refine hpass.sameEnums hw fun x hx => ?_
  rcases List.mem_cons.1 hx with rfl | hx
  · rw [hconvert]
    decide
  · exact List.rel_of_pairwise_cons hfirst hx hconvert

/-! ## What the next pass leaves -/

/-- A pass that finds nothing to accept leaves everything as it is. -/
lemma Pass.eq_of_acceptsNone (h : Pass s m place visits t u stopped)
    (hnone : AcceptsNone s visits t) : u = t := by
  induction h with
  | done t => rfl
  | accepted hc _ _ _ =>
    rw [AcceptsNone, visitedIn_cons (by rw [hc]; nofun), List.forall_mem_cons] at hnone
    exact absurd hc (hnone.1 _)
  | refused hc _ ih =>
    rw [AcceptsNone, visitedIn_cons (by rw [hc]; nofun), List.forall_mem_cons] at hnone
    exact ih hnone.2
  | ended _ => rfl

lemma AcceptsNone.areSettled (h : AcceptsNone s visits t) : AreSettled s place K visits t :=
  fun v hv _ c hc => absurd hc (h v hv c)

/-- What a pass has come to that has changed no script of an Enum table, where all tables but
Convert tables are up to date. -/
structure Pass.Rewrites (s : Settings) (m : Manifest) (place : String) (t : FileTree)
    (visits : List Visit) (w : FileTree) : Prop where
  comes : Pass.Comes s m place visits w
  visited : t.Visited s m place w
  manifest : w.read place = .ok (.text m.print)
  enums : SameEnums s t w
  settled : AreSettled s place (· ≠ .convert) visits t

/-- The scripts of Enum tables stay the same, for those that are written are up to date. -/
lemma Pass.preserves_rewrites (htemplates : s.templates = none) (ht : t.IsReady s m place)
    (hread : t.read place = .ok (.text m.print)) :
    Pass.Preserves s m place (Pass.Rewrites s m place t) := by
  have hsame {v : Visit} {visits : List Visit} {w : FileTree}
      (hw : Pass.Rewrites s m place t (v :: visits) w) : v.verdict s t = v.verdict s w := by
    refine hw.visited.verdict_eq ht hw.comes.ready htemplates
      (hw.comes.recorded v List.mem_cons_self) (fun _ => ?_) fun _ => hw.enums
    rw [(FileTree.read_eq_ok_iff.1 hread).2.1, (FileTree.read_eq_ok_iff.1 hw.manifest).2.1]
  constructor
  case accepted =>
    intro v visits w x c hw hc hwrites
    have hv := hw.comes.recorded v List.mem_cons_self
    have hc' : v.verdict s t = .accepted c := (hsame hw).trans hc
    obtain ⟨hstands, hsettled⟩ := (areSettled_cons (by rw [hc']; nofun)).1 hw.settled
    refine ⟨Pass.preserves_comes.accepted _ _ _ _ _ hw.comes hc hwrites,
      hw.visited.trans (.of_writes hwrites hv), hwrites.manifest, ?_, hsettled⟩
    by_cases hkind : v.kind = .enum
    · have hstands' := hstands (by rw [hkind]; decide) c hc'
      intro scripts table hscripts hslash
      have hsame := hw.enums scripts table hscripts hslash
      exact (hwrites.node?_eq_of_stands hstands' hread hsame.symm).symm
    · exact hw.enums.trans (hwrites.sameEnums hv hkind hw.comes.ready)
  case refused =>
    intro v visits w hw hc
    have hc' : v.verdict s t = .refused := (hsame hw).trans hc
    obtain ⟨-, hsettled⟩ := (areSettled_cons (by rw [hc']; nofun)).1 hw.settled
    exact ⟨Pass.preserves_comes.refused _ _ _ hw.comes hc, hw.visited, hw.manifest, hw.enums,
      hsettled⟩

/-- Where all tables but Convert tables are up to date, a further pass brings all tables up to
date. -/
theorem Pass.settled_of_settled (h : Pass s m place visits t u stopped)
    (ht : Pass.Comes s m place visits t) (htemplates : s.templates = none)
    (hread : t.read place = .ok (.text m.print))
    (hsettled : AreSettled s place (· ≠ .convert) visits t) :
    AreSettled s place (fun _ => True) visits u := by
  have hI := Pass.preserves_rewrites htemplates ht.ready hread
  have hstart : Pass.Rewrites s m place t visits t :=
    ⟨ht, .refl s m place t, hread, .refl s t, hsettled⟩
  refine h.settled hI (fun v _ _ hw => hw.comes.recorded v List.mem_cons_self) hstart ?_
  intro v rest w c hw hpass _ hc
  refine hpass.verdict_of_accepted hw.comes htemplates (fun _ => ?_) hc
  obtain ⟨_, hu⟩ := hpass.induct hI hw
  exact hw.enums.symm.trans hu.enums

/-- Where all tables are up to date, a further pass changes nothing. -/
theorem Pass.node?_eq_of_settled (h : Pass s m place visits t u stopped)
    (ht : Pass.Comes s m place visits t) (htemplates : s.templates = none)
    (hread : t.read place = .ok (.text m.print))
    (hsettled : AreSettled s place (fun _ => True) visits t) (l : Location) :
    u.node? l = t.node? l := by
  have hsame {v : Visit} {w : FileTree} (hv : v.IsRecorded s m)
      (hw : ∀ l, w.node? l = t.node? l) : v.verdict s t = v.verdict s w := by
    refine Visit.verdict_congr hv.tableFile htemplates (fun l => by rw [hw]) (hw _).symm fun _ => ?_
    exact ⟨fun _ _ _ _ => (hw _).symm, fun _ _ _ _ => by rw [hw]⟩
  have hI : Pass.Preserves s m place fun visits w => (Pass.Comes s m place visits w ∧
      AreSettled s place (fun _ => True) visits t) ∧ ∀ l, w.node? l = t.node? l := by
    constructor
    case accepted =>
      intro v visits w x c ⟨⟨hw, hsettled⟩, hnodes⟩ hc hwrites
      have hc' := (hsame (hw.recorded v List.mem_cons_self) hnodes).trans hc
      obtain ⟨hstands, hrest⟩ := (areSettled_cons (by rw [hc']; nofun)).1 hsettled
      refine ⟨⟨Pass.preserves_comes.accepted _ _ _ _ _ hw hc hwrites, hrest⟩, fun l => ?_⟩
      exact hwrites.node?_eq_of_stands (hstands trivial c hc') hread (hnodes l)
    case refused =>
      intro v visits w ⟨⟨hw, hsettled⟩, hnodes⟩ hc
      have hc' := (hsame (hw.recorded v List.mem_cons_self) hnodes).trans hc
      obtain ⟨-, hrest⟩ := (areSettled_cons (by rw [hc']; nofun)).1 hsettled
      exact ⟨⟨Pass.preserves_comes.refused _ _ _ hw hc, hrest⟩, hnodes⟩
  obtain ⟨rest, -, hnodes⟩ := h.induct hI ⟨⟨ht, hsettled⟩, fun _ => rfl⟩
  exact hnodes l

end

end SheetCompiler
