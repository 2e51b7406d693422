import SheetCompiler.Proofs.FileTree.Read
import SheetCompiler.Proofs.Stateful
import SheetCompiler.Proofs.Script.Token
import SheetCompiler.Proofs.Table.Rows
import SheetCompiler.Registry.Load

/-!
# What loading scripts declares

Loading runs the scripts of a directory one after the other, and what a script declares depends on
nothing but its text (`declared?`). So loading succeeds exactly if every script runs to its end, and
what it leaves in the registry is what the scripts declare in their order.

Main statements:

* `loadScript_eq_ok_iff`: what loading one script leaves;
* `loadScripts_eq_ok_iff`: what loading a directory of scripts leaves;
* `loadScripts_returns_iff`: when it succeeds;
* `mem_scriptsIn`: a file that is read is among the scripts of its directory;
* `loadScripts_returns_iff_of_others`: what one script decides.
-/

namespace SheetCompiler

open SheetCompiler.Path SheetCompiler.Stateful

/-! ## Scripts -/

namespace FileTree

/-- What the script of a kind in a directory declares, if it runs to its end. -/
def declared? (t : FileTree) (kind : TableKind) (directory file : String) :
    Option Script.Declared :=
  match t.readText (join directory file) with
  | .error _ => none
  | .ok text =>
    match Script.run (kind.moduleOf (splitExtension file).1) text with
    | (declared, none) => some declared
    | (_, some _) => none

lemma declared?_eq_some_iff {t : FileTree} {kind : TableKind} {directory file : String}
    {d : Script.Declared} :
    t.declared? kind directory file = some d ↔
      ∃ text, t.readText (join directory file) = .ok text ∧
        Script.run (kind.moduleOf (splitExtension file).1) text = (d, none) := by
  unfold declared?
  cases t.readText (join directory file) with
  | error e => simp
  | ok text =>
    simp only [Except.ok.injEq, exists_eq_left']
    rcases Script.run (kind.moduleOf (splitExtension file).1) text with ⟨d', _ | fault⟩ <;> simp

/-- What the scripts of a kind in a directory of scripts declare, in their order. -/
def declaredIn? (t : FileTree) (scripts : String) (kind : TableKind) :
    Option (List Script.Declared) :=
  (Action.scriptsIn t (join scripts kind.name)).mapM (t.declared? kind (join scripts kind.name))

end FileTree

/-- The project whose registry has taken over what scripts declare, one after the other. -/
def Project.declaring (p : Project) (ds : List Script.Declared) : Project :=
  { p with registry := ds.foldl Registry.declare p.registry }

@[simp] lemma Project.files_declaring (p : Project) (ds : List Script.Declared) :
    (p.declaring ds).files = p.files := rfl

@[simp] lemma Project.declaring_declaring (p : Project) (ds ds' : List Script.Declared) :
    (p.declaring ds).declaring ds' = p.declaring (ds ++ ds') := by
  simp [declaring, List.foldl_append]

/-- The project whose registry has other constants. -/
def Project.withConstants (p : Project) (constants : Pairs (Option ConstantGroup)) : Project :=
  { p with registry := { p.registry with constants } }

namespace Action

variable {p q : Project} {kind : TableKind} {scripts directory file : String}

/-- What a script that runs to its end is taken for. -/
def loaded (kind : TableKind) (file : String) (d : Script.Declared) : LoadedScript :=
  ⟨kind, (splitExtension file).1, Script.constants? d.names ("Va" ++ (splitExtension file).1)⟩

/-- Loading a script succeeds exactly if the script runs to its end, and the registry then has what
it declares. -/
theorem loadScript_eq_ok_iff {s : LoadedScript} :
    (loadScript kind directory file).apply p = (.ok s, q) ↔
      ∃ d, p.files.declared? kind directory file = some d ∧ s = loaded kind file d ∧
        q = p.declaring [d] := by
  unfold loadScript FileTree.declared?
  rw [apply_bind_of_ok (apply_get p)]
  cases p.files.readText (join directory file) with
  | error e =>
    have herror (f : String → Action LoadedScript) :
        (ofExcept ((.error e : Except FileError String).mapError .file) >>= f).apply p =
          (.error (.file e), p) := rfl
    rw [herror]
    simp
  | ok text =>
    have hok : (ofExcept ((.ok text : Except FileError String).mapError .file)).apply p =
        (.ok text, p) := rfl
    rw [apply_bind_of_ok hok]
    dsimp only
    rcases Script.run (kind.moduleOf (splitExtension file).1) text with ⟨d, _ | fault⟩
    · dsimp only
      rw [apply_bind_of_ok (apply_modify _ p), apply_pure]
      simp [loaded, Project.declaring, eq_comm]
    · dsimp only
      rw [apply_bind_of_ok (apply_modify _ p), apply_throw]
      simp

/-- What scripts one after the other are taken for. -/
def loadedAll (kind : TableKind) (files : List String) (ds : List Script.Declared) :
    List LoadedScript := List.zipWith (loaded kind) files ds

lemma mapM_loadScript_eq_ok_iff {files : List String} {ss : List LoadedScript} :
    (files.mapM (loadScript kind directory)).apply p = (.ok ss, q) ↔
      ∃ ds, files.mapM (p.files.declared? kind directory) = some ds ∧
        ss = loadedAll kind files ds ∧ q = p.declaring ds := by
  induction files generalizing p q ss with
  | nil =>
    have hnone : p.declaring [] = p := rfl
    simp [loadedAll, eq_comm (a := p), hnone]
  | cons file files ih =>
    rw [List.mapM_cons, List.mapM_cons, apply_bind_eq_ok]
    constructor
    · rintro ⟨s, r, hs, hrest⟩
      obtain ⟨d, hd, rfl, rfl⟩ := loadScript_eq_ok_iff.1 hs
      obtain ⟨ss', r', hss, hdone⟩ := apply_bind_eq_ok.1 hrest
      obtain ⟨ds, hds, rfl, rfl⟩ := ih.1 hss
      rw [Project.files_declaring] at hds
      rw [apply_pure, Prod.mk.injEq, Except.ok.injEq, Project.declaring_declaring] at hdone
      exact ⟨d :: ds, by simp [hd, hds], hdone.1.symm, hdone.2.symm⟩
    · rintro ⟨ds, hds, rfl, rfl⟩
      obtain ⟨d, hd, hrest⟩ := Option.bind_eq_some_iff.1 hds
      obtain ⟨ds', hds', hdone⟩ := Option.bind_eq_some_iff.1 hrest
      cases hdone
      refine ⟨_, _, loadScript_eq_ok_iff.2 ⟨d, hd, rfl, rfl⟩, ?_⟩
      refine apply_bind_eq_ok.2 ⟨_, _, ih.2 ⟨ds', hds', rfl, rfl⟩, ?_⟩
      rw [apply_pure, Project.declaring_declaring]
      rfl

lemma loadKind_eq_ok_iff {ss : List LoadedScript} :
    (loadKind scripts kind).apply p = (.ok ss, q) ↔
      ∃ ds, p.files.declaredIn? scripts kind = some ds ∧
        ss = loadedAll kind (scriptsIn p.files (join scripts kind.name)) ds ∧
        q = p.declaring ds := by
  unfold loadKind
  rw [apply_bind_of_ok (apply_get p)]
  exact mapM_loadScript_eq_ok_iff

/-- What Variable scripts leave of constants, by table. -/
def constantsFrom (files : List String) (ds : List Script.Declared) :
    Pairs (Option ConstantGroup) :=
  (loadedAll .variable files ds).map fun s => (s.table, s.group)

/-- Loading a directory of scripts succeeds exactly if every script in it runs to its end, and the
registry then has what the scripts declare, those of enumerations first and those of tables last. -/
theorem loadScripts_eq_ok_iff {modules : List String} :
    (loadScripts scripts).apply p = (.ok modules, q) ↔
      ∃ enums groups tables, p.files.declaredIn? scripts .enum = some enums ∧
        p.files.declaredIn? scripts .variable = some groups ∧
        p.files.declaredIn? scripts .convert = some tables ∧
        modules = (loadedAll .enum (scriptsIn p.files (join scripts TableKind.enum.name)) enums ++
          loadedAll .variable (scriptsIn p.files (join scripts TableKind.variable.name)) groups ++
          loadedAll .convert (scriptsIn p.files (join scripts TableKind.convert.name)) tables).map
            LoadedScript.module ∧
        q = (p.declaring (enums ++ groups ++ tables)).withConstants
          (constantsFrom (scriptsIn p.files (join scripts TableKind.variable.name)) groups) := by
  unfold loadScripts
  constructor
  · intro h
    obtain ⟨_, _, henums, h⟩ := apply_bind_eq_ok.1 h
    obtain ⟨enums, hdeclared, rfl, rfl⟩ := loadKind_eq_ok_iff.1 henums
    obtain ⟨_, _, hgroups, h⟩ := apply_bind_eq_ok.1 h
    obtain ⟨groups, hdeclared', rfl, rfl⟩ := loadKind_eq_ok_iff.1 hgroups
    obtain ⟨_, _, htables, h⟩ := apply_bind_eq_ok.1 h
    obtain ⟨tables, hdeclared'', rfl, rfl⟩ := loadKind_eq_ok_iff.1 htables
    rw [apply_bind_of_ok (apply_modify _ _), apply_pure, Prod.mk.injEq, Except.ok.injEq] at h
    simp only [Project.files_declaring, Project.declaring_declaring] at hdeclared' hdeclared'' h
    exact ⟨enums, groups, tables, hdeclared, hdeclared', hdeclared'', h.1.symm, h.2.symm⟩
  · rintro ⟨enums, groups, tables, henums, hgroups, htables, rfl, rfl⟩
    refine apply_bind_eq_ok.2 ⟨_, _, loadKind_eq_ok_iff.2 ⟨enums, henums, rfl, rfl⟩, ?_⟩
    refine apply_bind_eq_ok.2 ⟨_, _, loadKind_eq_ok_iff.2 ⟨groups, hgroups, rfl, rfl⟩, ?_⟩
    refine apply_bind_eq_ok.2 ⟨_, _, loadKind_eq_ok_iff.2 ⟨tables, htables, rfl, rfl⟩, ?_⟩
    rw [apply_bind_of_ok (apply_modify _ _), apply_pure]
    simp only [Project.declaring_declaring]
    rfl

/-- Loading a directory of scripts succeeds exactly if every script in it runs to its end. -/
theorem loadScripts_returns_iff :
    (∃ modules q, (loadScripts scripts).apply p = (.ok modules, q)) ↔
      ∀ kind, ∀ file ∈ scriptsIn p.files (join scripts kind.name),
        (p.files.declared? kind (join scripts kind.name) file).isSome = true := by
  have hall : (∃ modules q, (loadScripts scripts).apply p = (.ok modules, q)) ↔
      ∀ kind, (p.files.declaredIn? scripts kind).isSome = true := by
    constructor
    · rintro ⟨modules, q, h⟩ kind
      obtain ⟨enums, groups, tables, henums, hgroups, htables, -⟩ := loadScripts_eq_ok_iff.1 h
      cases kind
      · exact Option.isSome_of_eq_some htables
      · exact Option.isSome_of_eq_some henums
      · exact Option.isSome_of_eq_some hgroups
    · intro h
      obtain ⟨enums, henums⟩ := Option.isSome_iff_exists.1 (h .enum)
      obtain ⟨groups, hgroups⟩ := Option.isSome_iff_exists.1 (h .variable)
      obtain ⟨tables, htables⟩ := Option.isSome_iff_exists.1 (h .convert)
      exact ⟨_, _, loadScripts_eq_ok_iff.2
        ⟨enums, groups, tables, henums, hgroups, htables, rfl, rfl⟩⟩
  rw [hall]
  exact forall_congr' fun kind => mapM_isSome_iff

end Action

/-! ## Directories of scripts -/

namespace FileTree

variable {t : FileTree} {directory name : String}

lemma mem_children {l : Location} {entry : Entry} (h : t.node? (l ++ [name]) = some entry) :
    name ∈ t.children l := by
  have hne : l ++ [name] ≠ [] := by simp
  rw [node?, if_neg hne, Option.map_eq_some_iff] at h
  obtain ⟨e, he, -⟩ := h
  have hloc : e.1 = l ++ [name] := by simpa using List.find?_some he
  rw [children, sortTexts, List.mem_mergeSort, List.mem_filterMap]
  refine ⟨e, List.mem_of_find?_eq_some he, ?_⟩
  rw [hloc]
  simp

/-- The directory that a path is below can be followed if the path can. -/
lemma lookup_directory (hslash : '/' ∉ name.toList) (hne : name ≠ "") (hdirectory : directory ≠ "")
    {l : Location} (h : t.locate (join directory name) = .ok l) :
    t.lookup directory = .ok (location directory, .directory) := by
  obtain ⟨hfollow, hpassed, -⟩ := locate_eq_ok_iff.1 h
  have hcomponents := components_join directory hslash hne
  have hdirectories : directories (join directory name) =
      directories directory ++ [location directory] := by
    rw [directories, hcomponents, passed_append]
    rfl
  -- the path begins with that of the directory
  obtain ⟨rest, hrest⟩ : ∃ rest, join directory name = directory ++ rest := by
    have hstart : Text.startsWith "/" name = false := by
      have hmark : "/".toList = ['/'] := rfl
      cases hn : name.toList with
      | nil => simp [Text.startsWith, hn, hmark]
      | cons c cs =>
        rw [hn, List.mem_cons, not_or] at hslash
        simp [Text.startsWith, hn, hmark, List.isPrefixOf, hslash.1]
    rw [join, hstart, if_neg Bool.false_ne_true]
    split_ifs
    · exact ⟨name, rfl⟩
    · exact ⟨"/" ++ name, String.append_assoc⟩
  have hfollow' : IsFollowable directory := by
    refine ⟨fun hnull => hfollow.noNull ?_, ?_, hdirectory, ?_, fun c hc => hfollow.names c ?_⟩
    · rw [hrest, String.toList_append]
      exact List.mem_append_left _ hnull
    · have hshort := hfollow.short
      rw [hrest, String.utf8ByteSize_append] at hshort
      omega
    · have hrelative := hfollow.relative
      have hmark : "/".toList = ['/'] := rfl
      cases hd : directory.toList with
      | nil => exact absurd (String.toList_inj.1 hd) hdirectory
      | cons c cs =>
        simpa [Text.startsWith, hrest, hd, hmark, List.isPrefixOf] using hrelative
    · rw [hcomponents]
      exact List.mem_append_left _ hc
  have hlocate : t.locate directory = .ok (location directory) := by
    refine locate_eq_ok_iff.2 ⟨hfollow', fun d hd => hpassed d ?_, rfl⟩
    rw [hdirectories]
    exact List.mem_append_left _ hd
  have hnode : t.node? (location directory) = some .directory := by
    refine hpassed _ ?_
    rw [hdirectories]
    simp
  rw [lookup, hlocate]
  dsimp only [bind, Except.bind]
  rw [hnode]

end FileTree

namespace Action

variable {t : FileTree} {table scripts : String} {kind : TableKind}

/-- What stands at the place of a script is among the scripts of its directory. -/
theorem mem_scriptsIn (hslash : '/' ∉ table.toList)
    (h : t.contains (join (join scripts kind.name) (table ++ ".py")) = true) :
    table ++ ".py" ∈ scriptsIn t (join scripts kind.name) := by
  have hpy : ".py".toList = ['.', 'p', 'y'] := rfl
  have hlist : (table ++ ".py").toList = table.toList ++ ['.', 'p', 'y'] := by
    rw [String.toList_append, hpy]
  have hlength (name : String) (hn : name.toList.length ≤ 2) : table ++ ".py" ≠ name := by
    rintro rfl
    rw [hlist, List.length_append] at hn
    simp at hn
  have hslash' : '/' ∉ (table ++ ".py").toList := by
    rw [hlist, List.mem_append, not_or]
    exact ⟨hslash, by decide⟩
  have hdirectory : join scripts kind.name ≠ "" := by
    intro hempty
    have hlast : components (join scripts kind.name) = components scripts ++ [kind.name] :=
      components_join scripts (by cases kind <;> decide) (by cases kind <;> decide)
    rw [hempty] at hlast
    have hnone : components "" = [] := by decide
    rw [hnone] at hlast
    exact absurd hlast (by simp)
  cases hlookup : t.lookup (join (join scripts kind.name) (table ++ ".py")) with
  | error cause =>
    rw [FileTree.contains, hlookup] at h
    cases h
  | ok found =>
    obtain ⟨l, hl, hfound⟩ := except_bind_eq_ok.1 hlookup
    have hloc : l = location (join scripts kind.name) ++ [table ++ ".py"] := by
      rw [(FileTree.locate_eq_ok_iff.1 hl).2.2, location_join _ hslash' (hlength _ (by decide))
        (hlength _ (by decide)) (hlength _ (by decide))]
    have hnode : ∃ entry, t.node? (location (join scripts kind.name) ++ [table ++ ".py"]) =
        some entry := by
      rw [← hloc]
      cases hn : t.node? l with
      | none => rw [hn] at hfound; cases hfound
      | some entry => exact ⟨entry, rfl⟩
    obtain ⟨entry, hentry⟩ := hnode
    rw [scriptsIn, FileTree.lookup_directory hslash' (hlength _ (by decide)) hdirectory hl]
    refine List.mem_filter.2 ⟨FileTree.mem_children hentry, ?_⟩
    rw [scriptExtension, Text.endsWith, hlist, hpy, List.isSuffixOf_iff_suffix]
    exact List.suffix_append _ _

lemma endsWith_of_mem_scriptsIn {directory file : String} (h : file ∈ scriptsIn t directory) :
    Text.endsWith scriptExtension file = true := by
  unfold scriptsIn at h
  split at h
  · exact (List.mem_filter.1 h).2
  · cases h

/-- The name of a script without its extension is that of its table. -/
lemma splitExtension_script (h : Text.isIdentifier table = true) :
    splitExtension (table ++ ".py") = (table, ".py") := by
  have hpy : ".py".toList = ['.', 'p', 'y'] := rfl
  have hchars := Script.isIdentifierChars_of_isIdentifier h
  have hpoint : '.' ∉ table.toList := Script.notMem_of_isIdentifierChars hchars (by decide)
  have hreversed : (table ++ ".py").toList.reverse = 'y' :: 'p' :: '.' :: table.toList.reverse := by
    rw [String.toList_append, hpy, List.reverse_append]
    rfl
  have hall : table.toList.reverse.all (fun c => decide (c = '.')) = false := by
    rw [List.all_reverse, ← Bool.not_eq_true, List.all_eq_true]
    intro hpoints
    cases hn : table.toList with
    | nil => rw [hn] at hchars; cases hchars
    | cons c cs =>
      have hc := hpoints c (by rw [hn]; exact List.mem_cons_self)
      rw [decide_eq_true_eq] at hc
      rw [hn, hc] at hpoint
      exact hpoint List.mem_cons_self
  rw [splitExtension, hreversed]
  simp [hall]

/-- Every script in a directory of scripts runs to its end, but perhaps the one of a table. -/
def OthersLoad (t : FileTree) (scripts : String) (kind : TableKind) (table : String) : Prop :=
  ∀ other, ∀ file ∈ scriptsIn t (join scripts other.name),
    (other = kind → file ≠ table ++ ".py") →
      (t.declared? other (join scripts other.name) file).isSome = true

/-- The files of a directory of scripts with nothing but the script of Item. -/
def onlyScript (kind : TableKind) (text : String) : FileTree :=
  ⟨[(["Dist"], .directory), (["Dist", kind.name], .directory),
    (["Dist", kind.name, "Item.py"], .file (.text text))]⟩

lemma scriptsIn_onlyScript (kind other : TableKind) (text : String) :
    scriptsIn (onlyScript kind text) (join "Dist" other.name) =
      if other = kind then ["Item.py"] else [] := by
  split_ifs with h
  · subst h
    have hsorted : scriptsIn (onlyScript other text) (join "Dist" other.name) =
        (FileTree.sortTexts ["Item.py"]).filter (Text.endsWith scriptExtension) := by
      cases other <;> rfl
    rw [hsorted, FileTree.sortTexts, List.mergeSort_singleton]
    rfl
  · cases other <;> cases kind <;> first | exact absurd rfl h | rfl

/-- Where there is one script, the others run to their ends. -/
lemma othersLoad_onlyScript (kind : TableKind) (text : String) :
    OthersLoad (onlyScript kind text) "Dist" kind "Item" := by
  intro other file hfile hother
  rw [scriptsIn_onlyScript] at hfile
  split_ifs at hfile with hkind
  · exact absurd (List.mem_singleton.1 hfile) (hother hkind)
  · cases hfile

/-- Among scripts that run to their ends, it is up to a script whether they can all be loaded. -/
theorem loadScripts_returns_iff_of_others {p : Project}
    (hmem : table ++ ".py" ∈ scriptsIn p.files (join scripts kind.name))
    (hothers : OthersLoad p.files scripts kind table) :
    (∃ modules q, (loadScripts scripts).apply p = (.ok modules, q)) ↔
      (p.files.declared? kind (join scripts kind.name) (table ++ ".py")).isSome = true := by
  rw [loadScripts_returns_iff]
  constructor
  · exact fun h => h kind _ hmem
  · intro h other file hfile
    by_cases hsame : other = kind ∧ file = table ++ ".py"
    · obtain ⟨rfl, rfl⟩ := hsame
      exact h
    · exact hothers other file hfile fun hkind hname => hsame ⟨hkind, hname⟩

end Action

/-! ## Places of scripts -/

/-- The place of the script of a table. -/
def Settings.scriptPath (scripts : String) (kind : TableKind) (table : String) : String :=
  join (join scripts kind.name) (table ++ ".py")

lemma Settings.scriptPath?_eq {s : Settings} {scripts : String} (h : s.scripts = .text scripts)
    (kind : TableKind) (table : String) :
    s.scriptPath? kind.name table = some (scriptPath scripts kind table) := by
  rw [scriptPath?, h]
  rfl

/-- What the script of a table declares that is read. -/
lemma FileTree.declared?_of_readText {t : FileTree} {kind : TableKind}
    {scripts table text : String} (hident : Text.isIdentifier table = true)
    (hread : t.readText (Settings.scriptPath scripts kind table) = .ok text) :
    t.declared? kind (join scripts kind.name) (table ++ ".py") =
      match Script.run (kind.moduleOf table) text with
      | (declared, none) => some declared
      | (_, some _) => none := by
  rw [Settings.scriptPath] at hread
  unfold declared?
  rw [hread]
  dsimp only
  rw [Action.splitExtension_script hident]

/-! ## What is found after loading -/

namespace Action

variable {t : FileTree} {table directory : String}

/-- The script of a table is the only one that is taken for it. -/
lemma eq_of_splitExtension {file : String} (hident : Text.isIdentifier table = true)
    (hscript : Text.endsWith scriptExtension file = true) (h : (splitExtension file).1 = table) :
    file = table ++ ".py" := by
  have hpy : ".py".toList = ['.', 'p', 'y'] := rfl
  have hpoint : '.' ∉ table.toList :=
    Script.notMem_of_isIdentifierChars (Script.isIdentifierChars_of_isIdentifier hident) (by decide)
  rw [scriptExtension, Text.endsWith, List.isSuffixOf_iff_suffix, hpy] at hscript
  obtain ⟨stem, hstem⟩ := hscript
  have hreversed : file.toList.reverse = 'y' :: 'p' :: '.' :: stem.reverse := by
    rw [← hstem, List.reverse_append]
    rfl
  have hdrop : ('y' :: 'p' :: '.' :: stem.reverse).dropWhile (· ≠ '.') = '.' :: stem.reverse := by
    simp
  rw [splitExtension, hreversed, hdrop] at h
  change (if stem.reverse.all (· = '.') then (file, "") else (String.ofList stem.reverse.reverse,
    _)).1 = table at h
  split_ifs at h with hpoints
  · -- a name that is all extension is no identifier
    rw [← h, ← hstem] at hpoint
    exact absurd (List.mem_append_right stem (by simp)) hpoint
  · rw [List.reverse_reverse] at h
    rw [← String.toList_inj, String.toList_append, ← h, String.toList_ofList, hpy]
    exact hstem.symm

/-- The constants of a table whose script was run are those of the group that it declares. -/
theorem get?_constantsFrom {files : List String} {ds : List Script.Declared} {d : Script.Declared}
    (hident : Text.isIdentifier table = true)
    (hscripts : ∀ file ∈ files, Text.endsWith scriptExtension file = true)
    (hmem : table ++ ".py" ∈ files) (hds : files.mapM (t.declared? .variable directory) = some ds)
    (hd : t.declared? .variable directory (table ++ ".py") = some d) :
    (constantsFrom files ds).get? table = some (Script.constants? d.names ("Va" ++ table)) := by
  induction files generalizing ds with
  | nil => cases hmem
  | cons file files ih =>
    rw [List.mapM_cons] at hds
    obtain ⟨d', hd', hrest⟩ := Option.bind_eq_some_iff.1 hds
    obtain ⟨ds', hds', hdone⟩ := Option.bind_eq_some_iff.1 hrest
    cases hdone
    have hcons : constantsFrom (file :: files) (d' :: ds') =
        ((splitExtension file).1,
          Script.constants? d'.names ("Va" ++ (splitExtension file).1)) ::
          constantsFrom files ds' := rfl
    rw [hcons, Pairs.get?_cons]
    split_ifs with hstem
    · have hfile := eq_of_splitExtension hident (hscripts file (by simp)) hstem
      rw [hfile, hd, Option.some.injEq] at hd'
      rw [hstem, hd']
    · refine ih (fun f hf => hscripts f (by simp [hf])) ?_ hds'
      rcases List.mem_cons.1 hmem with rfl | hmem
      · exact absurd (congrArg Prod.fst (splitExtension_script hident)) hstem
      · exact hmem

end Action

namespace Registry

variable {r : Registry}

lemma get?_containers_declareContainer (cs : List Container) (name : String) :
    (cs.foldl declareContainer r).containers.get? name =
      (cs.reverse.find? fun c => c.name == name).or (r.containers.get? name) := by
  induction cs generalizing r with
  | nil => rfl
  | cons c cs ih =>
    rw [List.foldl_cons, ih, List.reverse_cons, List.find?_append]
    by_cases hc : c.name = name
    · subst hc
      simp [declareContainer]
    · simp [declareContainer, Pairs.get?_put_of_ne hc, hc]

/-- The container of a name that scripts have registered last. -/
theorem get?_containers_declare (ds : List Script.Declared) (name : String) :
    (ds.foldl declare r).containers.get? name =
      ((ds.flatMap Script.Declared.containers).reverse.find? fun c => c.name == name).or
        (r.containers.get? name) := by
  have hone (r : Registry) (d : Script.Declared) : (r.declare d).containers =
      (d.containers.foldl declareContainer r).containers := by
    have htables (ts : List (String × RecordType)) (r : Registry) :
        (ts.foldl (fun r t => r.declareTable t.1 t.2) r).containers = r.containers := by
      induction ts generalizing r with
      | nil => rfl
      | cons p ts ih => exact ih _
    exact htables _ _
  induction ds generalizing r with
  | nil => rfl
  | cons d ds ih =>
    rw [List.foldl_cons, ih, hone, get?_containers_declareContainer, List.flatMap_cons,
      List.reverse_append, List.find?_append, Option.or_assoc]

/-- The container of the script that is run last is registered. -/
lemma get?_containers_declare_last (ds : List Script.Declared) {d : Script.Declared} {c : Container}
    (h : d.containers = [c]) :
    ((ds ++ [d]).foldl declare r).containers.get? c.name = some c := by
  rw [get?_containers_declare, List.flatMap_append, List.reverse_append, List.flatMap_singleton, h]
  simp

lemma tables_foldl_declareTable (tables : List (String × RecordType)) :
    (tables.foldl (fun r (name, type) => r.declareTable name type) r).tables =
      r.tables.putAll (tables.map fun p => (p.1, ⟨p.2, none⟩)) := by
  induction tables generalizing r with
  | nil => rfl
  | cons p tables ih => exact ih

/-- The tables that scripts have declared. -/
theorem tables_declare (ds : List Script.Declared) :
    (ds.foldl declare r).tables =
      r.tables.putAll ((ds.flatMap Script.Declared.tables).map fun p => (p.1, ⟨p.2, none⟩)) := by
  have hcontainers (cs : List Container) (r : Registry) :
      (cs.foldl declareContainer r).tables = r.tables := by
    induction cs generalizing r with
    | nil => rfl
    | cons c cs ih => exact ih _
  have hone (r : Registry) (d : Script.Declared) : (r.declare d).tables =
      r.tables.putAll (d.tables.map fun p => (p.1, ⟨p.2, none⟩)) := by
    rw [declare, tables_foldl_declareTable, hcontainers]
  induction ds generalizing r with
  | nil => rfl
  | cons d ds ih =>
    rw [List.foldl_cons, ih, hone, List.flatMap_cons, List.map_append, Pairs.putAll, Pairs.putAll,
      Pairs.putAll, List.foldl_append]

/-- What scripts declare leaves the directory of the data files as it is. -/
lemma data_declare (ds : List Script.Declared) : (ds.foldl declare r).data = r.data := by
  have hcontainers (cs : List Container) (r : Registry) :
      (cs.foldl declareContainer r).data = r.data := by
    induction cs generalizing r with
    | nil => rfl
    | cons c cs ih => exact ih _
  have htables (tables : List (String × RecordType)) (r : Registry) :
      (tables.foldl (fun r (name, type) => r.declareTable name type) r).data = r.data := by
    induction tables generalizing r with
    | nil => rfl
    | cons p tables ih => exact ih _
  induction ds generalizing r with
  | nil => rfl
  | cons d ds ih => rw [List.foldl_cons, ih, declare, htables, hcontainers]

end Registry

namespace Action

variable {t : FileTree} {p q : Project} {table scripts : String} {modules : List String}

/-- A script in a directory of scripts runs to its end and declares something. -/
def Declares (t : FileTree) (scripts : String) (kind : TableKind) (file : String)
    (d : Script.Declared) : Prop :=
  file ∈ scriptsIn t (join scripts kind.name) ∧
    t.declared? kind (join scripts kind.name) file = some d

/-- What loading leaves is what the scripts declare, one after the other. -/
lemma exists_declared_of_loadScripts
    (hload : (loadScripts scripts).apply p = (.ok modules, q)) :
    q.files = p.files ∧ ∃ ds : List Script.Declared,
      (∀ d, d ∈ ds ↔ ∃ kind file, Declares p.files scripts kind file d) ∧
      q.registry.tables = (ds.foldl Registry.declare p.registry).tables ∧
      q.registry.containers = (ds.foldl Registry.declare p.registry).containers := by
  obtain ⟨enums, groups, tables, henums, hgroups, hconverts, -, rfl⟩ :=
    loadScripts_eq_ok_iff.1 hload
  refine ⟨rfl, enums ++ groups ++ tables, fun d => ?_, rfl, rfl⟩
  rw [List.mem_append, List.mem_append, mem_iff_of_mapM_eq_some henums,
    mem_iff_of_mapM_eq_some hgroups, mem_iff_of_mapM_eq_some hconverts]
  constructor
  · rintro ((⟨file, h⟩ | ⟨file, h⟩) | ⟨file, h⟩)
    · exact ⟨.enum, file, h⟩
    · exact ⟨.variable, file, h⟩
    · exact ⟨.convert, file, h⟩
  · rintro ⟨_ | _ | _, file, h⟩
    · exact .inr ⟨file, h⟩
    · exact .inl (.inl ⟨file, h⟩)
    · exact .inl (.inr ⟨file, h⟩)

/-- Loading leaves the directory of the data files as it is. -/
lemma data_of_loadScripts (hload : (loadScripts scripts).apply p = (.ok modules, q)) :
    q.registry.data = p.registry.data := by
  obtain ⟨enums, groups, tables, -, -, -, -, rfl⟩ := loadScripts_eq_ok_iff.1 hload
  exact Registry.data_declare _

/-- A table is loaded as it is declared if nothing else is declared under its name. -/
theorem get?_tables_of_loadScripts {type : RecordType}
    (hload : (loadScripts scripts).apply p = (.ok modules, q))
    (hthere : ∃ kind file d, Declares p.files scripts kind file d ∧ (table, type) ∈ d.tables)
    (hone : ∀ kind file d, Declares p.files scripts kind file d →
      ∀ type', (table, type') ∈ d.tables → type' = type) :
    q.registry.tables.get? table = some ⟨type, none⟩ := by
  obtain ⟨-, ds, hds, htables, -⟩ := exists_declared_of_loadScripts hload
  rw [htables, Registry.tables_declare, Pairs.get?_putAll]
  cases hget : Pairs.get? (List.map (fun p => (p.1, (⟨p.2, none⟩ : DeclaredTable)))
    (ds.flatMap Script.Declared.tables)).reverse table with
  | none =>
    obtain ⟨kind, file, d, hd, hmem⟩ := hthere
    rw [Pairs.get?_eq_none_iff, Pairs.names, List.map_reverse, List.mem_reverse,
      List.map_map] at hget
    have hall := List.mem_flatMap.2 ⟨d, (hds d).2 ⟨kind, file, hd⟩, hmem⟩
    exact absurd (List.mem_map.2 ⟨_, hall, rfl⟩) hget
  | some found =>
    obtain ⟨⟨name, type'⟩, hentry, heq⟩ :=
      List.mem_map.1 (List.mem_reverse.1 (Pairs.mem_of_get? hget))
    obtain ⟨rfl, rfl⟩ := Prod.mk.inj heq
    obtain ⟨d, hd, hmem⟩ := List.mem_flatMap.1 hentry
    obtain ⟨kind, file, hd⟩ := (hds d).1 hd
    rw [hone kind file d hd type' hmem, Option.some_or]

/-- A container is registered as it is declared if nothing else is declared under its name. -/
theorem get?_containers_of_loadScripts {c : Container}
    (hload : (loadScripts scripts).apply p = (.ok modules, q))
    (hthere : ∃ kind file d, Declares p.files scripts kind file d ∧ c ∈ d.containers)
    (hone : ∀ kind file d, Declares p.files scripts kind file d →
      ∀ c' ∈ d.containers, c'.name = c.name → c' = c) :
    q.registry.containers.get? c.name = some c := by
  obtain ⟨-, ds, hds, -, hcontainers⟩ := exists_declared_of_loadScripts hload
  rw [hcontainers, Registry.get?_containers_declare]
  cases hfind : (ds.flatMap Script.Declared.containers).reverse.find?
      fun c' => c'.name == c.name with
  | none =>
    obtain ⟨kind, file, d, hd, hmem⟩ := hthere
    have hall := List.mem_flatMap.2 ⟨d, (hds d).2 ⟨kind, file, hd⟩, hmem⟩
    exact absurd (beq_self_eq_true c.name)
      (List.find?_eq_none.1 hfind c (List.mem_reverse.2 hall))
  | some found =>
    obtain ⟨d, hd, hmem⟩ :=
      List.mem_flatMap.1 (List.mem_reverse.1 (List.mem_of_find?_eq_some hfind))
    obtain ⟨kind, file, hd⟩ := (hds d).1 hd
    have hname := List.find?_some hfind
    rw [beq_iff_eq] at hname
    rw [hone kind file d hd found hmem hname, Option.some_or]

end Action

end SheetCompiler
