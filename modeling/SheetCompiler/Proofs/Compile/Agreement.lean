import SheetCompiler.Proofs.Compile.Members

/-!
# Enumerations before and after loading

A type of enumeration is looked up in the script of its table when a sheet is compiled, and in the
registry once scripts have been loaded. Where the Enum scripts of a directory are those that tables
with ASCII names were compiled to (`EnumsAreWritten`), both find the same members, as long as no
script of another kind registers a container under the name of theirs.

Main statements:

* `enumMembers?_eq_some_iff`: what a type finds in the scripts of a directory;
* `containers_of_loadScripts` and `keeps_consult`: the containers that are registered, and that
  looking up types afterwards keeps them;
* `loadScripts_enumerations`: the two agree.
-/

namespace SheetCompiler

open SheetCompiler.Text SheetCompiler.Script SheetCompiler.Path SheetCompiler.Stateful

variable {s : Settings} {p q : Project} {files : FileTree} {scripts table name : String}
  {e : EnumDeclaration} {enums : List EnumDeclaration}

/-! ## Written scripts -/

/-- All characters of a text are ASCII. -/
def IsAscii (text : String) : Prop := ∀ c ∈ text.toList, isAscii c = true

/-- The script of an Enum table in a directory of scripts is the one that the table was compiled to
with the shipped templates, and all names in it are ASCII. -/
structure IsWrittenFrom (files : FileTree) (scripts table : String)
    (enums : List EnumDeclaration) : Prop where
  compiled : ∃ (s : Settings) (p q : Project) (source : String) (sheet : Sheet) (a : Compilation),
    s.templates = none ∧ s.scripts = .text scripts ∧ readEnums sheet = .ok enums ∧
    (Action.compileSheet s .enum table source sheet).apply p = (.ok a, q) ∧
    files.read (Settings.scriptPath scripts .enum table) =
      q.files.read (Settings.scriptPath scripts .enum table)
  container : IsAscii table
  names : ∀ e ∈ enums, IsAscii e.name ∧ ∀ m ∈ e.members, IsAscii m

/-- Every Enum script in a directory of scripts is written from a table with ASCII names. -/
def EnumsAreWritten (files : FileTree) (scripts : String) : Prop :=
  ∀ file ∈ Action.scriptsIn files (join scripts TableKind.enum.name),
    ∃ table enums, file = table ++ ".py" ∧ IsWrittenFrom files scripts table enums

namespace IsWrittenFrom

variable (h : IsWrittenFrom files scripts table enums)
include h

lemma identifier : isIdentifier table = true := by
  obtain ⟨s, p, q, source, sheet, a, htemplates, hscripts, -, hcompile, hstands⟩ := h.compiled
  obtain ⟨c, hc, -⟩ := readText_of_standing hscripts hcompile hstands
  exact (rows_of_compiledIn hc).1

lemma accepted : (∀ e ∈ enums, e.IsAccepted) ∧ (enums.map EnumDeclaration.name).Nodup := by
  obtain ⟨s, p, q, source, sheet, a, -, -, henums, -⟩ := h.compiled
  exact isAccepted_of_readEnums henums

lemma readText : files.readText (Settings.scriptPath scripts .enum table) =
    .ok (Template.lines (Template.enumScriptTexts table enums)) := by
  obtain ⟨s, p, q, source, sheet, a, htemplates, hscripts, henums, hcompile, hstands⟩ := h.compiled
  obtain ⟨c, hc, hread⟩ := readText_of_standing hscripts hcompile hstands
  obtain ⟨-, enums', henums', htext⟩ := enumScript_of_compiledIn htemplates hc
  rw [henums, Except.ok.injEq] at henums'
  rw [hread, htext, henums']

lemma mem_scriptsIn : table ++ ".py" ∈ Action.scriptsIn files (join scripts TableKind.enum.name) :=
  mem_scriptsIn_of_readText h.identifier h.readText

/-- What a written script declares. -/
lemma declared? : files.declared? .enum (join scripts TableKind.enum.name) (table ++ ".py") =
    if Loads table enums then some (enumDeclared table (TableKind.enum.moduleOf table) enums)
    else none := by
  rw [FileTree.declared?_of_readText h.identifier h.readText]
  split_ifs with hloads
  · rw [run_enumScript _ h.identifier h.accepted.1 hloads]
  · obtain ⟨declared, fault, hrun⟩ :=
      run_enumScript_of_not_loads (TableKind.enum.moduleOf table) h.identifier h.accepted.1 hloads
    rw [hrun]

/-- ASCII names are read as they stand. -/
lemma containerAs_eq : containerAs table = containerName table := by
  refine compatibleForm_of_ascii fun c hc => ?_
  rw [toList_containerName, List.mem_cons, List.mem_cons] at hc
  rcases hc with rfl | rfl | hc
  · decide
  · decide
  · exact h.container c hc

lemma members_eq (he : e ∈ enums) : e.members.map compatibleForm = e.members := by
  rw [List.map_congr_left fun m hm => compatibleForm_of_ascii ((h.names e he).2 m hm), List.map_id']

/-- The script is written from the same table wherever the same text stands. -/
lemma of_read_eq {other : FileTree} (hsame : other.read (Settings.scriptPath scripts .enum table) =
    files.read (Settings.scriptPath scripts .enum table)) :
    IsWrittenFrom other scripts table enums := by
  obtain ⟨s, p, q, source, sheet, a, htemplates, hscripts, henums, hcompile, hstands⟩ := h.compiled
  exact ⟨⟨s, p, q, source, sheet, a, htemplates, hscripts, henums, hcompile, hsame.trans hstands⟩,
    h.container, h.names⟩

end IsWrittenFrom

/-! ## What a type finds -/

/-- A name that a type may give to an enumeration: an ASCII identifier that does not begin with an
underscore. -/
structure IsTypeName (name : String) : Prop where
  identifier : isIdentifier name = true
  ascii : IsAscii name
  plain : startsWith "_" name = false

lemma boundName_eq_iff_of_plain {other : String} (h : name.toList.head? ≠ some '_')
    (owner : String) : boundName owner other = name ↔ other = name := by
  by_cases hother : other.toList.head? = some '_'
  · -- neither the name nor what it is bound under begins otherwise
    have hbound : (boundName owner other).toList.head? = some '_' := by
      unfold boundName Scope.outerName
      dsimp only
      split_ifs
      · rw [String.append_assoc, String.toList_append]
        rfl
      · exact hother
    constructor
    · rintro rfl
      exact absurd hbound h
    · rintro rfl
      exact absurd hother h
  · rw [boundName_of_plain hother]

/-- The enumeration that is found under a name is the one that has it. -/
lemma declaredAs?_eq_some_iff (hname : IsTypeName name) (hascii : ∀ e ∈ enums, IsAscii e.name)
    (hnodup : (enums.map EnumDeclaration.name).Nodup) (owner : String) :
    declaredAs? owner enums name = some e ↔ e ∈ enums ∧ e.name = name := by
  have hbound {d : EnumDeclaration} (hd : d ∈ enums) :
      (boundName owner (compatibleForm d.name) == name) = true ↔ d.name = name := by
    rw [beq_iff_eq, compatibleForm_of_ascii (hascii d hd),
      boundName_eq_iff_of_plain (head?_ne_of_startsWith hname.plain)]
  rw [declaredAs?]
  constructor
  · intro h
    have hmem := List.mem_reverse.1 (List.mem_of_find?_eq_some h)
    have hfound := List.find?_some h
    exact ⟨hmem, (hbound hmem).1 hfound⟩
  · rintro ⟨he, rfl⟩
    cases hfind : enums.reverse.find?
        fun d => boundName owner (compatibleForm d.name) == e.name with
    | none =>
      exact absurd ((hbound he).2 rfl) (List.find?_eq_none.1 hfind e (List.mem_reverse.2 he))
    | some d =>
      have hd := List.mem_reverse.1 (List.mem_of_find?_eq_some hfind)
      have hfound := List.find?_some hfind
      rw [List.inj_on_of_nodup_map hnodup hd he ((hbound hd).1 hfound)]

/-- What a type finds in a script that can be loaded. -/
lemma foundMembers?_eq_some_iff (h : IsWrittenFrom files scripts table enums)
    (hloads : Loads table enums) (hname : IsTypeName name) {found : List String} :
    foundMembers? table enums name = some found ↔
      ∃ e ∈ enums, e.name = name ∧ e.members = found := by
  rw [foundMembers?, if_pos ⟨hloads, h.containerAs_eq, isInnate_of_plain hname.plain⟩,
    Option.map_eq_some_iff]
  constructor
  · rintro ⟨e, he, hfound⟩
    rw [declaredAs?_eq_some_iff hname (fun e he => (h.names e he).1) h.accepted.2] at he
    exact ⟨e, he.1, he.2, (h.members_eq he.1).symm.trans hfound⟩
  · rintro ⟨e, he, hnamed, hfound⟩
    refine ⟨e, ?_, (h.members_eq he).trans hfound⟩
    rw [declaredAs?_eq_some_iff hname (fun e he => (h.names e he).1) h.accepted.2]
    exact ⟨he, hnamed⟩

/-- Every script in a directory of scripts runs to its end. -/
def AllRun (files : FileTree) (scripts : String) : Prop :=
  ∀ kind : TableKind, ∀ file ∈ Action.scriptsIn files (join scripts kind.name),
    (files.declared? kind (join scripts kind.name) file).isSome = true

lemma IsWrittenFrom.loads (h : IsWrittenFrom files scripts table enums)
    (hrun : AllRun files scripts) : Loads table enums := by
  have hsome := hrun .enum _ h.mem_scriptsIn
  rw [h.declared?] at hsome
  by_contra hloads
  rw [if_neg hloads] at hsome
  cases hsome

lemma IsWrittenFrom.declares (h : IsWrittenFrom files scripts table enums)
    (hrun : AllRun files scripts) : Action.Declares files scripts .enum (table ++ ".py")
      (enumDeclared table (TableKind.enum.moduleOf table) enums) :=
  ⟨h.mem_scriptsIn, by rw [h.declared?, if_pos (h.loads hrun)]⟩

/-- A script that is there is a written one. -/
lemma EnumsAreWritten.exists_of_contains (h : EnumsAreWritten files scripts)
    (hslash : '/' ∉ table.toList)
    (hthere : files.contains (Settings.scriptPath scripts .enum table) = true) :
    ∃ enums, IsWrittenFrom files scripts table enums := by
  obtain ⟨other, enums, hfile, hfrom⟩ := h _ (Action.mem_scriptsIn hslash hthere)
  have hsame : table = other := by
    rw [← String.toList_inj, String.toList_append, String.toList_append,
      List.append_left_inj] at hfile
    exact String.toList_inj.1 hfile
  exact ⟨enums, hsame ▸ hfrom⟩

/-- The characters of a type token. -/
lemma notMem_of_classify {type : String} (h : TypeToken.classify type = .enumeration) {c : Char}
    (hc : isTokenChar c = false) : c ∉ type.toList := by
  have hvalid : TypeToken.classify type ≠ .invalid := by
    rw [h]
    decide
  intro hmem
  rw [(TypeToken.chars_of_classify hvalid).2 c hmem] at hc
  cases hc

section

variable (hscripts : s.scripts = .text scripts) (hwritten : EnumsAreWritten files scripts)
  (hrun : AllRun files scripts)
include hscripts hwritten hrun

/-- What a type finds in a directory of scripts are the members of the enumeration of its name in
the script of its table. -/
theorem enumMembers?_eq_some_iff (htoken : TypeToken.classify (enumType table name) = .enumeration)
    (hpoint : '.' ∉ table.toList) (hname : IsTypeName name) {found : List String} :
    enumMembers? s files (enumType table name) = some found ↔
      ∃ enums, IsWrittenFrom files scripts table enums ∧
        ∃ e ∈ enums, e.name = name ∧ e.members = found := by
  have hpath := Settings.scriptPath?_eq hscripts .enum table
  have hmembers {enums : List EnumDeclaration} (h : IsWrittenFrom files scripts table enums) :
      enumMembers? s files (enumType table name) = foundMembers? table enums name :=
    enumMembers?_enumScript h.identifier h.accepted.1 hpath h.readText hname.identifier
  constructor
  · intro hfound
    have hslash : '/' ∉ table.toList := by
      have htype := notMem_of_classify htoken (by decide : isTokenChar '/' = false)
      rw [enumType, String.toList_append, String.toList_append, toList_containerName] at htype
      simp only [List.mem_append, List.mem_cons, not_or] at htype
      exact htype.1.1.2.2
    -- without a script nothing is found
    have hthere : files.contains (Settings.scriptPath scripts .enum table) = true := by
      by_contra habsent
      rw [Bool.not_eq_true] at habsent
      have hscript : enumScript s files (enumType table name) = .ok .absent := by
        by_cases htable : table = ""
        · rw [enumScript, splitContainer_enumType hpoint]
          dsimp only
          rw [unmarked_containerName, if_pos (.inl htable)]
        · rw [enumScript_enumType hpoint htable (ne_empty hname.identifier) hpath, enumScriptAt,
            habsent]
          rfl
      unfold enumMembers? at hfound
      rw [hscript] at hfound
      cases hfound
    obtain ⟨enums, hfrom⟩ := hwritten.exists_of_contains hslash hthere
    rw [hmembers hfrom, foundMembers?_eq_some_iff hfrom (hfrom.loads hrun) hname] at hfound
    exact ⟨enums, hfrom, hfound⟩
  · rintro ⟨enums, hfrom, hfound⟩
    rw [hmembers hfrom, foundMembers?_eq_some_iff hfrom (hfrom.loads hrun) hname]
    exact hfound

end

/-! ## Registered containers -/

/-- The container of the enumerations of a table. -/
def containerFrom (table : String) (enums : List EnumDeclaration) : Container :=
  containerOf (containerAs table) (containerNames table (TableKind.enum.moduleOf table) enums)

lemma containers_enumDeclared (table : String) (enums : List EnumDeclaration) :
    (enumDeclared table (TableKind.enum.moduleOf table) enums).containers =
      [containerFrom table enums] := rfl

/-- Containers of written scripts differ in their names. -/
lemma containerFrom_eq {other : String} {others : List EnumDeclaration}
    (hrun : AllRun files scripts) (h : IsWrittenFrom files scripts table enums)
    (hother : IsWrittenFrom files scripts other others)
    (hname : (containerFrom other others).name = containerName table) :
    containerFrom other others = containerFrom table enums := by
  have hcontainer : containerName other = containerName table :=
    hother.containerAs_eq.symm.trans hname
  have hsame : other = table := by
    rw [← String.toList_inj, toList_containerName, toList_containerName, List.cons.injEq,
      List.cons.injEq] at hcontainer
    exact String.toList_inj.1 hcontainer.2.2
  subst hsame
  -- both are what the one script declares
  have hdeclared := (hother.declares hrun).2.symm.trans (h.declares hrun).2
  have hcontainers := congrArg Declared.containers (Option.some.inj hdeclared)
  rw [containers_enumDeclared, containers_enumDeclared, List.cons.injEq] at hcontainers
  exact hcontainers.1

/-- No script but those of Enum tables registers a container under a name. -/
def OthersRegisterNo (files : FileTree) (scripts container : String) : Prop :=
  ∀ kind file d, Action.Declares files scripts kind file d → kind ≠ .enum →
    ∀ c ∈ d.containers, c.name ≠ container

/-- The container that loading registers is that of the written script. -/
theorem containers_of_loadScripts {modules : List String}
    (hload : (Action.loadScripts scripts).apply p = (.ok modules, q))
    (hwritten : EnumsAreWritten p.files scripts)
    (hothers : OthersRegisterNo p.files scripts (containerName table))
    (h : IsWrittenFrom p.files scripts table enums) :
    q.registry.containers.get? (containerName table) = some (containerFrom table enums) := by
  have hrun : AllRun p.files scripts := Action.loadScripts_returns_iff.1 ⟨modules, q, hload⟩
  have hname : (containerFrom table enums).name = containerName table := h.containerAs_eq
  rw [← hname]
  refine Action.get?_containers_of_loadScripts hload
    ⟨.enum, _, _, h.declares hrun, List.mem_cons_self⟩ fun kind file d hd c hc hsame => ?_
  rw [hname] at hsame
  by_cases hkind : kind = .enum
  · subst hkind
    obtain ⟨other, others, rfl, hother⟩ := hwritten file hd.1
    rw [← Option.some.inj ((hother.declares hrun).2.symm.trans hd.2), containers_enumDeclared,
      List.mem_singleton] at hc
    subst hc
    exact containerFrom_eq hrun h hother hsame
  · exact absurd hsame (hothers kind file d hd hkind c hc)

/-! ## Looking up types -/

/-- The script that a type token is looked up in is a written one, if there is any. -/
lemma enumScript_cases {type : String} (hscripts : s.scripts = .text scripts)
    (hwritten : EnumsAreWritten files scripts) (hrun : AllRun files scripts)
    (htoken : TypeToken.classify type = .enumeration) :
    enumScript s files type = .ok .absent ∨ ∃ table enums, IsWrittenFrom files scripts table enums ∧
      enumScript s files type =
        .ok (.present (enumDeclared table (TableKind.enum.moduleOf table) enums)) := by
  obtain ⟨container, path, hsplit⟩ : ∃ container path,
      TypeToken.splitContainer type = (container, path) := ⟨_, _, rfl⟩
  rw [enumScript, hsplit]
  dsimp only
  split_ifs with hempty
  · exact .inl rfl
  · rw [Settings.scriptPath?_eq hscripts .enum]
    dsimp only
    have hslash : '/' ∉ (TypeToken.unmarked container).toList := by
      have hcontainer : container = String.ofList (type.toList.takeWhile (· ≠ '.')) :=
        (congrArg Prod.fst hsplit).symm
      rw [TypeToken.unmarked, hcontainer, String.toList_ofList, String.toList_ofList]
      intro hmem
      exact notMem_of_classify htoken (by decide : isTokenChar '/' = false)
        ((List.takeWhile_sublist _).mem (List.mem_of_mem_drop hmem))
    cases hthere : files.contains (Settings.scriptPath scripts .enum
        (TypeToken.unmarked container)) with
    | false =>
      left
      rw [enumScriptAt, hthere]
      rfl
    | true =>
      obtain ⟨enums, hfrom⟩ := hwritten.exists_of_contains hslash hthere
      refine .inr ⟨_, enums, hfrom, ?_⟩
      rw [enumScriptAt, hthere, Bool.not_true, if_neg Bool.false_ne_true, hfrom.readText]
      dsimp only
      rw [run_enumScript _ hfrom.identifier hfrom.accepted.1 (hfrom.loads hrun)]

/-- Looking up a type token keeps the container of a written script. -/
theorem keeps_consult {type : String} (hscripts : s.scripts = .text scripts)
    (hwritten : EnumsAreWritten files scripts) (hrun : AllRun files scripts)
    (h : IsWrittenFrom files scripts table enums)
    (htoken : TypeToken.classify type = .enumeration) :
    Keeps (fun p p' : Project => p.files = files ∧
        p.registry.containers.get? (containerName table) = some (containerFrom table enums) →
      p'.files = files ∧
        p'.registry.containers.get? (containerName table) = some (containerFrom table enums))
      (Action.consult s type) := by
  rintro p ⟨rfl, hheld⟩
  rw [Action.consult, apply_bind_of_ok (apply_get p)]
  rcases enumScript_cases hscripts hwritten hrun htoken with
    habsent | ⟨other, others, hother, hthere⟩
  · rw [habsent]
    exact ⟨rfl, hheld⟩
  · rw [hthere]
    refine ⟨rfl, ?_⟩
    -- the script registers the container again, or another one
    change ([enumDeclared other (TableKind.enum.moduleOf other) others].foldl Registry.declare
      p.registry).containers.get? (containerName table) = _
    rw [Registry.get?_containers_declare]
    change ([containerFrom other others].find? fun c => c.name == containerName table).or _ = _
    rw [List.find?_singleton]
    split_ifs with hname
    · rw [containerFrom_eq hrun h hother (beq_iff_eq.1 hname), Option.some_or]
    · rw [Option.none_or, hheld]

/-! ## Values of a type -/

/-- A container has the enumerations among what a group has. -/
lemma get?_enums_containerOf {attributes : Pairs Object} (hnodup : attributes.names.Nodup)
    (container key : String) (found : Enumeration) :
    (containerOf container attributes).enums.get? key = some found ↔
      attributes.get? key = some (.enumeration found) := by
  induction attributes with
  | nil => simp [containerOf]
  | cons p attributes ih =>
    obtain ⟨k, o⟩ := p
    have hrest := ih (List.nodup_cons.1 hnodup).2
    have hnew : k ∉ Pairs.names attributes := (List.nodup_cons.1 hnodup).1
    rw [Pairs.get?_cons]
    cases o with
    | enumeration e =>
      change Pairs.get? ((k, e) :: (containerOf container attributes).enums) key = some found ↔ _
      rw [Pairs.get?_cons]
      split_ifs with hk
      · simp
      · exact hrest
    | _ =>
      change (containerOf container attributes).enums.get? key = some found ↔ _
      rw [hrest]
      split_ifs with hk
      · subst hk
        rw [Pairs.get?_eq_none_iff.2 hnew]
        simp
      · rfl

/-- The enumeration of a name in the container of ASCII names. -/
lemma target_of_containers {r : Registry} {module : String} (hident : isIdentifier table = true)
    (hnames : ∀ e ∈ enums, IsAscii e.name ∧ ∀ m ∈ e.members, IsAscii m)
    (hnodup : (enums.map EnumDeclaration.name).Nodup) (hname : IsTypeName name) (he : e ∈ enums)
    (hnamed : e.name = name)
    (hheld : r.containers.get? (containerName table) =
      some (containerOf (containerAs table) (containerNames table module enums))) :
    ∃ enumeration : Enumeration, r.target (enumType table name) = .ok (.enumeration enumeration) ∧
      enumeration.members = e.members.map fun m => (m, .text m) := by
  have hdeclared : declaredAs? (containerAs table) enums name = some e :=
    (declaredAs?_eq_some_iff hname (fun e he => (hnames e he).1) hnodup _).2 ⟨he, hnamed⟩
  have hcontainer : (containerNames table module enums).names.Nodup :=
    Pairs.nodup_names_putAll nodup_initialNames _
  have hfound : (containerOf (containerAs table) (containerNames table module enums)).enums.get?
      name = some ⟨containerAs table ++ "." ++ compatibleForm e.name,
        Script.readMembers e.members⟩ := by
    refine (get?_enums_containerOf hcontainer _ _ _).2 ?_
    exact (get?_containerNames_enumeration _ _ _).2 ⟨e, hdeclared, rfl⟩
  refine ⟨⟨containerAs table ++ "." ++ compatibleForm e.name, Script.readMembers e.members⟩, ?_, ?_⟩
  · rw [Registry.target, splitContainer_enumType (notMem_point hident)]
    dsimp only
    rw [hheld]
    dsimp only
    rw [pieces_of_isIdentifier hname.identifier, Registry.followPath, isInnate_of_plain hname.plain,
      hfound]
  · rw [Script.readMembers]
    exact List.map_congr_left fun m hm =>
      congrArg (·, Json.text m) (compatibleForm_of_ascii ((hnames e he).2 m hm))

lemma enumeration_of_target {r : Registry} {type : String} {enumeration : Enumeration}
    {members : List String} (htarget : r.target type = .ok (.enumeration enumeration))
    (hmembers : enumeration.members = members.map fun m => (m, .text m)) :
    r.enumeration type = .ok enumeration ∧ enumeration.members.names = members := by
  constructor
  · rw [Registry.enumeration, htarget]
    rfl
  · rw [hmembers, Pairs.names, List.map_map]
    exact List.map_id _

/-- The texts that convert to members of an enumeration are their names. -/
lemma convertText_enumeration {r : Registry} {type : String} {enumeration : Enumeration}
    {members : List String} (htoken : TypeToken.classify type = .enumeration)
    (htarget : r.target type = .ok (.enumeration enumeration))
    (hmembers : enumeration.members = members.map fun m => (m, .text m)) (text : String)
    (v : Value) :
    r.convertText type text = .ok v ↔
      text ∈ members ∧ v = .member enumeration text (.text text) := by
  have hprimitive : Primitive.ofName? type = none := by
    cases hp : Primitive.ofName? type with
    | none => rfl
    | some p =>
      rw [TypeToken.classify, TypeToken.isPrimitive, hp] at htoken
      cases htoken
  have hconvert : r.convertText type text = r.memberOf type (.text text) := by
    rw [Registry.convertText, hprimitive]
    dsimp only
    rw [htoken]
  have hnamed : enumeration = .ofNames enumeration.name members := by
    rw [Enumeration.ofNames, ← hmembers]
  rw [hconvert, Registry.memberOf, htarget]
  dsimp only [bind, Except.bind, pure, Except.pure]
  by_cases hmem : text ∈ members
  · have hcanonical : enumeration.canonical? text = some (text, .text text) := by
      rw [hnamed]
      exact Enumeration.canonical?_ofNames hmem
    rw [hcanonical]
    dsimp only
    rw [Except.ok.injEq, eq_comm]
    exact ⟨fun h => ⟨hmem, h⟩, fun h => h.2⟩
  · have hcanonical : enumeration.canonical? text = none := by
      refine Enumeration.canonical?_eq_none (Pairs.get?_eq_none_iff.2 ?_)
      rw [hmembers, Pairs.names, List.map_map]
      simpa using hmem
    rw [hcanonical]
    refine iff_of_false ?_ fun h => hmem h.1
    intro h
    cases h

/-- The texts of a cell of enumeration type that is accepted are members. -/
lemma exists_members_of_checkCell {resolver : Resolver} {row column type cell : String}
    {isArray : Bool} {texts : List String}
    (h : checkCell resolver row column type .enumeration isArray cell = .ok texts) :
    ∃ found, resolver.members? type = some found ∧ ∀ text ∈ texts, text ∈ found := by
  unfold checkCell at h
  dsimp only at h
  split at h
  · cases h
  · split at h
    · cases h
    · cases hmembers : resolver.members? type with
      | none =>
        rw [hmembers] at h
        cases h
      | some found =>
        rw [hmembers] at h
        dsimp only at h
        split at h
        · rename_i hall
          cases h
          exact ⟨found, rfl, by simpa using hall⟩
        · cases h

/-! ## Agreement -/

/-- Enumerations before and after loading, where the Enum scripts of a directory are written from
tables with ASCII names and no other script registers a container under the name of a type's. If the
scripts can be loaded, the type finds exactly the members of the enumeration of its name in the
script of its table, if there is one. From then on, also after looking up other types, the registry
has the enumeration with these members, and the texts that convert are their names. So every cell
that is accepted where that script stands converts. -/
theorem loadScripts_enumerations {later : Project} {modules types : List String}
    (hscripts : s.scripts = .text scripts) (hwritten : EnumsAreWritten p.files scripts)
    (hothers : OthersRegisterNo p.files scripts (containerName table))
    (htoken : TypeToken.classify (enumType table name) = .enumeration)
    (hpoint : '.' ∉ table.toList) (hname : IsTypeName name)
    (hload : (Action.loadScripts scripts).apply p = (.ok modules, q))
    (htypes : ∀ type ∈ types, TypeToken.classify type = .enumeration)
    (hlater : ((types.forM (Action.consult s)).apply q).2 = later) :
    (∀ found, enumMembers? s p.files (enumType table name) = some found ↔
      ∃ enums, IsWrittenFrom p.files scripts table enums ∧
        ∃ e ∈ enums, e.name = name ∧ e.members = found) ∧
    ∀ found, enumMembers? s p.files (enumType table name) = some found →
      ∃ enumeration, later.registry.enumeration (enumType table name) = .ok enumeration ∧
        enumeration.members.names = found ∧
        (∀ text v, later.registry.convertText (enumType table name) text = .ok v ↔
          text ∈ found ∧ v = .member enumeration text (.text text)) ∧
        ∀ (before : FileTree) current row column isArray cell texts,
          before.read (Settings.scriptPath scripts .enum table) =
            p.files.read (Settings.scriptPath scripts .enum table) →
          checkCell (.ofFiles s before current) row column (enumType table name) .enumeration
            isArray cell = .ok texts →
          ∀ text ∈ texts, later.registry.convertText (enumType table name) text =
            .ok (.member enumeration text (.text text)) := by
  have hrun : AllRun p.files scripts := Action.loadScripts_returns_iff.1 ⟨modules, q, hload⟩
  have hfinds (found : List String) : enumMembers? s p.files (enumType table name) = some found ↔
      ∃ enums, IsWrittenFrom p.files scripts table enums ∧
        ∃ e ∈ enums, e.name = name ∧ e.members = found :=
    enumMembers?_eq_some_iff hscripts hwritten hrun htoken hpoint hname
  refine ⟨hfinds, fun found hfound => ?_⟩
  obtain ⟨enums, hfrom, e, he, hnamed, rfl⟩ := (hfinds found).1 hfound
  -- the container is there once the scripts are loaded, and stays
  have hregistered := containers_of_loadScripts hload hwritten hothers hfrom
  have hfiles := (Action.exists_declared_of_loadScripts hload).1
  have hkeeps := Keeps.forM (fun _ h => h) (fun _ _ _ h h' hp => h' (h hp))
    (fun type hmem => keeps_consult hscripts hwritten hrun hfrom (htypes type hmem))
  obtain ⟨-, hheld⟩ := hkeeps q ⟨hfiles, hregistered⟩
  rw [hlater] at hheld
  obtain ⟨enumeration, htarget, hmembers⟩ := target_of_containers hfrom.identifier hfrom.names
    hfrom.accepted.2 hname he hnamed hheld
  obtain ⟨hgives, hlisted⟩ := enumeration_of_target htarget hmembers
  have hconvert := convertText_enumeration htoken htarget hmembers
  refine ⟨enumeration, hgives, hlisted, hconvert, ?_⟩
  intro before current row column isArray cell texts hsame hcell text htext
  obtain ⟨found, hfound', hall⟩ := exists_members_of_checkCell hcell
  have hpath := Settings.scriptPath?_eq hscripts .enum table
  have hfrom' : IsWrittenFrom before scripts table enums := hfrom.of_read_eq hsame
  rw [members?_ofFiles, enumMembers?_enumScript hfrom'.identifier hfrom'.accepted.1 hpath
    hfrom'.readText hname.identifier, ← enumMembers?_enumScript hfrom.identifier
    hfrom.accepted.1 hpath hfrom.readText hname.identifier, hfound, Option.some.injEq] at hfound'
  rw [hconvert, hfound']
  exact ⟨hall text htext, rfl⟩

/-- A type of the table of two enumerations converts once its script is loaded, also after the other
type of the table is looked up. -/
theorem gradeTable_converts : ∃ a q text modules loaded enumeration,
    (Action.compileSheet Project.empty.settings .enum "Item" "Item.xlsx" gradeTable).apply .empty =
      (.ok a, q) ∧
    (Action.onlyScript .enum text).read (Settings.scriptPath "Dist" .enum "Item") =
      q.files.read (Settings.scriptPath "Dist" .enum "Item") ∧
    (Action.loadScripts "Dist").apply
      { Project.empty with files := Action.onlyScript .enum text } = (.ok modules, loaded) ∧
    enumMembers? Project.empty.settings (Action.onlyScript .enum text) "EmItem.Grade" =
      some ["Common", "Rare"] ∧
    ((["EmItem.Kind"].forM (Action.consult Project.empty.settings)).apply
      loaded).2.registry.convertText "EmItem.Grade" "Rare" =
        .ok (.member enumeration "Rare" (.text "Rare")) := by
  have hread : readEnums gradeTable =
      .ok [⟨"Grade", ["Common", "Rare"]⟩, ⟨"Kind", ["Weapon", "Armor"]⟩] := rfl
  obtain ⟨a, q, text, hcompile, hstands⟩ :=
    exists_standing (compiledIn_enum (s := Project.empty.settings) rfl rfl (by decide) hread)
  have hfrom : IsWrittenFrom (Action.onlyScript .enum text) "Dist" "Item"
      [⟨"Grade", ["Common", "Rare"]⟩, ⟨"Kind", ["Weapon", "Armor"]⟩] := by
    refine ⟨⟨_, _, q, _, gradeTable, a, rfl, rfl, hread, hcompile, hstands⟩, ?_, ?_⟩
    · unfold IsAscii
      decide
    · unfold IsAscii
      decide
  let start : Project := { Project.empty with files := Action.onlyScript .enum text }
  have hwritten : EnumsAreWritten start.files "Dist" := by
    intro file hfile
    rw [Action.scriptsIn_onlyScript, if_pos rfl, List.mem_singleton] at hfile
    have hname : "Item.py" = "Item" ++ ".py" := by decide
    exact ⟨_, _, hfile.trans hname, hfrom⟩
  have hothers : OthersRegisterNo start.files "Dist" (containerName "Item") := by
    rintro kind file d ⟨hfile, -⟩ hkind
    rw [Action.scriptsIn_onlyScript, if_neg hkind] at hfile
    cases hfile
  have hloads : Loads "Item" [⟨"Grade", ["Common", "Rare"]⟩, ⟨"Kind", ["Weapon", "Armor"]⟩] := by
    decide +kernel
  obtain ⟨modules, loaded, hload⟩ := (Action.loadScripts_returns_iff_of_others
    (p := start) hfrom.mem_scriptsIn (Action.othersLoad_onlyScript .enum text)).2
      (by rw [hfrom.declared?, if_pos hloads]; rfl)
  have htype : enumType "Item" "Grade" = "EmItem.Grade" := by decide
  have hname : IsTypeName "Grade" := ⟨by decide, by unfold IsAscii; decide, by decide⟩
  have hkind : ∀ type ∈ ["EmItem.Kind"], TypeToken.classify type = .enumeration := by decide
  obtain ⟨hfinds, hall⟩ := loadScripts_enumerations (s := Project.empty.settings) rfl hwritten
    hothers (by decide) (by decide) hname hload hkind rfl
  have hfound := (hfinds ["Common", "Rare"]).2 ⟨_, hfrom, _, List.mem_cons_self, rfl, rfl⟩
  obtain ⟨enumeration, -, -, hconvert, -⟩ := hall _ hfound
  rw [htype] at hfound hconvert
  exact ⟨a, q, text, modules, loaded, enumeration, hcompile, hstands, hload, hfound,
    (hconvert "Rare" _).2 ⟨by decide, rfl⟩⟩

/-- The files of a project with a script of Item in the place of its enumerations and one in the
place of its constants. -/
def strayFiles (text stray : String) : FileTree :=
  ⟨[(["Dist"], .directory), (["Dist", "Enum"], .directory),
    (["Dist", "Enum", "Item.py"], .file (.text text)), (["Dist", "Variable"], .directory),
    (["Dist", "Variable", "Item.py"], .file (.text stray))]⟩

lemma scriptsIn_strayFiles (text stray : String) (kind : TableKind) :
    Action.scriptsIn (strayFiles text stray) (join "Dist" kind.name) =
      if kind = .convert then [] else ["Item.py"] := by
  cases kind with
  | convert => rfl
  | enum =>
    have hsorted : Action.scriptsIn (strayFiles text stray) (join "Dist" TableKind.enum.name) =
        (FileTree.sortTexts ["Item.py"]).filter (endsWith Action.scriptExtension) := rfl
    rw [hsorted, FileTree.sortTexts, List.mergeSort_singleton]
    rfl
  | «variable» =>
    have hsorted : Action.scriptsIn (strayFiles text stray) (join "Dist" TableKind.variable.name) =
        (FileTree.sortTexts ["Item.py"]).filter (endsWith Action.scriptExtension) := rfl
    rw [hsorted, FileTree.sortTexts, List.mergeSort_singleton]
    rfl

lemma read_strayFiles (text stray : String) :
    (strayFiles text stray).read (Settings.scriptPath "Dist" .enum "Item") =
        (Action.onlyScript .enum text).read (Settings.scriptPath "Dist" .enum "Item") ∧
      (strayFiles text stray).read (Settings.scriptPath "Dist" .variable "Item") =
        .ok (.text stray) := ⟨rfl, rfl⟩

/-- Both scripts are loaded, and the container of the second one stays. -/
lemma loadScripts_strayFiles {text stray : String} {d d' : Declared} {c : Container}
    (henum : (strayFiles text stray).declared? .enum (join "Dist" TableKind.enum.name)
      ("Item" ++ ".py") = some d)
    (hvariable : (strayFiles text stray).declared? .variable (join "Dist" TableKind.variable.name)
      ("Item" ++ ".py") = some d') (hc : d'.containers = [c]) :
    ∃ modules loaded, (Action.loadScripts "Dist").apply
        { Project.empty with files := strayFiles text stray } = (.ok modules, loaded) ∧
      loaded.registry.containers.get? c.name = some c := by
  have hname : ["Item.py"] = ["Item" ++ ".py"] := by decide
  have hdeclared {kind : TableKind} {d : Declared} (hkind : kind ≠ .convert)
      (hd : (strayFiles text stray).declared? kind (join "Dist" kind.name) ("Item" ++ ".py") =
        some d) : (strayFiles text stray).declaredIn? "Dist" kind = some [d] := by
    rw [FileTree.declaredIn?, scriptsIn_strayFiles, if_neg hkind, hname, List.mapM_cons, hd]
    rfl
  have hconvert : (strayFiles text stray).declaredIn? "Dist" .convert = some [] := by
    rw [FileTree.declaredIn?, scriptsIn_strayFiles, if_pos rfl]
    rfl
  have hload := Action.loadScripts_eq_ok_iff
    (p := { Project.empty with files := strayFiles text stray }).2 ⟨_, _, _,
      hdeclared (by decide) henum, hdeclared (by decide) hvariable, hconvert, rfl, rfl⟩
  exact ⟨_, _, hload, Registry.get?_containers_declare_last [d] hc⟩

/-- A table of an enumeration with one member. -/
def rareTable : Sheet := ⟨[["Grade"], ["Rare"]]⟩

/-- What an older table of the enumeration had. -/
def formerEnums : List EnumDeclaration := [⟨"Grade", ["Common"]⟩]

lemma isAccepted_formerEnums : ∀ e ∈ formerEnums, e.IsAccepted := by
  intro e he
  rw [List.mem_singleton.1 he]
  exact ⟨by decide, by decide, by decide, by decide, by decide⟩

/-- The container that the script of the older table registers in the place of the constants. -/
def formerContainer : Container :=
  containerOf (containerAs "Item")
    (containerNames "Item" (TableKind.variable.moduleOf "Item") formerEnums)

lemma declared?_strayFiles (text : String) :
    (strayFiles text (Template.lines (Template.enumScriptTexts "Item" formerEnums))).declared?
      .variable (join "Dist" TableKind.variable.name) ("Item" ++ ".py") =
        some (enumDeclared "Item" (TableKind.variable.moduleOf "Item") formerEnums) := by
  have hread := FileTree.readText_of_read (read_strayFiles text
    (Template.lines (Template.enumScriptTexts "Item" formerEnums))).2
  have hloads : Loads "Item" formerEnums := by decide +kernel
  have hident : isIdentifier "Item" = true := by decide
  rw [FileTree.declared?_of_readText hident hread,
    run_enumScript _ hident isAccepted_formerEnums hloads]

/-- The script of an older table in the place of the constants registers the container last, so that
the registry has its members and not those that the type finds. -/
theorem rareTable_strays : ∃ text stray modules loaded enumeration,
    EnumsAreWritten (strayFiles text stray) "Dist" ∧
    (Action.loadScripts "Dist").apply
      { Project.empty with files := strayFiles text stray } = (.ok modules, loaded) ∧
    enumMembers? Project.empty.settings (strayFiles text stray) "EmItem.Grade" = some ["Rare"] ∧
    loaded.registry.enumeration "EmItem.Grade" = .ok enumeration ∧
    enumeration.members.names = ["Common"] := by
  have hread : readEnums rareTable = .ok [⟨"Grade", ["Rare"]⟩] := rfl
  obtain ⟨a, q, text, hcompile, hstands⟩ :=
    exists_standing (compiledIn_enum (s := Project.empty.settings) rfl rfl (by decide) hread)
  obtain ⟨stray, hstray⟩ : ∃ stray,
      stray = Template.lines (Template.enumScriptTexts "Item" formerEnums) := ⟨_, rfl⟩
  have hsame := (read_strayFiles text stray).1.trans hstands
  have hfrom : IsWrittenFrom (strayFiles text stray) "Dist" "Item" [⟨"Grade", ["Rare"]⟩] := by
    refine ⟨⟨_, _, q, _, rareTable, a, rfl, rfl, hread, hcompile, hsame⟩, ?_, ?_⟩
    · unfold IsAscii
      decide
    · unfold IsAscii
      decide
  have hwritten : EnumsAreWritten (strayFiles text stray) "Dist" := by
    intro file hfile
    rw [scriptsIn_strayFiles, if_neg (by decide), List.mem_singleton] at hfile
    have hname : "Item.py" = "Item" ++ ".py" := by decide
    exact ⟨_, _, hfile.trans hname, hfrom⟩
  -- each of the two scripts declares a container of the same name
  have hloads : Loads "Item" [⟨"Grade", ["Rare"]⟩] := by decide +kernel
  have henum := hfrom.declared?
  have hvariable := declared?_strayFiles text
  rw [if_pos hloads] at henum
  rw [← hstray] at hvariable
  obtain ⟨modules, loaded, hload, hregistered⟩ :=
    loadScripts_strayFiles (c := formerContainer) henum hvariable rfl
  have hcontainer : formerContainer.name = containerName "Item" := by decide
  rw [hcontainer] at hregistered
  have hformer : ∀ e ∈ formerEnums, IsAscii e.name ∧ ∀ m ∈ e.members, IsAscii m := by
    unfold IsAscii
    decide
  have hname : IsTypeName "Grade" := ⟨by decide, by unfold IsAscii; decide, by decide⟩
  obtain ⟨enumeration, htarget, hmembers⟩ := target_of_containers (by decide) hformer (by decide)
    hname List.mem_cons_self rfl hregistered
  obtain ⟨hgives, hlisted⟩ := enumeration_of_target htarget hmembers
  have hrun : AllRun (strayFiles text stray) "Dist" := Action.loadScripts_returns_iff
    (p := { Project.empty with files := strayFiles text stray }).1 ⟨modules, loaded, hload⟩
  have hfound := (enumMembers?_eq_some_iff (s := Project.empty.settings) rfl hwritten hrun
    (by decide) (by decide) hname).2 ⟨_, hfrom, _, List.mem_cons_self, rfl, rfl⟩
  have htype : enumType "Item" "Grade" = "EmItem.Grade" := by decide
  rw [htype] at hfound hgives
  exact ⟨text, stray, modules, loaded, enumeration, hwritten, hload, hfound, hgives, hlisted⟩

end SheetCompiler
