import SheetCompiler.Proofs.Compile.Standing
import SheetCompiler.Proofs.Script.Run

/-!
# Members of compiled enumerations

The names of an Enum table are checked when the table is compiled and read again when its script is
loaded. The two agree on an enumeration exactly if its script can be loaded as a whole, the
container and the enumeration are found under the names that a type gives them, and its members are
those of the sheet as they are read (`EnumDeclaration.IsUsable`).

Main statements:

* `enumMembers?_enumScript`: what a type finds in the script of an Enum table;
* `isUsable_of_areOrdinary`: enumerations with ordinary names are usable;
* `compileSheet_members`: what the members of compiled enumerations are.
-/

namespace SheetCompiler

open SheetCompiler.Text SheetCompiler.Script

variable {table name : String} {e : EnumDeclaration} {enums : List EnumDeclaration}

/-! ## Types of enumerations -/

/-- The type of an enumeration of a table. -/
def enumType (table name : String) : String := containerName table ++ "." ++ name

lemma notMem_point (h : isIdentifier name = true) : '.' ∉ name.toList :=
  notMem_of_isIdentifierChars (isIdentifierChars_of_isIdentifier h) (by decide)

lemma ne_empty (h : isIdentifier name = true) : name ≠ "" := by
  rintro rfl
  exact absurd h (by decide)

lemma unmarked_containerName (table : String) :
    TypeToken.unmarked (containerName table) = table := by
  rw [TypeToken.unmarked, toList_containerName]
  exact String.ofList_toList

/-- A type leads to the container and to the enumeration in it. -/
lemma splitContainer_enumType (h : '.' ∉ table.toList) (name : String) :
    TypeToken.splitContainer (enumType table name) = (containerName table, name) := by
  have hlist : (enumType table name).toList =
      (containerName table).toList ++ '.' :: name.toList := by
    rw [enumType, String.toList_append, String.toList_append, List.append_assoc]
    rfl
  have hpoint : ∀ c ∈ (containerName table).toList, decide (c ≠ '.') = true := by
    intro c hc
    rw [decide_eq_true_eq]
    rintro rfl
    rw [toList_containerName] at hc
    simp [h] at hc
  have htake : (enumType table name).toList.takeWhile (· ≠ '.') = (containerName table).toList := by
    rw [hlist, List.takeWhile_append_of_pos hpoint, List.takeWhile_cons_of_neg (by simp),
      List.append_nil]
  rw [TypeToken.splitContainer, htake, hlist, List.drop_left, String.ofList_toList]
  simp

lemma pieces_of_isIdentifier (h : isIdentifier name = true) : pieces '.' name = [name] := by
  have hpieces := splitOn_of_not_mem (notMem_point h)
  rw [pieces, hpieces]
  simp

/-! ## What a type finds -/

/-- What a type of a table finds in its script. -/
def foundMembers? (table : String) (enums : List EnumDeclaration) (name : String) :
    Option (List String) :=
  if Loads table enums ∧ containerAs table = containerName table ∧ isInnate name = false then
    (declaredAs? (containerAs table) enums name).map fun e => e.members.map compatibleForm
  else none

/-- A container is found under its name if that is the name it is declared under. -/
lemma get?_containerName (table module : String) (enums : List EnumDeclaration)
    (attributes : List (String × Object)) (groupName : String) (typed : List String) :
    (enumDeclared table module enums).names.get? (containerName table) =
        some (.group groupName attributes typed) ↔
      containerAs table = containerName table ∧ groupName = containerAs table ∧
        attributes = containerNames table module enums ∧ typed = [] := by
  by_cases h : containerAs table = containerName table
  · rw [enumDeclared, h, Pairs.get?_put_self, Option.some.injEq, Object.group.injEq]
    exact ⟨fun heq => ⟨rfl, heq.1.symm, heq.2.1.symm, heq.2.2.symm⟩,
      fun heq => ⟨heq.2.1.symm, heq.2.2.1.symm, heq.2.2.2.symm⟩⟩
  · rw [enumDeclared, Pairs.get?_put_of_ne h]
    refine ⟨fun heq => ?_, fun heq => absurd heq.1 h⟩
    -- nothing else that the script declares has attributes
    have hobject : Object.group groupName attributes typed ∈ [Object.value (.text module),
        .builtin .enumeration, .builtin .registration] :=
      List.mem_map_of_mem (f := Prod.snd) (Pairs.mem_of_get? heq)
    simp at hobject

/-- What the body of the container has under a name is the last enumeration declared under it, or
nothing that is an enumeration. -/
lemma get?_containerNames_enumeration (module : String) (name : String) (found : Enumeration) :
    (containerNames table module enums).get? name = some (.enumeration found) ↔
      ∃ e, declaredAs? (containerAs table) enums name = some e ∧
        enumClass (containerAs table ++ ".") e = .enumeration found := by
  rw [containerNames, get?_containerNames]
  cases declaredAs? (containerAs table) enums name with
  | some e => simp
  | none =>
    -- what every body has is no enumeration
    refine ⟨fun heq => ?_, fun ⟨e, he, _⟩ => by cases he⟩
    rw [Option.map_none, Option.none_or] at heq
    simp only [initialNames, List.singleton_append, Pairs.get?_cons, Pairs.get?_nil] at heq
    split_ifs at heq <;> cases heq

lemma findPath?_enumDeclared (table name module : String) (enums : List EnumDeclaration)
    (found : Enumeration) :
    findPath? (enumDeclared table module enums).names [containerName table, name] =
        some (.enumeration found) ↔
      containerAs table = containerName table ∧ isInnate name = false ∧
        ∃ e, declaredAs? (containerAs table) enums name = some e ∧
          enumClass (containerAs table ++ ".") e = .enumeration found := by
  have hgroup := get?_containerName table module enums
  rw [findPath?]
  cases ho : (enumDeclared table module enums).names.get? (containerName table) with
  | none =>
    refine ⟨nofun, fun ⟨hcontainer, _⟩ => ?_⟩
    rw [(hgroup _ _ _).2 ⟨hcontainer, rfl, rfl, rfl⟩] at ho
    cases ho
  | some o =>
    by_cases hcontainer : containerAs table = containerName table
    · rw [(hgroup _ _ _).2 ⟨hcontainer, rfl, rfl, rfl⟩, Option.some.injEq] at ho
      subst ho
      dsimp only
      cases hinnate : isInnate name with
      | true => exact ⟨nofun, fun h => by cases h.2.1⟩
      | false =>
        rw [if_neg Bool.false_ne_true, findPath?, get?_containerNames_enumeration]
        exact ⟨fun h => ⟨hcontainer, rfl, h⟩, fun h => h.2.2⟩
    · refine ⟨fun heq => ?_, fun h => absurd h.1 hcontainer⟩
      cases o with
      | group groupName attributes typed =>
        rw [hgroup] at ho
        exact absurd ho.1 hcontainer
      | _ => cases heq

/-- The script that a type is looked up in. -/
lemma enumScript_enumType {s : Settings} {path : String} (h : '.' ∉ table.toList)
    (htable : table ≠ "") (hname : name ≠ "")
    (hpath : s.scriptPath? TableKind.enum.name table = some path) (files : FileTree) :
    enumScript s files (enumType table name) = .ok (enumScriptAt files table path) := by
  rw [enumScript, splitContainer_enumType h]
  dsimp only
  rw [unmarked_containerName, if_neg (not_or.2 ⟨htable, hname⟩), hpath]

/-- What a type finds in the script of an Enum table. -/
theorem enumMembers?_enumScript {s : Settings} {files : FileTree} {path : String}
    (h : isIdentifier table = true) (he : ∀ e ∈ enums, e.IsAccepted)
    (hpath : s.scriptPath? TableKind.enum.name table = some path)
    (hread : files.readText path = .ok (Template.lines (Template.enumScriptTexts table enums)))
    (hname : isIdentifier name = true) :
    enumMembers? s files (enumType table name) = foundMembers? table enums name := by
  have hscript := enumScript_enumType (notMem_point h) (ne_empty h) (ne_empty hname) hpath files
  have hthere : files.contains path = true :=
    FileTree.contains_of_isFile (FileTree.isFile_of_readText hread)
  unfold enumMembers?
  rw [hscript, splitContainer_enumType (notMem_point h), enumScriptAt, hthere, Bool.not_true,
    if_neg Bool.false_ne_true, hread]
  dsimp only
  -- of a script that cannot be loaded, nothing is found
  by_cases hloads : Loads table enums
  · rw [run_enumScript _ h he hloads]
    dsimp only
    rw [pieces_of_isIdentifier hname]
    have hfind := findPath?_enumDeclared table name (TableKind.enum.moduleOf table) enums
    rw [foundMembers?]
    split
    · rename_i found hfound
      obtain ⟨hcontainer, hinnate, e, hdeclared, hclass⟩ := (hfind found).1 hfound
      rw [if_pos ⟨hloads, hcontainer, hinnate⟩, hdeclared, Option.map_some]
      rw [enumClass, Object.enumeration.injEq] at hclass
      rw [← hclass, names_readMembers]
    · rename_i hnone
      split_ifs with hfound
      · cases hdeclared : declaredAs? (containerAs table) enums name with
        | none => rfl
        | some e => exact absurd ((hfind _).2 ⟨hfound.2.1, hfound.2.2, e, hdeclared, rfl⟩) (hnone _)
      · rfl
  · obtain ⟨declared, fault, hrun⟩ :=
      run_enumScript_of_not_loads (TableKind.enum.moduleOf table) h he hloads
    rw [hrun, foundMembers?, if_neg fun hfound => hloads hfound.1]

/-! ## Usable enumerations -/

/-- What means something to every class begins with an underscore. -/
lemma isInnate_of_plain (h : startsWith "_" name = false) : isInnate name = false := by
  have hall : ∀ special ∈ innate.names, startsWith "_" special = true := by decide
  rw [isInnate, ← Bool.not_eq_true, List.contains_iff_mem]
  intro hmem
  rw [hall _ hmem] at h
  cases h

/-- The members of an enumeration of a table are found under its type as they stand in the sheet:
the script can be loaded as a whole, the container is declared under its own name, the enumeration
is looked up under a name that means nothing else to every class, and the last enumeration that is
declared under that name has, as they are read, the same members. -/
structure EnumDeclaration.IsUsable (table : String) (enums : List EnumDeclaration)
    (e : EnumDeclaration) : Prop where
  loads : Loads table enums
  container : containerAs table = containerName table
  visible : isInnate e.name = false
  members : ∃ d, declaredAs? (containerAs table) enums e.name = some d ∧
    ∀ m, m ∈ d.members.map compatibleForm ↔ m ∈ e.members

lemma isUsable_iff : e.IsUsable table enums ↔
    ∃ found, foundMembers? table enums e.name = some found ∧ ∀ m, m ∈ found ↔ m ∈ e.members := by
  rw [foundMembers?]
  constructor
  · rintro ⟨hloads, hcontainer, hvisible, d, hd, hmembers⟩
    rw [if_pos ⟨hloads, hcontainer, hvisible⟩, hd]
    exact ⟨_, rfl, hmembers⟩
  · rintro ⟨found, hfound, hmembers⟩
    split_ifs at hfound with h
    obtain ⟨d, hd, rfl⟩ := Option.map_eq_some_iff.1 hfound
    exact ⟨h.1, h.2.1, h.2.2, d, hd, hmembers⟩

/-- Names of a table that are read as they stand: they are in compatible form, no enumeration has a
name that begins with an underscore or the name that enumerations are made from, and no member is
called `mro`. -/
structure AreOrdinary (table : String) (enums : List EnumDeclaration) : Prop where
  container : compatibleForm (containerName table) = containerName table
  names : ∀ e ∈ enums, compatibleForm e.name = e.name ∧ startsWith "_" e.name = false ∧
    e.name ≠ baseName
  members : ∀ e ∈ enums, ∀ m ∈ e.members, compatibleForm m = m ∧ m ≠ "mro"

/-- Enumerations with ordinary names are declared under them. -/
lemma boundName_of_areOrdinary (h : AreOrdinary table enums) (he : e ∈ enums) (owner : String) :
    boundName owner (compatibleForm e.name) = e.name := by
  obtain ⟨hname, hplain, -⟩ := h.names e he
  rw [hname, boundName_of_plain (head?_ne_of_startsWith hplain)]

/-- The only enumeration that is declared under an ordinary name is the one that has it. -/
lemma declaredAs?_of_areOrdinary (h : AreOrdinary table enums)
    (hnodup : (enums.map EnumDeclaration.name).Nodup) (he : e ∈ enums) (owner : String) :
    declaredAs? owner enums e.name = some e := by
  have hname := boundName_of_areOrdinary h he owner
  rw [declaredAs?]
  cases hd : enums.reverse.find? fun d => boundName owner (compatibleForm d.name) == e.name with
  | none =>
    have hnone := List.find?_eq_none.1 hd e (List.mem_reverse.2 he)
    rw [hname, beq_self_eq_true] at hnone
    exact absurd rfl hnone
  | some d =>
    have hmem := List.mem_reverse.1 (List.mem_of_find?_eq_some hd)
    have hbound := List.find?_some hd
    rw [beq_iff_eq, boundName_of_areOrdinary h hmem] at hbound
    rw [List.inj_on_of_nodup_map hnodup hmem he hbound]

lemma loads_of_areOrdinary (h : AreOrdinary table enums) (he : ∀ e ∈ enums, e.IsAccepted) :
    Loads table enums := by
  have hread {e : EnumDeclaration} (hmem : e ∈ enums) :
      e.members.map compatibleForm = e.members := by
    rw [List.map_congr_left fun m hm => (h.members e hmem m hm).1, List.map_id']
  refine ⟨fun e hmem => ?_, ⟨fun e hmem => ⟨?_, fun m hm => ?_⟩, fun e hmem => ?_⟩,
    fun special hs => ?_⟩
  · exact isBindable_compatibleForm (he e hmem).named
      (head?_ne_of_startsWith (h.names e hmem).2.1)
  · rw [hread hmem]
    exact (he e hmem).nodup
  · rw [(h.members e hmem m hm).1, forbiddenMembers, List.mem_pair, not_or]
    exact ⟨(h.members e hmem m hm).2, ne_empty ((he e hmem).identifiers m hm)⟩
  · have hmem := (List.dropLast_sublist enums).subset hmem
    rw [boundName_of_areOrdinary h hmem]
    exact (h.names e hmem).2.2
  · -- the names that cannot be used begin with an underscore
    have hall : ∀ special ∈ unusableFields, startsWith "_" special = true := by decide
    rw [declaredAs?, List.find?_eq_none]
    intro e hmem hbound
    have hmem := List.mem_reverse.1 hmem
    rw [beq_iff_eq, boundName_of_areOrdinary h hmem] at hbound
    have hplain := (h.names e hmem).2.1
    rw [hbound, hall special hs] at hplain
    cases hplain

/-- Enumerations with ordinary names are usable. -/
lemma isUsable_of_areOrdinary (h : AreOrdinary table enums) (haccepted : ∀ e ∈ enums, e.IsAccepted)
    (hnodup : (enums.map EnumDeclaration.name).Nodup) (he : e ∈ enums) :
    e.IsUsable table enums := by
  have hinnate : isInnate e.name = false := isInnate_of_plain (h.names e he).2.1
  refine ⟨loads_of_areOrdinary h haccepted, h.container, hinnate, e,
    declaredAs?_of_areOrdinary h hnodup he _, fun m => ?_⟩
  rw [List.map_congr_left fun m hm => (h.members e he m hm).1, List.map_id']

/-! ## Cells -/

/-- A member that is found is accepted in a cell. -/
lemma checkCell_member {resolver : Resolver} {type m : String} {found : List String}
    (hfound : resolver.members? type = some found) (hm : m ∈ found) (hident : isIdentifier m = true)
    (row column : String) (isArray : Bool) :
    checkCell resolver row column type .enumeration isArray m = .ok [m] := by
  have hbreak : '\n' ∉ m.toList :=
    notMem_of_isIdentifierChars (isIdentifierChars_of_isIdentifier hident) (by decide)
  have hsplit : splitCell m = [m] := by
    rw [splitCell, pieces, splitOn_of_not_mem hbreak]
    simp
  have hone : (!isArray && decide (1 < [m].length)) = false := by simp
  have hall : [m].all found.contains = true := by simpa using hm
  rw [checkCell, if_neg (ne_empty hident)]
  dsimp only
  rw [hsplit, hone, if_neg Bool.false_ne_true, hfound]
  dsimp only
  rw [hall, if_pos rfl]

/-! ## Compiled enumerations -/

section

variable {s : Settings} {p q : Project} {files : FileTree} {source path : String} {sheet : Sheet}
  {a : Compilation}

/-- What the types of a compiled table find as long as its script stands. -/
lemma enumMembers?_of_compileSheet (htemplates : s.templates = none)
    (hcompile : (Action.compileSheet s .enum table source sheet).apply p = (.ok a, q))
    (hpath : s.scriptPath? TableKind.enum.name table = some path)
    (hstands : files.read path = q.files.read path) :
    ∃ enums, readEnums sheet = .ok enums ∧ ∀ e ∈ enums,
      enumMembers? s files (enumType table e.name) = foundMembers? table enums e.name := by
  obtain ⟨c, hc, hscript, -⟩ := standsIn_of_compileSheet hcompile
  obtain ⟨hident, enums, henums, htext⟩ := enumScript_of_compiledIn htemplates hc
  obtain ⟨haccepted, -⟩ := isAccepted_of_readEnums henums
  have hread : files.readText path =
      .ok (Template.lines (Template.enumScriptTexts table enums)) := by
    rw [← htext]
    exact FileTree.readText_of_read (hstands.trans (hscript.script path hpath))
  exact ⟨enums, henums, fun e he =>
    enumMembers?_enumScript hident haccepted hpath hread (haccepted e he).named⟩

/-- The members of an enumeration that is compiled with the shipped templates. As long as its script
stands, its type finds exactly its members just if it is usable, and then each of them is accepted
in a cell of that type. Enumerations with ordinary names are usable. -/
theorem compileSheet_members (htemplates : s.templates = none)
    (hcompile : (Action.compileSheet s .enum table source sheet).apply p = (.ok a, q))
    (hpath : s.scriptPath? TableKind.enum.name table = some path)
    (hstands : files.read path = q.files.read path) :
    ∃ enums, readEnums sheet = .ok enums ∧
      (AreOrdinary table enums → ∀ e ∈ enums, e.IsUsable table enums) ∧
      ∀ e ∈ enums,
        ((∃ found, enumMembers? s files (enumType table e.name) = some found ∧
          ∀ m, m ∈ found ↔ m ∈ e.members) ↔ e.IsUsable table enums) ∧
        (e.IsUsable table enums → ∀ current row column isArray, ∀ m ∈ e.members,
          checkCell (.ofFiles s files current) row column (enumType table e.name) .enumeration
            isArray m = .ok [m]) := by
  obtain ⟨enums, henums, hmembers⟩ :=
    enumMembers?_of_compileSheet htemplates hcompile hpath hstands
  obtain ⟨haccepted, hnodup⟩ := isAccepted_of_readEnums henums
  refine ⟨enums, henums, fun h e he => isUsable_of_areOrdinary h haccepted hnodup he,
    fun e he => ⟨?_, fun husable current row column isArray m hm => ?_⟩⟩
  · rw [hmembers e he, isUsable_iff]
  · obtain ⟨found, hfound, hall⟩ := isUsable_iff.1 husable
    rw [← hmembers e he] at hfound
    have hresolved : (Resolver.ofFiles s files current).members? (enumType table e.name) =
        some found := (members?_ofFiles s files current _).trans hfound
    exact checkCell_member hresolved ((hall m).2 hm) ((haccepted e he).identifiers m hm) row column
      isArray

end

/-- An Enum table that is accepted compiles in a project without files. -/
lemma exists_compileSheet_enum {sheet : Sheet} {enums : List EnumDeclaration}
    (h : readEnums sheet = .ok enums) :
    ∃ a q, (Action.compileSheet Project.empty.settings .enum "Item" "Item.xlsx" sheet).apply
      .empty = (.ok a, q) := by
  obtain ⟨a, q, text, hcompile, -⟩ :=
    exists_standing (compiledIn_enum (s := Project.empty.settings) rfl rfl (by decide) h)
  exact ⟨a, q, hcompile⟩

/-- A table of two enumerations. -/
def gradeTable : Sheet := ⟨[["Grade", "Kind"], ["Common", "Weapon"], ["Rare", "Armor"]]⟩

/-- The members of the first enumeration of the table are found under its type. -/
theorem gradeTable_members : ∃ a q,
    (Action.compileSheet Project.empty.settings .enum "Item" "Item.xlsx" gradeTable).apply .empty =
      (.ok a, q) ∧
    (∃ found, enumMembers? Project.empty.settings q.files "EmItem.Grade" = some found ∧
      ∀ m, m ∈ found ↔ m ∈ ["Common", "Rare"]) ∧
    checkCell (.ofFiles Project.empty.settings q.files (some "Hero")) "1" "Grade" "EmItem.Grade"
      .enumeration false "Rare" = .ok ["Rare"] := by
  have hread : readEnums gradeTable =
      .ok [⟨"Grade", ["Common", "Rare"]⟩, ⟨"Kind", ["Weapon", "Armor"]⟩] := rfl
  obtain ⟨a, q, hcompile⟩ := exists_compileSheet_enum hread
  have hpath : Project.empty.settings.scriptPath? TableKind.enum.name "Item" =
      some "Dist/Enum/Item.py" := by decide
  have hstands : q.files.read "Dist/Enum/Item.py" = q.files.read "Dist/Enum/Item.py" := rfl
  obtain ⟨enums, henums, hordinary, hall⟩ := compileSheet_members rfl hcompile hpath hstands
  rw [hread, Except.ok.injEq] at henums
  subst henums
  have husable := hordinary ⟨by decide +kernel, by decide +kernel, by decide +kernel⟩
    ⟨"Grade", ["Common", "Rare"]⟩ (by simp)
  obtain ⟨hfound, haccepted⟩ := hall ⟨"Grade", ["Common", "Rare"]⟩ (by simp)
  exact ⟨a, q, hcompile, hfound.2 husable, haccepted husable _ _ _ _ "Rare" (by simp)⟩

/-- A table of an enumeration with a member that no enumeration has. -/
def orderTable : Sheet := ⟨[["Order"], ["First"], ["mro"]]⟩

/-- The table is accepted, and none of its members is found. -/
theorem orderTable_members :
    readEnums orderTable = .ok [⟨"Order", ["First", "mro"]⟩] ∧ ∃ a q,
      (Action.compileSheet Project.empty.settings .enum "Item" "Item.xlsx" orderTable).apply
        .empty = (.ok a, q) ∧
      enumMembers? Project.empty.settings q.files "EmItem.Order" = none := by
  have hread : readEnums orderTable = .ok [⟨"Order", ["First", "mro"]⟩] := rfl
  obtain ⟨a, q, hcompile⟩ := exists_compileSheet_enum hread
  have hpath : Project.empty.settings.scriptPath? TableKind.enum.name "Item" =
      some "Dist/Enum/Item.py" := by decide
  have hstands : q.files.read "Dist/Enum/Item.py" = q.files.read "Dist/Enum/Item.py" := rfl
  obtain ⟨enums, henums, hmembers⟩ := enumMembers?_of_compileSheet rfl hcompile hpath hstands
  rw [hread, Except.ok.injEq] at henums
  subst henums
  have hnone : foundMembers? "Item" [⟨"Order", ["First", "mro"]⟩] "Order" = none := by
    decide +kernel
  exact ⟨hread, a, q, hcompile, (hmembers ⟨"Order", ["First", "mro"]⟩ (by simp)).trans hnone⟩

end SheetCompiler
