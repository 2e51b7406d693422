import SheetCompiler.Proofs.Script.Enumeration
import SheetCompiler.Proofs.Script.Outcome

/-!
# Running the script of an Enum table

The classes of a script are made one after the other. The class of an enumeration is made if its
members still differ as they are read and no member is one that enumerations cannot have; while
enumerations follow, the name that they are made from must not be given to one of them. The class of
the container is made if no enumeration has a name there that means something else to every class.

Main statements:

* `outcome?_members`: what the body of an enumeration declares;
* `outcome?_enumStatement`: the class of an enumeration;
* `outcome?_enums`: the classes of a table, one after the other;
* `outcome?_container`: the class of their container;
* `run_enumScript` and `run_enumScript_of_not_loads`: what the script declares, or that it fails.
-/

namespace SheetCompiler.Script

open SheetCompiler.Text SheetCompiler.Template

variable {d : Declared} {names : Pairs Object} {typed : List String} {o : Object}
  {owner outer name table : String} {e : EnumDeclaration} {enums : List EnumDeclaration}
  {members : List String}

/-! ## Members -/

/-- A name that does not begin with an underscore is one for a member. -/
lemma isMemberName_of_plain (h : name.toList.head? ≠ some '_') (owner : String) :
    isPrivate owner name = false ∧ isUnderscored name = false ∧ isSpecial name = false := by
  have hprivate : ("_" ++ owner ++ "__").toList.head? = some '_' := by
    rw [String.append_assoc, String.toList_append]
    rfl
  refine ⟨?_, ?_, ?_⟩
  · simp [isPrivate, startsWith_eq_false h _ hprivate]
  · simp [isUnderscored, startsWith_eq_false h "_" rfl]
  · simp [isSpecial, startsWith_eq_false h "__" rfl]

/-- The members of an enumeration as they are read, with their values. -/
def readMembers (members : List String) : Pairs Json :=
  members.map fun m => (compatibleForm m, .text m)

lemma names_readMembers (members : List String) :
    (readMembers members).names = members.map compatibleForm := by
  rw [Pairs.names, readMembers, List.map_map]
  rfl

/-- What the body of an enumeration declares. -/
def memberNames (members : List String) : Pairs Object :=
  members.map fun m => (compatibleForm m, .value (.text m))

lemma names_memberNames (members : List String) :
    Pairs.names (memberNames members) = members.map compatibleForm := by
  rw [Pairs.names, memberNames, List.map_map]
  rfl

/-- What the members of an enumeration are checked for: as they are read they do not begin with an
underscore. -/
def ArePlain (members : List String) : Prop :=
  ∀ m ∈ members, (compatibleForm m).toList.head? ≠ some '_'

lemma arePlain_of_isAccepted (he : e.IsAccepted) :
    ArePlain e.members := fun m hm =>
  head?_compatibleForm_ne (isIdentifierChars_of_isIdentifier (he.identifiers m hm))
    (head?_ne_of_startsWith (he.plain m hm))

/-- The body of an enumeration declares its members if their names differ as they are read. -/
lemma outcome?_members (hplain : ArePlain members) (hnodup : names.names.Nodup) :
    outcome? (runStatements .enumeration outer ⟨some owner, names, typed⟩
      (members.map memberStatement)) d =
      if (names.names ++ members.map compatibleForm).Nodup then
        some (⟨some owner, names ++ memberNames members, typed⟩, d)
      else none := by
  induction members generalizing names with
  | nil =>
    rw [List.map_nil, List.map_nil, List.append_nil, if_pos hnodup, runStatements, memberNames,
      List.map_nil, List.append_nil]
    rfl
  | cons m members ih =>
    -- a member is declared under its own name, and only its like can refuse it
    have hm := hplain m (by simp)
    have hbound : Scope.outerName ⟨some owner, names, typed⟩ (compatibleForm m) =
        compatibleForm m := boundName_of_plain hm owner
    obtain ⟨hprivate, hunderscored, hspecial⟩ := isMemberName_of_plain hm owner
    have hfault : memberFault? owner names.names (compatibleForm m) =
        if compatibleForm m ∈ names.names then some .wrongType else none := by
      simp [memberFault?, hprivate, hunderscored, hspecial]
    rw [List.map_cons, runStatements, outcome?_bind, memberStatement, runStatement]
    simp only [eval, pure_bind]
    unfold bindMember
    rw [Option.getD_some, hbound, hfault]
    by_cases hmem : compatibleForm m ∈ names.names
    · -- no name is declared twice
      have hdup : ¬(names.names ++ (m :: members).map compatibleForm).Nodup := by
        intro h
        exact (List.nodup_append.1 h).2.2 _ hmem _ (by simp) rfl
      rw [if_pos hmem, if_neg hdup]
      rfl
    · have hput : names.put (compatibleForm m) (.value (.text m)) =
          names ++ [(compatibleForm m, .value (.text m))] := Pairs.put_of_not_mem hmem _
      have hnames : (names.put (compatibleForm m) (.value (.text m))).names =
          names.names ++ [compatibleForm m] := by
        rw [Pairs.names_put, if_neg hmem]
      have hput_nodup := Pairs.nodup_names_put hnodup (compatibleForm m) (.value (.text m))
      have hrest := ih (fun n hn => hplain n (by simp [hn])) hput_nodup
      rw [if_neg hmem]
      dsimp only
      rw [outcome?_bind_owner, boundName_of_plain hm, Option.bind_some, hrest, hnames, hput]
      simp only [List.append_assoc, List.map_cons, List.singleton_append, memberNames]

/-! ## Classes of enumerations -/

variable {module : Option Object} {qualified : String} {body : List Statement}

/-- The names that every body has are no members. -/
lemma membersOf_initialNames (owner : String) :
    membersOf owner (initialNames module qualified body) = [] := by
  rw [membersOf, List.filterMap_eq_nil_iff]
  rintro ⟨key, o⟩ hmem
  have hkey : key ∈ bodyNames := mem_bodyNames (List.mem_map_of_mem hmem)
  have hspecial : ∀ n ∈ bodyNames, isSpecial n = true := by decide
  simp [isMemberName, hspecial key hkey]

lemma membersOf_memberNames (hplain : ArePlain members) (owner : String) :
    membersOf owner (memberNames members) = readMembers members := by
  rw [membersOf, memberNames, readMembers, List.filterMap_map, ← List.filterMap_eq_map]
  refine List.filterMap_congr fun m hm => ?_
  obtain ⟨hprivate, hunderscored, hspecial⟩ := isMemberName_of_plain (hplain m hm) owner
  simp [isMemberName, hprivate, hunderscored, hspecial, Object.isAccessor, Object.value?]

lemma membersOf_body (hplain : ArePlain members) (owner : String) :
    membersOf owner (initialNames module qualified body ++ memberNames members) =
      readMembers members := by
  have hinitial : membersOf owner (initialNames module qualified body) = [] :=
    membersOf_initialNames owner
  have hrest := membersOf_memberNames hplain owner
  rw [membersOf] at hinitial hrest
  rw [membersOf, List.filterMap_append, hinitial, hrest, List.nil_append]

/-- Whether there is a class of the members of an enumeration: their names differ as they are read,
and none of them is one that no member has. -/
def HaveClass (members : List String) : Prop :=
  (members.map compatibleForm).Nodup ∧ ∀ m ∈ members, compatibleForm m ∉ forbiddenMembers

instance (members : List String) : Decidable (HaveClass members) :=
  inferInstanceAs (Decidable (_ ∧ _))

/-- What the body of an enumeration has under a name that begins with an underscore, it had before
its members. -/
lemma get?_body (hplain : ArePlain members) (h : name.toList.head? = some '_') :
    Pairs.get? (initialNames module qualified body ++ memberNames members) name =
      (initialNames module qualified body).get? name := by
  have hnone : (memberNames members).get? name = none := by
    rw [Pairs.get?_eq_none_iff, names_memberNames]
    intro hmem
    obtain ⟨m, hm, rfl⟩ := List.mem_map.1 hmem
    exact hplain m hm h
  rw [Pairs.get?_append, hnone, Option.or_none]

lemma bodyFault?_members (hplain : ArePlain members) :
    bodyFault? (initialNames module qualified body ++ memberNames members) = none := by
  have hslots : Pairs.get? (initialNames module qualified body ++ memberNames members) slotsName =
      none := by
    rw [get?_body hplain rfl, get?_initialNames (by decide)]
  have hcell : Pairs.get? (initialNames module qualified body ++ memberNames members) cellName =
      none := by
    rw [get?_body hplain rfl, get?_initialNames (by decide)]
  refine bodyFault?_eq_none qualified hslots ?_ hcell
  rw [get?_body hplain rfl, get?_qualifiedName]

/-- An enumeration has a class unless one of its members is a name that no member has. -/
lemma enumerationFault?_members (hplain : ArePlain members) :
    enumerationFault? owner (initialNames module qualified body ++ memberNames members) = none ↔
      ∀ m ∈ members, compatibleForm m ∉ forbiddenMembers := by
  have hmembers : membersOf owner (initialNames module qualified body ++ memberNames members) =
      readMembers members := membersOf_body hplain owner
  have hnone {special : String} (h : special.toList.head? = some '_') (hs : special ∉ bodyNames) :
      Pairs.get? (initialNames module qualified body ++ memberNames members) special = none := by
    rw [get?_body hplain h, get?_initialNames hs]
  have hmaking : makingNames.any (fun special => (Pairs.get? (initialNames module qualified body ++
      memberNames members) special).any Object.isUncallable) = false := by
    have hall : ∀ special ∈ makingNames, special.toList.head? = some '_' ∧ special ∉ bodyNames := by
      decide
    rw [List.any_eq_false]
    intro special hs
    rw [hnone (hall special hs).1 (hall special hs).2]
    simp
  have horder : orderNames.findSome? (Pairs.get? (initialNames module qualified body ++
      memberNames members)) = none := by
    have hall : ∀ special ∈ orderNames, special.toList.head? = some '_' ∧ special ∉ bodyNames := by
      decide
    rw [List.findSome?_eq_none_iff]
    exact fun special hs => hnone (hall special hs).1 (hall special hs).2
  rw [enumerationFault?, hmembers, names_readMembers, bodyFault?_members hplain, hmaking, horder]
  -- members that no enumeration has are the only fault left
  cases hfind : forbiddenMembers.find? (members.map compatibleForm).contains with
  | some found =>
    have hmem := List.mem_of_find?_eq_some hfind
    have hcontains := List.find?_some hfind
    rw [List.contains_iff_mem] at hcontains
    obtain ⟨m, hm, rfl⟩ := List.mem_map.1 hcontains
    exact ⟨nofun, fun h => absurd hmem (h m hm)⟩
  | none =>
    rw [List.find?_eq_none] at hfind
    refine ⟨fun _ m hm hforbidden => hfind _ hforbidden ?_, fun _ => by simp⟩
    rw [List.contains_iff_mem]
    exact List.mem_map_of_mem hm

/-- The class of an enumeration. -/
def enumClass (outer : String) (e : EnumDeclaration) : Object :=
  .enumeration ⟨outer ++ compatibleForm e.name, readMembers e.members⟩

lemma outcome?_classOf (hplain : ArePlain members) :
    outcome? (classOf .enumeration name qualified ⟨some owner,
      initialNames module qualified body ++ memberNames members, typed⟩) d =
      if ∀ m ∈ members, compatibleForm m ∉ forbiddenMembers then
        some (.enumeration ⟨qualified, readMembers members⟩, d)
      else none := by
  have hfault : enumerationFault? name
      (initialNames module qualified body ++ memberNames members) = none ↔
        ∀ m ∈ members, compatibleForm m ∉ forbiddenMembers := enumerationFault?_members hplain
  have hqualified : Pairs.get? (initialNames module qualified body ++ memberNames members)
      qualifiedName = some (.value (.text qualified)) := by
    rw [get?_body hplain rfl, get?_qualifiedName]
  have hmembers : membersOf name (initialNames module qualified body ++ memberNames members) =
      readMembers members := membersOf_body hplain name
  rw [classOf]
  dsimp only
  split_ifs with h
  · rw [hfault.2 h, hqualified, hmembers]
    rfl
  · cases hf : enumerationFault? name
        (initialNames module qualified body ++ memberNames members) with
    | none => exact absurd (hfault.1 hf) h
    | some fault => rfl

/-- The name of the object that enumerations are made from. -/
def baseName : String := "Enum"

lemma outcome?_under {scope : Scope} (h : outcome? (scope.find name) d = some (o, d)) :
    outcome? (Option.mapM (eval scope) (some (.name name))) d = some (some o, d) := by
  show outcome? (some <$> eval scope (.name name)) d = _
  rw [outcome?_map, eval, h]
  rfl

/-- An enumeration is declared if its members make a class. -/
lemma outcome?_enumStatement (hplain : ArePlain e.members) (hbase : names.get? baseName = none)
    (hd : d.names.get? baseName = some (.builtin .enumeration)) :
    outcome? (runStatement .plain outer ⟨some owner, names, typed⟩ (enumStatement e)) d =
      if HaveClass e.members then
        some (⟨some owner, names.put (boundName owner (compatibleForm e.name)) (enumClass outer e),
          typed⟩, d)
      else none := by
  have hfind : outcome? (Scope.find ⟨some owner, names, typed⟩ "Enum") d =
      some (.builtin .enumeration, d) := outcome?_find_script hbase hd
  have hunder := outcome?_under hfind
  -- what every body has begins with an underscore, and no member does
  have hbody : ∀ module : Option Object,
      ((initialNames module (outer ++ compatibleForm e.name)
        (e.members.map memberStatement)).names ++ e.members.map compatibleForm).Nodup ↔
        (e.members.map compatibleForm).Nodup := by
    intro module
    rw [List.nodup_append]
    refine ⟨fun h => h.2.1, fun h => ⟨nodup_initialNames, h, ?_⟩⟩
    rintro special hs _ hname rfl
    obtain ⟨m, hm, rfl⟩ := List.mem_map.1 hname
    exact hplain m hm (head?_of_mem_bodyNames (mem_bodyNames hs))
  rw [enumStatement, runStatement]
  simp only [evalAll, outcome?_bind, outcome?_pure, Option.bind_some, hunder, baseOf, outcome?_get]
  rw [outcome?_members hplain nodup_initialNames]
  by_cases hnodup : (e.members.map compatibleForm).Nodup
  · rw [if_pos ((hbody _).2 hnodup), Option.bind_some]
    dsimp only
    rw [outcome?_classOf hplain]
    by_cases hforbidden : ∀ m ∈ e.members, compatibleForm m ∉ forbiddenMembers
    · rw [if_pos hforbidden, if_pos (show HaveClass e.members from ⟨hnodup, hforbidden⟩)]
      rfl
    · rw [if_neg hforbidden, if_neg fun h : HaveClass e.members => hforbidden h.2]
      rfl
  · rw [if_neg fun h => hnodup ((hbody _).1 h), if_neg fun h : HaveClass e.members => hnodup h.1]
    rfl

/-- No enumeration is made from one that has members. -/
lemma outcome?_enumStatement_of_class {other : EnumDeclaration} {outer' : String}
    (hbase : names.get? baseName = some (enumClass outer' other)) (hother : other.members ≠ []) :
    outcome? (runStatement .plain outer ⟨some owner, names, typed⟩ (enumStatement e)) d = none := by
  have hfind : outcome? (Scope.find ⟨some owner, names, typed⟩ "Enum") d =
      some (enumClass outer' other, d) := outcome?_find_own hbase
  have hunder := outcome?_under hfind
  have hmembers : (readMembers other.members).isEmpty = false := by
    obtain ⟨m, members, hm⟩ := List.exists_cons_of_ne_nil hother
    rw [hm]
    rfl
  rw [enumStatement, runStatement]
  simp only [evalAll, outcome?_bind, outcome?_pure, Option.bind_some, hunder, baseOf, enumClass,
    hmembers]
  rfl

/-! ## Classes one after the other -/

/-- Whether there are classes of all enumerations: of the members of each, and as long as others
follow, none takes the name that enumerations are made from. -/
def HaveClasses (owner : String) (enums : List EnumDeclaration) : Prop :=
  (∀ e ∈ enums, HaveClass e.members) ∧
    ∀ e ∈ enums.dropLast, boundName owner (compatibleForm e.name) ≠ baseName

instance (owner : String) (enums : List EnumDeclaration) : Decidable (HaveClasses owner enums) :=
  inferInstanceAs (Decidable (_ ∧ _))

/-- The classes of enumerations, with the names that they are declared under. -/
def enumClasses (owner outer : String) (enums : List EnumDeclaration) : Pairs Object :=
  enums.map fun e => (boundName owner (compatibleForm e.name), enumClass outer e)

lemma putAll_enumClasses_cons (names : Pairs Object) (owner outer : String) (e : EnumDeclaration)
    (enums : List EnumDeclaration) : names.putAll (enumClasses owner outer (e :: enums)) =
      (names.put (boundName owner (compatibleForm e.name)) (enumClass outer e)).putAll
        (enumClasses owner outer enums) := by
  rw [enumClasses, List.map_cons, Pairs.putAll, List.foldl_cons, enumClasses, Pairs.putAll]

/-- The classes of a table are made one after the other. -/
lemma outcome?_enums (he : ∀ e ∈ enums, e.IsAccepted) (hbase : names.get? baseName = none)
    (hd : d.names.get? baseName = some (.builtin .enumeration)) :
    outcome? (runStatements .plain outer ⟨some owner, names, typed⟩ (enums.map enumStatement)) d =
      if HaveClasses owner enums then
        some (⟨some owner, names.putAll (enumClasses owner outer enums), typed⟩, d)
      else none := by
  induction enums generalizing names with
  | nil =>
    have hnil : HaveClasses owner [] := ⟨nofun, nofun⟩
    rw [if_pos hnil, List.map_nil, runStatements]
    rfl
  | cons e enums ih =>
    have haccepted := he e (by simp)
    have hplain := arePlain_of_isAccepted haccepted
    rw [List.map_cons, runStatements, outcome?_bind, outcome?_enumStatement hplain hbase hd]
    by_cases hclass : HaveClass e.members
    · rw [if_pos hclass, Option.bind_some]
      dsimp only
      by_cases hname : boundName owner (compatibleForm e.name) = baseName
      · cases enums with
        | nil =>
          have hall : HaveClasses owner [e] := ⟨by simpa using hclass, nofun⟩
          rw [if_pos hall, List.map_nil, runStatements, putAll_enumClasses_cons]
          rfl
        | cons e' enums =>
          -- the next enumeration would be made from this one
          have hnot : ¬HaveClasses owner (e :: e' :: enums) := fun h => h.2 e (by simp) hname
          have hbound : (names.put (boundName owner (compatibleForm e.name))
              (enumClass outer e)).get? baseName = some (enumClass outer e) := by
            rw [hname, Pairs.get?_put_self]
          rw [if_neg hnot, List.map_cons, runStatements, outcome?_bind,
            outcome?_enumStatement_of_class hbound haccepted.nonempty]
          rfl
      · have hrest : (names.put (boundName owner (compatibleForm e.name))
            (enumClass outer e)).get? baseName = none := by
          rw [Pairs.get?_put_of_ne hname, hbase]
        have hiff : HaveClasses owner (e :: enums) ↔ HaveClasses owner enums := by
          cases enums with
          | nil => exact ⟨fun _ => ⟨nofun, nofun⟩, fun _ => ⟨by simpa using hclass, nofun⟩⟩
          | cons e' enums =>
            constructor
            · rintro ⟨hclasses, hnames⟩
              exact ⟨(List.forall_mem_cons.1 hclasses).2, (List.forall_mem_cons.1 hnames).2⟩
            · rintro ⟨hclasses, hnames⟩
              exact ⟨List.forall_mem_cons.2 ⟨hclass, hclasses⟩,
                List.forall_mem_cons.2 ⟨hname, hnames⟩⟩
        rw [ih (fun d hd => he d (by simp [hd])) hrest]
        simp only [hiff, putAll_enumClasses_cons]
    · have hnot : ¬HaveClasses owner (e :: enums) := fun h => hclass (h.1 e (by simp))
      rw [if_neg hclass, if_neg hnot]
      rfl

/-! ## The container -/

/-- The last enumeration that is declared under a name. -/
def declaredAs? (owner : String) (enums : List EnumDeclaration) (name : String) :
    Option EnumDeclaration :=
  enums.reverse.find? fun e => boundName owner (compatibleForm e.name) == name

/-- What the body of the container has under a name. -/
lemma get?_containerNames (owner outer : String) (enums : List EnumDeclaration)
    (names : Pairs Object) (name : String) : (names.putAll (enumClasses owner outer enums)).get? name =
      ((declaredAs? owner enums name).map (enumClass outer)).or (names.get? name) := by
  have hfind (enums : List EnumDeclaration) : (enumClasses owner outer enums).get? name =
      (enums.find? fun e => boundName owner (compatibleForm e.name) == name).map
        (enumClass outer) := by
    induction enums with
    | nil => rfl
    | cons e enums ih =>
      rw [enumClasses] at ih
      rw [enumClasses, List.map_cons, Pairs.get?_cons, List.find?_cons, ih]
      by_cases h : boundName owner (compatibleForm e.name) = name
      · rw [if_pos h, beq_iff_eq.2 h]
        rfl
      · rw [if_neg h, beq_eq_false_iff_ne.2 h]
  have hreverse : (enumClasses owner outer enums).reverse =
      enumClasses owner outer enums.reverse := by
    rw [enumClasses, enumClasses, List.map_reverse]
  rw [Pairs.get?_putAll, hreverse, hfind, declaredAs?]

/-- There is a class of the container unless an enumeration has a name there that means something
else to every class. -/
lemma bodyFault?_container : bodyFault? ((initialNames module qualified body).putAll
      (enumClasses owner outer enums)) = none ↔
      ∀ special ∈ unusableFields, declaredAs? owner enums special = none := by
  have hall : unusableFields = [slotsName, qualifiedName, cellName] := rfl
  have hslots := get?_containerNames owner outer enums (initialNames module qualified body)
    slotsName
  have hqualified := get?_containerNames owner outer enums (initialNames module qualified body)
    qualifiedName
  have hcell := get?_containerNames owner outer enums (initialNames module qualified body) cellName
  rw [get?_initialNames (by decide), Option.or_none] at hslots hcell
  rw [get?_qualifiedName] at hqualified
  have hcontains : ((initialNames module qualified body).putAll
      (enumClasses owner outer enums)).names.contains cellName =
      (declaredAs? owner enums cellName).isSome := by
    rw [Bool.eq_iff_iff, List.contains_iff_mem, ← not_iff_not, ← Pairs.get?_eq_none_iff, hcell]
    simp
  rw [bodyFault?, slotsFault?, hslots, hqualified, hcontains, hall, List.forall_mem_cons,
    List.forall_mem_cons, List.forall_mem_singleton]
  -- a class lists no attributes and is no text
  cases declaredAs? owner enums slotsName <;> cases declaredAs? owner enums qualifiedName <;>
    cases declaredAs? owner enums cellName <;> simp [enumClass, slotsOf?]

/-- Whether the script of an Enum table runs to its end. -/
def Runs (table : String) (enums : List EnumDeclaration) : Prop :=
  HaveClasses (containerAs table) enums ∧
    ∀ special ∈ unusableFields, declaredAs? (containerAs table) enums special = none

instance (table : String) (enums : List EnumDeclaration) : Decidable (Runs table enums) :=
  inferInstanceAs (Decidable (_ ∧ _))

/-- What the body of the container declares. -/
def containerNames (table module : String) (enums : List EnumDeclaration) : Pairs Object :=
  (initialNames (some (.value (.text module))) (containerAs table)
    (containerBody table enums)).putAll
    (enumClasses (containerAs table) (containerAs table ++ ".") enums)

/-- What the script of an Enum table declares if it runs to its end. -/
def enumDeclared (table module : String) (enums : List EnumDeclaration) : Declared where
  names := Pairs.put (containerAs table)
    (.group (containerAs table) (containerNames table module enums) [])
    [(scriptNameName, .value (.text module)), ("Enum", .builtin .enumeration),
      ("register_enums", .builtin .registration)]
  containers := [containerOf (containerAs table) (containerNames table module enums)]
  tables := []

/-- The container is declared if there are classes of its enumerations and of itself. -/
lemma outcome?_container (he : ∀ e ∈ enums, e.IsAccepted) {text : String}
    (hd : d.names.get? baseName = some (.builtin .enumeration))
    (hdecorator : d.names.get? "register_enums" = some (.builtin .registration))
    (hmodule : d.names.get? scriptNameName = some (.value (.text text))) :
    outcome? (runStatement .plain "" .outermost (.declareClass [.name "register_enums"]
      (containerAs table) none (containerBody table enums))) d =
      if Runs table enums then some (.outermost, { d with
        names := d.names.put (containerAs table)
          (.group (containerAs table) (containerNames table text enums) [])
        containers := d.containers ++
          [containerOf (containerAs table) (containerNames table text enums)] })
      else none := by
  have hfind : outcome? (evalAll .outermost [.name "register_enums"]) d =
      some ([.builtin .registration], d) := by
    have hscript : d.names.get? (Scope.outermost.outerName "register_enums") =
        some (.builtin .registration) := hdecorator
    rw [evalAll, outcome?_bind, eval, outcome?_find, hscript]
    rfl
  have hbase : (initialNames (some (.value (.text text))) (containerAs table)
      (containerBody table enums)).get? baseName = none := get?_initialNames (by decide)
  have hdescription (scope : Scope) : outcome? (runStatement .plain (containerAs table ++ ".") scope
      (.evaluate (.constant (.text (containerDescription table))))) d = some (scope, d) := rfl
  have hbody : outcome? (runStatements .plain (containerAs table ++ ".") ⟨some (containerAs table),
      initialNames (some (.value (.text text))) (containerAs table) (containerBody table enums), []⟩
      (containerBody table enums)) d =
      if HaveClasses (containerAs table) enums then
        some (⟨some (containerAs table), containerNames table text enums, []⟩, d)
      else none := by
    rw [containerBody, runStatements, outcome?_bind, hdescription, Option.bind_some]
    exact outcome?_enums he hbase hd
  have hfault : bodyFault? (containerNames table text enums) = none ↔
      ∀ special ∈ unusableFields, declaredAs? (containerAs table) enums special = none :=
    bodyFault?_container
  rw [outcome?_group hfind hmodule, hbody]
  by_cases hclasses : HaveClasses (containerAs table) enums
  · rw [if_pos hclasses, Option.bind_some]
    by_cases hspecial : ∀ special ∈ unusableFields,
        declaredAs? (containerAs table) enums special = none
    · have hruns : Runs table enums := ⟨hclasses, hspecial⟩
      rw [if_pos (hfault.2 hspecial), if_pos hruns]
      rfl
    · rw [if_neg (hspecial ∘ hfault.1), if_neg fun h : Runs table enums => hspecial h.2]
  · rw [if_neg hclasses, if_neg fun h : Runs table enums => hclasses h.1]
    rfl

/-- The script of an Enum table, statement by statement. -/
lemma outcome?_enumScript (table : String) (he : ∀ e ∈ enums, e.IsAccepted) (module : String) :
    outcome? (runStatements .plain "" .outermost (scriptStatements table enums)) (.start module) =
      if Runs table enums then some (.outermost, enumDeclared table module enums) else none := by
  have henum : outcome? (runStatement .plain "" .outermost (.useNames "enum" [("Enum", "Enum")]))
      (.start module) = some (.outermost, ⟨[(scriptNameName, .value (.text module)),
        ("Enum", .builtin .enumeration)], [], []⟩) := rfl
  have hruntime : outcome? (runStatement .plain "" .outermost
      (.useNames "excel_database.runtime" [("register_enums", "register_enums")]))
      ⟨[(scriptNameName, .value (.text module)), ("Enum", .builtin .enumeration)], [], []⟩ =
      some (.outermost, ⟨[(scriptNameName, .value (.text module)), ("Enum", .builtin .enumeration),
        ("register_enums", .builtin .registration)], [], []⟩) := rfl
  -- the names that are taken from other modules come first
  rw [scriptStatements, runStatements, outcome?_bind, henum, Option.bind_some]
  dsimp only
  rw [runStatements, outcome?_bind, hruntime, Option.bind_some]
  dsimp only
  rw [runStatements, outcome?_bind, outcome?_container he rfl rfl rfl]
  by_cases hruns : Runs table enums
  · rw [if_pos hruns, if_pos hruns, Option.bind_some, runStatements]
    rfl
  · rw [if_neg hruns, if_neg hruns]
    rfl

/-! ## The script -/

/-- Whether the script of an Enum table can be loaded: it is well formed and runs to its end. -/
def Loads (table : String) (enums : List EnumDeclaration) : Prop :=
  (∀ e ∈ enums, isBindable (compatibleForm e.name) = true) ∧ Runs table enums

instance (table : String) (enums : List EnumDeclaration) : Decidable (Loads table enums) :=
  inferInstanceAs (Decidable (_ ∧ _))

variable (module : String) (h : isIdentifier table = true) (he : ∀ e ∈ enums, e.IsAccepted)
include h he

/-- What a script that can be loaded declares. -/
theorem run_enumScript (hloads : Loads table enums) :
    run module (lines (enumScriptTexts table enums)) = (enumDeclared table module enums, none) := by
  have hrun := outcome?_enumScript table he module
  have hstatements := statements?_enumScript h he
  rw [if_pos hloads.2] at hrun
  rw [if_pos hloads.1] at hstatements
  exact run_of_outcome? hstatements hrun

/-- A script that cannot be loaded fails. -/
theorem run_enumScript_of_not_loads (hloads : ¬Loads table enums) :
    ∃ declared fault,
      run module (lines (enumScriptTexts table enums)) = (declared, some fault) := by
  have hstatements := statements?_enumScript h he
  by_cases hbindable : ∀ e ∈ enums, isBindable (compatibleForm e.name) = true
  · have hruns : ¬Runs table enums := fun hruns => hloads ⟨hbindable, hruns⟩
    have hrun := outcome?_enumScript table he module
    rw [if_neg hruns] at hrun
    rw [if_pos hbindable] at hstatements
    exact run_of_outcome?_none hstatements hrun
  · rw [if_neg hbindable] at hstatements
    rw [run, hstatements]
    exact ⟨.nothing, .malformed, rfl⟩

end SheetCompiler.Script
