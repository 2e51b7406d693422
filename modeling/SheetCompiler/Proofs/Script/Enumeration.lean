import SheetCompiler.Proofs.Script.Line
import SheetCompiler.Proofs.Table.Enum

/-!
# Statements of the script of an Enum table

The script of an Enum table declares a class for its container and in it a class for each of its
enumerations. The names of classes and members are read in their compatible forms. That is all there
is to go wrong with the script as a text: a class cannot be given the name `__debug__`.

Main statement: `statements?_enumScript`.
-/

namespace SheetCompiler.Script

open SheetCompiler.Text SheetCompiler.Template

/-- The name of the container of the enumerations of a table. -/
def containerName (table : String) : String := "Em" ++ table

/-- The name that the container of the enumerations of a table is declared under. -/
def containerAs (table : String) : String := compatibleForm (containerName table)

/-- The description of the container of the enumerations of a table. -/
def containerDescription (table : String) : String :=
  "Enumerations declared by the " ++ table ++ " table."

-- the equations Lean derives for this definition would evaluate its literals character by character
lemma containerDescription_eq (table : String) : containerDescription table =
    "Enumerations declared by the " ++ table ++ " table." := rfl

/-- The statement of a member of an enumeration. -/
def memberStatement (member : String) : Statement :=
  .assign (compatibleForm member) (.constant (.text member))

/-- The statement of an enumeration. -/
def enumStatement (e : EnumDeclaration) : Statement :=
  .declareClass [] (compatibleForm e.name) (some (.name "Enum")) (e.members.map memberStatement)

/-- The statements of the container of the enumerations of a table. -/
def containerBody (table : String) (enums : List EnumDeclaration) : List Statement :=
  .evaluate (.constant (.text (containerDescription table))) :: enums.map enumStatement

/-- The statements of the script of an Enum table. -/
def scriptStatements (table : String) (enums : List EnumDeclaration) : List Statement := [
  .useNames "enum" [("Enum", "Enum")],
  .useNames "excel_database.runtime" [("register_enums", "register_enums")],
  .declareClass [.name "register_enums"] (containerAs table) none (containerBody table enums)]

/-! ## Names -/

variable {table name : String} {e : EnumDeclaration} {enums : List EnumDeclaration}

lemma toList_containerName : (containerName table).toList = 'E' :: 'm' :: table.toList := by
  rw [containerName, String.toList_append]
  rfl

lemma isIdentifier_containerName (h : isIdentifier table = true) :
    isIdentifier (containerName table) = true :=
  isIdentifier_append (by decide) (all_continuesIdentifier h) (by decide +kernel)

lemma head?_containerName : (containerName table).toList.head? ≠ some '_' := by
  rw [toList_containerName, List.head?_cons, Ne, Option.some.injEq]
  decide

/-! ## Lines -/

/-- The depth of the members of enumerations. -/
def memberDepth : Depth := ⟨8, 8⟩

/-- The line of a member, which is a statement. -/
def memberLine (member : String) : Depth × Line :=
  (memberDepth, .statements [memberStatement member])

/-- The lines of an enumeration that hold tokens. -/
def enumLines (e : EnumDeclaration) : List (Depth × Line) :=
  (containerDepth, .head (.group (compatibleForm e.name) (some (.name "Enum"))) []) ::
    e.members.map memberLine

/-- The lines of the script in front of its container. -/
lemma reads_imports : Reads
    ["from enum import Enum", "", "from excel_database.runtime import register_enums", "", "",
      "@register_enums"]
    [(.outermost, .statements [.useNames "enum" [("Enum", "Enum")]]),
      (.outermost, .statements
        [.useNames "excel_database.runtime" [("register_enums", "register_enums")]]),
      (.outermost, .decorator (.name "register_enums"))] := by
  have htokens : tokens "from enum import Enum".toList =
      some [.word "from", .name "enum", .word "import", .name "Enum"] := by
    rw [String.toList_ofList]
    rfl
  have henum : Reads ["from enum import Enum"]
      [(.outermost, .statements [.useNames "enum" [("Enum", "Enum")]])] := .literal htokens rfl rfl
  have htokens' : tokens "from excel_database.runtime import register_enums".toList =
      some [.word "from", .name "excel_database", .mark '.', .name "runtime", .word "import",
        .name "register_enums"] := by
    rw [String.toList_ofList]
    rfl
  have hruntime : Reads ["from excel_database.runtime import register_enums"]
      [(.outermost, .statements
        [.useNames "excel_database.runtime" [("register_enums", "register_enums")]])] :=
    .literal htokens' rfl rfl
  have htokens'' : tokens "@register_enums".toList = some [.mark '@', .name "register_enums"] := by
    rw [String.toList_ofList]
    rfl
  have hdecorator : Reads ["@register_enums"] [(.outermost, .decorator (.name "register_enums"))] :=
    .literal htokens'' rfl rfl
  exact henum.append (reads_blankLine.append (hruntime.append (reads_blankLine.append
    (reads_blankLine.append hdecorator))))

lemma reads_containerHead (h : isIdentifier table = true) :
    Reads ["class Em" ++ table ++ ":"]
      [(.outermost, .head (.group (containerAs table) none) [])] := by
  have hname := isIdentifier_containerName h
  have hhead := reads_groupHead hname (isBindable_compatibleForm hname head?_containerName)
  have hstart : "class " ++ "Em" = "class Em" := by decide
  rwa [containerName, ← String.append_assoc, hstart] at hhead

lemma reads_containerDescription (h : isIdentifier table = true) :
    Reads ["    \"\"\"Enumerations declared by the " ++ table ++ " table.\"\"\""]
      [(containerDepth,
        .statements [.evaluate (.constant (.text (containerDescription table)))])] := by
  have hopened : "    \"\"\"" ++ "Enumerations declared by the " =
      "    \"\"\"Enumerations declared by the " := by decide
  have hclosed : " table." ++ "\"\"\"" = " table.\"\"\"" := by decide
  have htext := reads_description "Enumerations declared by the " h (by decide)
    (by decide)
  rwa [String.append_assoc, String.append_assoc, hclosed, ← String.append_assoc,
    ← String.append_assoc, hopened, ← containerDescription_eq] at htext

/-- The tokens of the head of an enumeration. -/
lemma tokens_enumHead (h : isIdentifier name = true) :
    tokens ("    class " ++ name ++ "(Enum):").toList =
      some [.word "class", .name (compatibleForm name), .mark '(', .name "Enum", .mark ')',
        .mark ':'] := by
  have hlist : ("    class " ++ name ++ "(Enum):").toList =
      "    ".toList ++ ("class".toList ++ ' ' :: (name.toList ++
        '(' :: ("Enum".toList ++ [')', ':']))) := by
    rw [String.toList_append, String.toList_append]
    rfl
  have hbase : compatibleForm "Enum" = "Enum" := compatibleForm_of_ascii (by decide)
  have hhead := HasTokens.derivedHead h (by decide : isIdentifier "Enum" = true)
  rw [hbase] at hhead
  rw [hlist]
  exact tokens_of_hasTokens hhead.blank.blank.blank.blank

lemma reads_enumHead (h : isIdentifier name = true)
    (hb : isBindable (compatibleForm name) = true) :
    Reads ["    class " ++ name ++ "(Enum):"]
      [(containerDepth, .head (.group (compatibleForm name) (some (.name "Enum"))) [])] := by
  refine .line (tokens_enumHead h) (line?_derivedHead hb) ?_
  rw [String.toList_append, String.toList_append]
  rfl

/-- A class cannot be given the name `__debug__`. -/
lemma readLines_enumHead_debug (h : isIdentifier name = true)
    (hb : isBindable (compatibleForm name) = false) (rest : List (List Char)) :
    readLines [] (("    class " ++ name ++ "(Enum):").toList :: rest) = none := by
  have hname : compatibleForm name = "__debug__" := by
    rw [isBindable, decide_eq_false_iff_not, not_not] at hb
    exact hb
  have htokens := tokens_enumHead h
  rw [hname] at htokens
  exact readLines_of_not_line htokens rfl rfl rest

lemma reads_member (h : isIdentifier name = true) (hplain : startsWith "_" name = false) :
    Reads [memberText name] [memberLine name] := by
  have hchars := isIdentifierChars_of_isIdentifier h
  have hlist : (memberText name).toList =
      "        ".toList ++ (name.toList ++ ' ' :: '=' :: ' ' :: '"' ::
        (name.toList ++ '"' :: [])) := by
    unfold memberText
    simp only [String.toList_append, List.append_assoc]
    rfl
  have hbindable := isBindable_compatibleForm h (head?_ne_of_startsWith hplain)
  have htokens : tokens (memberText name).toList =
      some [.name (compatibleForm name), .mark '=', .constant (.text name)] := by
    have hne : name.toList ≠ [] := by
      intro hnil
      rw [hnil] at hchars
      cases hchars
    have hend : HasTokens 0 [] [] := .nil
    have htext := HasTokens.text hne (notMem_of_isIdentifierChars hchars (by decide))
      (notMem_of_isIdentifierChars hchars (by decide))
      (notMem_of_isIdentifierChars hchars (by decide)) hend
    rw [String.ofList_toList] at htext
    have hvalue : HasTokens 0 ('=' :: ' ' :: '"' :: (name.toList ++ '"' :: []))
        [.mark '=', .constant (.text name)] := .cons rfl rfl le_rfl htext.blank
    have hline := HasTokens.name h rfl hvalue.blank
    rw [hlist]
    exact tokens_of_hasTokens hline.blank.blank.blank.blank.blank.blank.blank.blank
  refine .line htokens (line?_assign hbindable name) ?_
  rw [hlist, takeWhile_isSpace_name h rfl]
  rfl

lemma reads_enum (he : e.IsAccepted) (hb : isBindable (compatibleForm e.name) = true) :
    Reads (enumTexts e) (enumLines e) := by
  have hmembers : Reads (e.members.map memberText) (e.members.map memberLine) := by
    have hall := Reads.flatMap (f := fun m => [memberText m]) (g := fun m => [memberLine m])
      fun m (hm : m ∈ e.members) => reads_member (he.identifiers m hm) (he.plain m hm)
    rwa [← List.map_eq_flatMap, ← List.map_eq_flatMap] at hall
  have hall := (reads_blankLine.append (reads_enumHead he.named hb)).append
    (hmembers.append reads_blankLine)
  rw [List.append_nil] at hall
  exact hall

/-! ## Bodies -/

lemma endsBody_enumLines (enums : List EnumDeclaration) :
    EndsBody memberDepth (enums.flatMap enumLines) := by
  intro p hp
  cases enums with
  | nil => cases hp
  | cons e enums =>
    cases hp
    rfl

/-- Enumerations one after the other. -/
lemma readBody_enums {fuel : Nat} (he : ∀ e ∈ enums, e.members ≠ [])
    (hfuel : (enums.flatMap enumLines).length < fuel) :
    readBody fuel containerDepth [] (enums.flatMap enumLines) =
      some (enums.map enumStatement, []) := by
  induction enums generalizing fuel with
  | nil =>
    obtain ⟨fuel, rfl⟩ := Nat.exists_eq_succ_of_ne_zero (by omega : fuel ≠ 0)
    rfl
  | cons e enums ih =>
    rw [List.flatMap_cons, List.length_append, enumLines, List.length_cons,
      List.length_map] at hfuel
    obtain ⟨fuel, rfl⟩ := Nat.exists_eq_succ_of_ne_zero (by omega : fuel ≠ 0)
    have hrest : readBody fuel containerDepth [] (enums.flatMap enumLines) =
        some (enums.map enumStatement, []) := ih (fun d hd => he d (by simp [hd])) (by omega)
    have hbody : readBody fuel memberDepth []
        (e.members.map memberLine ++ enums.flatMap enumLines) =
          some (e.members.map memberStatement, enums.flatMap enumLines) :=
      readBody_map (endsBody_enumLines enums) (by omega)
    rw [List.flatMap_cons, enumLines, List.cons_append]
    -- a class has a body: the first member is what makes it deeper
    obtain ⟨m, members, hm⟩ := List.exists_cons_of_ne_nil (he e (by simp))
    rw [List.map_cons, enumStatement]
    rw [hm, List.map_cons, List.cons_append] at hbody ⊢
    exact readBody_group rfl hbody hrest

/-- The lines of the script in front of its enumerations. -/
def headLines (table : String) : List (Depth × Line) := [
  (.outermost, .statements [.useNames "enum" [("Enum", "Enum")]]),
  (.outermost, .statements
    [.useNames "excel_database.runtime" [("register_enums", "register_enums")]]),
  (.outermost, .decorator (.name "register_enums")),
  (.outermost, .head (.group (containerAs table) none) []),
  (containerDepth, .statements [.evaluate (.constant (.text (containerDescription table)))])]

/-- The statements of the script. -/
lemma readBody_enumScript (table : String) {fuel : Nat} (he : ∀ e ∈ enums, e.members ≠ [])
    (hfuel : (headLines table ++ enums.flatMap enumLines).length < fuel) :
    readBody fuel .outermost [] (headLines table ++ enums.flatMap enumLines) =
      some (scriptStatements table enums, []) := by
  have hlength : (headLines table).length = 5 := rfl
  rw [List.length_append, hlength] at hfuel
  -- one step for each of the five lines in front, and one for what follows
  obtain ⟨fuel, rfl⟩ : ∃ k, fuel = k + 6 := ⟨fuel - 6, by omega⟩
  have henums : readBody (fuel + 1) containerDepth [] (enums.flatMap enumLines) =
      some (enums.map enumStatement, []) := readBody_enums he (by omega)
  have hbody : readBody (fuel + 2) containerDepth [] ((containerDepth,
      .statements [.evaluate (.constant (.text (containerDescription table)))]) ::
        enums.flatMap enumLines) = some (containerBody table enums, []) :=
    readBody_statements henums
  have hdeeper : containerDepth.compare? .outermost = some .gt := rfl
  have hend : readBody (fuel + 2) .outermost [] [] = some ([], []) := rfl
  have hclass : readBody (fuel + 3) .outermost [.name "register_enums"]
      ((.outermost, .head (.group (containerAs table) none) []) :: (containerDepth,
        .statements [.evaluate (.constant (.text (containerDescription table)))]) ::
          enums.flatMap enumLines) =
      some ([.declareClass [.name "register_enums"] (containerAs table) none
        (containerBody table enums)], []) := readBody_group hdeeper hbody hend
  have hdecorated : readBody (fuel + 4) .outermost []
      ((.outermost, .decorator (.name "register_enums")) ::
        (.outermost, .head (.group (containerAs table) none) []) :: (containerDepth,
          .statements [.evaluate (.constant (.text (containerDescription table)))]) ::
            enums.flatMap enumLines) =
      some ([.declareClass [.name "register_enums"] (containerAs table) none
        (containerBody table enums)], []) := hclass
  exact readBody_statements (readBody_statements hdecorated)

/-! ## Places -/

lemma arePlaced_enums (enums : List EnumDeclaration) (around : Surroundings)
    (before : Option String) (hbefore : before ≠ some "try") :
    arePlaced around (enums.map enumStatement) = true ∧
      areChained before (enums.map enumStatement) = true := by
  have hmembers (members : List String) :
      arePlaced ⟨false, false, true⟩ (members.map memberStatement) = true ∧
        areChained none (members.map memberStatement) = true := by
    refine arePlaced_of_forall (fun s hs => ?_) nofun
    obtain ⟨m, -, rfl⟩ := List.mem_map.1 hs
    rw [memberStatement, Statement.isPlaced]
    · exact ⟨rfl, rfl⟩
    all_goals nofun
  refine arePlaced_of_forall (fun s hs => ?_) hbefore
  obtain ⟨e, -, rfl⟩ := List.mem_map.1 hs
  obtain ⟨hinner, hinner'⟩ := hmembers e.members
  rw [enumStatement, Statement.isPlaced, hinner, hinner']
  exact ⟨rfl, rfl⟩

lemma arePlaced_enumScript (table : String) (enums : List EnumDeclaration) :
    arePlaced ⟨false, false, false⟩ (bodyOf (scriptStatements table enums)) = true ∧
      areChained none (scriptStatements table enums) = true := by
  obtain ⟨hplaced, hchained⟩ := arePlaced_enums enums ⟨false, false, true⟩ none
    (Option.some_ne_none _).symm
  have hbody : bodyOf (scriptStatements table enums) = scriptStatements table enums := rfl
  have hinner : arePlaced ⟨false, false, true⟩ (containerBody table enums) = true := by
    rw [containerBody, arePlaced, hplaced, Statement.isPlaced]
    · rfl
    all_goals
      intros
      contradiction
  have hinner' : areChained none (containerBody table enums) = true := hchained
  rw [hbody, scriptStatements]
  refine ⟨?_, rfl⟩
  simp only [arePlaced, Statement.isPlaced, hinner, hinner']
  decide

/-! ## The script -/

/-- The lines of enumerations are read up to the first one that no class can be given the name
of. -/
lemma readLines_enums (he : ∀ e ∈ enums, e.IsAccepted) :
    readLines [] ((enums.flatMap enumTexts ++ [""]).map String.toList) =
      if ∀ e ∈ enums, isBindable (compatibleForm e.name) = true then
        some (enums.flatMap enumLines)
      else none := by
  have hnot : ∀ e ∈ enums, ¬isBindable (compatibleForm e.name) = true →
      ∀ rest, readLines [] ((enumTexts e).map String.toList ++ rest) = none := by
    intro e hmem hb rest
    rw [Bool.not_eq_true] at hb
    -- an empty line stands in front of the head
    have hhead := readLines_enumHead_debug (he e hmem).named hb
      ((e.members.map memberText ++ [""]).map String.toList ++ rest)
    have hblank := reads_blankLine (("    class " ++ e.name ++ "(Enum):").toList ::
      ((e.members.map memberText ++ [""]).map String.toList ++ rest))
    rw [hhead] at hblank
    rw [enumTexts, List.append_assoc, List.map_append, List.append_assoc]
    exact hblank
  have hall := readLines_flatMap (fun e hmem hb => reads_enum (he e hmem) hb) hnot
    reads_blankLine.readLines_eq
  rw [List.append_nil, ← List.map_append] at hall
  exact hall

lemma all_isLineChar_enumTexts (he : e.IsAccepted) :
    ∀ text ∈ enumTexts e, text.toList.all isLineChar = true := by
  have hname {name : String} (h : isIdentifier name = true) : name.toList.all isLineChar = true :=
    all_isLineChar_of_isIdentifierChars (isIdentifierChars_of_isIdentifier h)
  intro text ht
  rw [enumTexts, List.mem_append, List.mem_append] at ht
  rcases ht with (ht | ht) | ht
  · rcases List.mem_pair.1 ht with rfl | rfl
    · rfl
    · simp only [String.toList_append, List.all_append, hname he.named, Bool.and_eq_true]
      decide
  · obtain ⟨m, hm, rfl⟩ := List.mem_map.1 ht
    unfold memberText
    simp only [String.toList_append, List.all_append, hname (he.identifiers m hm),
      Bool.and_eq_true]
    decide
  · rw [List.mem_singleton.1 ht]
    rfl

lemma all_isLineChar_enumScriptTexts (h : isIdentifier table = true)
    (he : ∀ e ∈ enums, e.IsAccepted) :
    ∀ text ∈ enumScriptTexts table enums, text.toList.all isLineChar = true := by
  have hname := all_isLineChar_of_isIdentifierChars (isIdentifierChars_of_isIdentifier h)
  intro text ht
  rw [enumScriptTexts, List.mem_append, List.mem_append, List.mem_flatMap] at ht
  rcases ht with (ht | ⟨e, hmem, ht⟩) | ht
  · revert text
    simp only [List.forall_mem_cons, List.not_mem_nil, IsEmpty.forall_iff, implies_true,
      String.toList_append, List.all_append, hname, Bool.and_eq_true, and_true]
    and_intros <;> exact all_isLineChar_ofList (by decide)
  · exact all_isLineChar_enumTexts (he e hmem) text ht
  · rw [List.mem_singleton.1 ht]
    rfl

/-- The script is well formed unless a class is to be given the name `__debug__`. -/
theorem statements?_enumScript (h : isIdentifier table = true) (he : ∀ e ∈ enums, e.IsAccepted) :
    statements? (lines (enumScriptTexts table enums)) =
      if ∀ e ∈ enums, isBindable (compatibleForm e.name) = true then
        some (scriptStatements table enums)
      else none := by
  have hchars := all_isLineChar_enumScriptTexts h he
  have hfirst : (lines (enumScriptTexts table enums)).toList.head? ≠ some '\ufeff' := by
    rw [enumScriptTexts, List.append_assoc, List.cons_append]
    exact head?_banner _ _
  -- everything in front of the enumerations is read line by line, whatever follows it
  have hhead := ((reads_banner h).append reads_imports).append
    ((reads_containerHead h).append (reads_containerDescription h))
  have hread := hhead ((enums.flatMap enumTexts ++ [""]).map String.toList)
  rw [readLines_enums he, ← List.map_append, ← List.append_assoc] at hread
  split_ifs at hread ⊢ with hb
  · have hbody := readBody_enumScript table (fun e hm => (he e hm).nonempty) (Nat.lt_succ_self _)
    obtain ⟨hplaced, hchained⟩ := arePlaced_enumScript table enums
    exact statements?_of_reads hchars hfirst hread hbody hplaced hchained
  · exact statements?_of_not_reads hchars hfirst hread

end SheetCompiler.Script
