import SheetCompiler.Proofs.Script.Outcome
import SheetCompiler.Proofs.Script.Known
import SheetCompiler.Registry.Value

/-!
# The script of a Variable table

The script of a Variable table declares a class that gives each constant its type and its value. A
value stands there for itself, but for the infinite ones: they have no digits, and are looked up by a
name among the constants in front of them.

Main statements:

* `statements?_variableScript`: the statements of the script;
* `outcome?_constants`: what the constants are given, one after the other;
* `run_variableScript` and `run_variableScript_of_none`: what the script declares, or that it fails;
* `listing_group`: the constants that are listed.
-/

namespace SheetCompiler

open SheetCompiler.Text SheetCompiler.Number SheetCompiler.Script

/-! ## Names and types -/

/-- The names of the types of constants in scripts. -/
def typeNames : List String := ["int", "float", "bool", "str", "list"]

/-- A name that constants may have without meaning anything else: it is ASCII, does not begin with an
underscore, and is not that of a type. -/
structure IsOrdinaryName (name : String) : Prop where
  ascii : ∀ c ∈ name.toList, isAscii c = true
  plain : startsWith "_" name = false
  untyped : name ∉ typeNames

instance (name : String) : Decidable (IsOrdinaryName name) :=
  decidable_of_iff ((∀ c ∈ name.toList, isAscii c = true) ∧ startsWith "_" name = false ∧
      name ∉ typeNames)
    ⟨fun h => ⟨h.1, h.2.1, h.2.2⟩, fun h => ⟨h.1, h.2, h.3⟩⟩

namespace Constant

/-- The tokens of the type of a constant. -/
def typeTokens (c : Constant) : List Token :=
  if c.literal.isList then [.name "list", .mark '[', .name c.type.typeName, .mark ']']
  else [.name c.type.typeName]

/-- The expression of the type of a constant. -/
def typeExpression (c : Constant) : Expr :=
  if c.literal.isList then .item (.name "list") (.name c.type.typeName)
  else .name c.type.typeName

/-- The statement of a constant. -/
def statement (c : Constant) : Statement :=
  .declare c.name c.typeExpression (some c.literal.expression)

/-- A constant under the name that a script gives it. -/
def bound (c : Constant) : Constant := { c with name := compatibleForm c.name }

lemma bound_of_ascii {c : Constant} (h : ∀ d ∈ c.name.toList, isAscii d = true) : c.bound = c := by
  rw [bound, compatibleForm_of_ascii h]

end Constant

namespace Script

variable {table name : String} {c : Constant} {constants : List Constant}

/-- The name of the group of the constants of a table. -/
def groupName (table : String) : String := "Va" ++ table

/-- The name that the group of the constants of a table is declared under. -/
def groupAs (table : String) : String := compatibleForm (groupName table)

/-- The description of the group of the constants of a table. -/
def groupDescription (table : String) : String := "Constants declared by the " ++ table ++ " table."

-- the equations Lean derives for this definition would evaluate its literals character by character
lemma groupDescription_eq (table : String) :
    groupDescription table = "Constants declared by the " ++ table ++ " table." := rfl

/-- The statements of the group of constants. -/
def groupBody (table : String) (constants : List Constant) : List Statement :=
  .evaluate (.constant (.text (groupDescription table))) :: constants.map Constant.statement

/-- The statements of the script of a Variable table. -/
def variableStatements (table : String) (constants : List Constant) : List Statement :=
  [.declareClass [] (groupAs table) none (groupBody table constants)]

/-! ## Lines -/

lemma isIdentifier_groupName (h : isIdentifier table = true) :
    isIdentifier (groupName table) = true :=
  isIdentifier_append (by decide) (all_continuesIdentifier h) (by decide +kernel)

lemma head?_groupName : (groupName table).toList.head? ≠ some '_' := by
  have hlist : (groupName table).toList = 'V' :: 'a' :: table.toList := by
    rw [groupName, String.toList_append]
    rfl
  rw [hlist, List.head?_cons, Ne, Option.some.injEq]
  decide

lemma reads_groupName (h : isIdentifier table = true) :
    Reads ["class Va" ++ table ++ ":"] [(.outermost, .head (.group (groupAs table) none) [])] := by
  have hname := isIdentifier_groupName h
  have hhead := reads_groupHead hname (isBindable_compatibleForm hname head?_groupName)
  have hstart : "class " ++ "Va" = "class Va" := by decide
  rwa [groupName, ← String.append_assoc, hstart] at hhead

lemma reads_groupDescription (h : isIdentifier table = true) :
    Reads ["    \"\"\"Constants declared by the " ++ table ++ " table.\"\"\""]
      [(containerDepth, .statements [.evaluate (.constant (.text (groupDescription table)))])] := by
  have hopened : "    \"\"\"" ++ "Constants declared by the " =
      "    \"\"\"Constants declared by the " := by decide
  have hclosed : " table." ++ "\"\"\"" = " table.\"\"\"" := by decide
  have htext := reads_description "Constants declared by the " h (by decide) (by decide)
  rwa [String.append_assoc, String.append_assoc, hclosed, ← String.append_assoc,
    ← String.append_assoc, hopened, ← groupDescription_eq] at htext

/-- The type of a constant is read as its tokens. -/
lemma HasTokens.typeName (c : Constant) {rest : List Char} {ts : List Token}
    (h : HasTokens 0 rest ts) :
    HasTokens 0 (c.typeName.toList ++ ' ' :: rest) (c.typeTokens ++ ts) := by
  have hword {opened : Nat} {more : List Char} {us : List Token} (hends : endsWord more = true)
      (hmore : HasTokens opened more us) :
      HasTokens opened (c.type.typeName.toList ++ more) (.name c.type.typeName :: us) := by
    have htoken : wordToken c.type.typeName.toList = .name c.type.typeName := by
      cases c.type <;> rfl
    have hchars : isIdentifierChars c.type.typeName.toList = true := by
      cases c.type <;> decide
    rw [← htoken]
    exact .word hchars hends hmore
  rw [Constant.typeName, Constant.typeTokens]
  split_ifs
  · have hclose : HasTokens 1 (']' :: ' ' :: rest) (.mark ']' :: ts) := .cons rfl rfl le_rfl h.blank
    have hopen : HasTokens 0 ('[' :: (c.type.typeName.toList ++ ']' :: ' ' :: rest))
        (.mark '[' :: .name c.type.typeName :: .mark ']' :: ts) :=
      .cons rfl rfl le_rfl (hword rfl hclose)
    have hlist : wordToken "list".toList = .name "list" := rfl
    have hchars : isIdentifierChars "list".toList = true := by decide
    have hall := HasTokens.word hchars rfl hopen
    have htext : ("list[" ++ c.type.typeName ++ "]").toList ++ ' ' :: rest =
        "list".toList ++ '[' :: (c.type.typeName.toList ++ ']' :: ' ' :: rest) := by
      rw [String.toList_append, String.toList_append, List.append_assoc, List.append_assoc]
      rfl
    rw [hlist] at hall
    rw [htext]
    exact hall
  · exact hword rfl h.blank

lemma expression?_typeTokens (c : Constant) (ts : List Token) :
    expression? (c.typeTokens ++ .mark '=' :: ts) = some (c.typeExpression, .mark '=' :: ts) := by
  rw [Constant.typeTokens, Constant.typeExpression]
  cases c.literal.isList with
  | true => rfl
  | false => rfl

lemma toList_constantText (c : Constant) : (Template.constantText c.declaration).toList =
    "    ".toList ++ (c.name.toList ++ ':' :: ' ' ::
      (c.typeName.toList ++ ' ' :: '=' :: ' ' :: c.literal.text.toList)) := by
  rw [Template.constantText, Constant.declaration]
  simp only [String.toList_append, List.append_assoc]
  rfl

lemma line?_constant (h : isBindable c.name = true) :
    line? (.name c.name :: .mark ':' :: (c.typeTokens ++ .mark '=' :: c.literal.tokens)) =
      some (.statements [c.statement]) := by
  have htype := expression?_typeTokens c c.literal.tokens
  have hvalue := c.literal.wholeExpression?_tokens
  simp [line?, ownLine?, ownStatement?, Statement.isBound, Constant.statement, htype, hvalue, h]

lemma line?_constant_debug (h : isBindable c.name = false) :
    line? (.name c.name :: .mark ':' :: (c.typeTokens ++ .mark '=' :: c.literal.tokens)) = none := by
  have htype := expression?_typeTokens c c.literal.tokens
  have hvalue := c.literal.wholeExpression?_tokens
  have hone : Token.mark ';' ∉
      Token.name c.name :: .mark ':' :: (c.typeTokens ++ .mark '=' :: c.literal.tokens) := by
    have htokens : Token.mark ';' ∉ c.typeTokens := by
      rw [Constant.typeTokens]
      split_ifs <;> simp
    simpa [htokens] using c.literal.semicolon_notMem_tokens
  rw [line?, otherLine?]
  simp [ownLine?, functionHead?, blockHead?, statementsOf?_of_notMem hone, statement?,
    ownStatement?, Statement.isBound, htype, hvalue, h]

/-- The tokens of the line of a constant. -/
lemma tokens_constant (hname : isIdentifier c.name = true) (hlegible : c.literal.IsLegible) :
    Script.tokens (Template.constantText c.declaration).toList =
      some (.name c.bound.name :: .mark ':' :: (c.typeTokens ++ .mark '=' :: c.literal.tokens)) := by
  have hvalue : HasTokens 0 ('=' :: ' ' :: c.literal.text.toList)
      (.mark '=' :: c.literal.tokens) := .cons rfl rfl le_rfl (Literal.hasTokens hlegible).blank
  have htype : HasTokens 0
      (':' :: ' ' :: (c.typeName.toList ++ ' ' :: '=' :: ' ' :: c.literal.text.toList))
      (.mark ':' :: (c.typeTokens ++ .mark '=' :: c.literal.tokens)) :=
    .cons rfl rfl le_rfl (HasTokens.typeName c hvalue).blank
  have hline := HasTokens.name hname rfl htype
  rw [toList_constantText]
  exact tokens_of_hasTokens hline.blank.blank.blank.blank

/-- The line of a constant. -/
lemma reads_constant (hname : isIdentifier c.name = true) (hlegible : c.literal.IsLegible)
    (hb : isBindable c.bound.name = true) :
    Reads [Template.constantText c.declaration]
      [(containerDepth, .statements [c.bound.statement])] := by
  refine .line (tokens_constant hname hlegible) (line?_constant hb) ?_
  rw [toList_constantText, takeWhile_isSpace_name hname rfl]
  rfl

/-- A constant cannot be given the name `__debug__`. -/
lemma readLines_constant_debug (hname : isIdentifier c.name = true)
    (hlegible : c.literal.IsLegible) (hb : isBindable c.bound.name = false)
    (rest : List (List Char)) :
    readLines [] ((Template.constantText c.declaration).toList :: rest) = none := by
  refine readLines_of_not_line (tokens_constant hname hlegible) (line?_constant_debug hb) ?_ rest
  have htype (ts : List Token) : (c.typeTokens ++ ts).foldl openBehind 0 = ts.foldl openBehind 0 := by
    rw [Constant.typeTokens]
    split_ifs <;> rfl
  have hmarks (ts : List Token) : (Token.name c.bound.name :: .mark ':' :: ts).foldl openBehind 0 =
      ts.foldl openBehind 0 := rfl
  have hvalue (ts : List Token) : (Token.mark '=' :: ts).foldl openBehind 0 =
      ts.foldl openBehind 0 := rfl
  rw [hmarks, htype, hvalue, c.literal.foldl_openBehind_tokens]

/-! ## Statements -/

/-- The lines of the script that hold tokens. -/
def variableLines (table : String) (constants : List Constant) : List (Depth × Line) :=
  (.outermost, .head (.group (groupAs table) none) []) ::
    (containerDepth, .statements [.evaluate (.constant (.text (groupDescription table)))]) ::
    constants.map fun c => (containerDepth, .statements [c.statement])

lemma readBody_variableScript (table : String) (constants : List Constant) :
    readBody ((variableLines table constants).length + 1) .outermost []
      (variableLines table constants) = some (variableStatements table constants, []) := by
  have hconstants : readBody (constants.length + 1) containerDepth []
      (constants.map fun c => (containerDepth, .statements [c.statement])) =
        some (constants.map Constant.statement, []) := by
    have hmap : readBody (constants.length + 1) containerDepth []
        ((constants.map fun c => (containerDepth, Line.statements [c.statement])) ++ []) =
          some (constants.map Constant.statement, []) := readBody_map nofun (by omega)
    rwa [List.append_nil] at hmap
  have hbody : readBody (constants.length + 2) containerDepth []
      ((containerDepth, .statements [.evaluate (.constant (.text (groupDescription table)))]) ::
        constants.map fun c => (containerDepth, .statements [c.statement])) =
        some (groupBody table constants, []) := readBody_statements hconstants
  have hend : readBody (constants.length + 2) .outermost [] [] = some ([], []) := rfl
  have hlength : (variableLines table constants).length + 1 = constants.length + 3 := by
    rw [variableLines, List.length_cons, List.length_cons, List.length_map]
  rw [hlength]
  exact readBody_group rfl hbody hend

lemma arePlaced_variableScript (table : String) (constants : List Constant) :
    arePlaced ⟨false, false, false⟩ (bodyOf (variableStatements table constants)) = true ∧
      areChained none (variableStatements table constants) = true := by
  have hbody : arePlaced ⟨false, false, true⟩ (groupBody table constants) = true ∧
      areChained none (groupBody table constants) = true := by
    refine arePlaced_of_forall (fun s hs => ?_) nofun
    rcases List.mem_cons.1 hs with rfl | hs
    · rw [Statement.isPlaced]
      · exact ⟨rfl, rfl⟩
      all_goals nofun
    · obtain ⟨c, -, rfl⟩ := List.mem_map.1 hs
      rw [Constant.statement, Statement.isPlaced]
      · exact ⟨rfl, rfl⟩
      all_goals nofun
  have hall : bodyOf (variableStatements table constants) = variableStatements table constants :=
    rfl
  rw [hall]
  refine arePlaced_of_forall (fun s hs => ?_) nofun
  rw [List.mem_singleton.1 hs, Statement.isPlaced, hbody.1, hbody.2]
  exact ⟨rfl, rfl⟩

lemma all_isLineChar_variableScriptTexts (h : isIdentifier table = true)
    (hnames : ∀ c ∈ constants, isIdentifier c.name = true) :
    ∀ text ∈ Template.variableScriptTexts table (constants.map Constant.declaration),
      text.toList.all isLineChar = true := by
  have hname {name : String} (h : isIdentifier name = true) : name.toList.all isLineChar = true :=
    all_isLineChar_of_isIdentifierChars (isIdentifierChars_of_isIdentifier h)
  have htype (c : Constant) : c.typeName.toList.all isLineChar = true := by
    rw [Constant.typeName]
    cases c.literal.isList <;> cases c.type <;> decide
  intro text ht
  rw [Template.variableScriptTexts, List.mem_append, List.mem_append] at ht
  rcases ht with (ht | ht) | ht
  · revert text
    simp only [List.forall_mem_cons, List.not_mem_nil, IsEmpty.forall_iff, implies_true,
      String.toList_append, List.all_append, hname h, Bool.and_eq_true, and_true]
    and_intros <;> exact all_isLineChar_ofList (by decide)
  · rw [List.map_map] at ht
    obtain ⟨c, hc, rfl⟩ := List.mem_map.1 ht
    simp only [Function.comp_apply, Template.constantText, Constant.declaration,
      String.toList_append, List.all_append, hname (hnames c hc), htype,
      c.literal.all_isLineChar_text, Bool.and_eq_true]
    decide
  · rw [List.mem_singleton.1 ht]
    rfl

/-- The script of a Variable table is well formed unless a constant is to be given the name
`__debug__`. -/
theorem statements?_variableScript (h : isIdentifier table = true)
    (hnames : ∀ c ∈ constants, isIdentifier c.name = true)
    (hlegible : ∀ c ∈ constants, c.literal.IsLegible) :
    statements? (Template.lines
      (Template.variableScriptTexts table (constants.map Constant.declaration))) =
      if ∀ c ∈ constants, isBindable c.bound.name = true then
        some (variableStatements table (constants.map Constant.bound))
      else none := by
  have hchars := all_isLineChar_variableScriptTexts h hnames
  have hfirst : (Template.lines (Template.variableScriptTexts table
      (constants.map Constant.declaration))).toList.head? ≠ some '\ufeff' := by
    rw [Template.variableScriptTexts, List.append_assoc, List.cons_append]
    exact head?_banner _ _
  have hhead : Reads ["# Generated by excel_database from the \"" ++ table ++
        "\" table. Do not edit by hand.", "", "", "class Va" ++ table ++ ":",
        "    \"\"\"Constants declared by the " ++ table ++ " table.\"\"\"", ""]
      [(.outermost, .head (.group (groupAs table) none) []),
        (containerDepth, .statements [.evaluate (.constant (.text (groupDescription table)))])] :=
    (reads_banner h).append (reads_blankLine.append (reads_blankLine.append
      ((reads_groupName h).append ((reads_groupDescription h).append reads_blankLine))))
  -- the lines of the constants stand between lines that are always read
  have hmiddle := readLines_flatMap
    (fun c hc hb => reads_constant (hnames c hc) (hlegible c hc) hb)
    (fun c hc hb rest => readLines_constant_debug (hnames c hc) (hlegible c hc)
      (Bool.not_eq_true _ ▸ hb) rest) reads_blankLine.readLines_eq
  have htexts : constants.flatMap (fun c => [Template.constantText c.declaration]) =
      (constants.map Constant.declaration).map Template.constantText := by
    rw [← List.map_eq_flatMap, List.map_map]
    rfl
  have hread := hhead (((constants.map Constant.declaration).map Template.constantText).map
    String.toList ++ [""].map String.toList)
  rw [← htexts, hmiddle, htexts, ← List.map_append, ← List.map_append, ← List.append_assoc] at hread
  split_ifs at hread ⊢ with hb
  · have hbody := readBody_variableScript table (constants.map Constant.bound)
    obtain ⟨hplaced, hchained⟩ := arePlaced_variableScript table (constants.map Constant.bound)
    rw [variableLines, List.map_map] at hbody
    rw [← List.map_eq_flatMap, List.append_nil] at hread
    exact statements?_of_reads hchars hfirst hread hbody hplaced hchained
  · exact statements?_of_not_reads hchars hfirst hread

/-- The script of a Variable table with ordinary names is well formed. -/
lemma statements?_of_isOrdinaryName (h : isIdentifier table = true)
    (hnames : ∀ c ∈ constants, isIdentifier c.name = true)
    (hordinary : ∀ c ∈ constants, IsOrdinaryName c.name)
    (hlegible : ∀ c ∈ constants, c.literal.IsLegible) :
    statements? (Template.lines
      (Template.variableScriptTexts table (constants.map Constant.declaration))) =
      some (variableStatements table constants) := by
  have hbound : ∀ c ∈ constants, c.bound = c := fun c hc =>
    Constant.bound_of_ascii (hordinary c hc).ascii
  have hbindable : ∀ c ∈ constants, isBindable c.bound.name = true := fun c hc =>
    isBindable_compatibleForm (hnames c hc) (head?_ne_of_startsWith (hordinary c hc).plain)
  have hall : constants.map Constant.bound = constants := by
    rw [List.map_congr_left hbound]
    exact List.map_id _
  rw [statements?_variableScript h hnames hlegible, if_pos hbindable, hall]

/-! ## Values of expressions -/

/-- Values as what names stand for. -/
def objectsOf (known : Pairs Json) : Pairs Object := known.map fun p => (p.1, .value p.2)

lemma get?_objectsOf (known : Pairs Json) (name : String) :
    (objectsOf known).get? name = (known.get? name).map .value := by
  induction known with
  | nil => rfl
  | cons p known ih =>
    rw [objectsOf] at ih
    rw [objectsOf, List.map_cons, Pairs.get?_cons, ih, Pairs.get?_cons]
    split_ifs <;> rfl

lemma names_objectsOf (known : Pairs Json) : (objectsOf known).names = known.names := by
  rw [Pairs.names, Pairs.names, objectsOf, List.map_map]
  rfl

variable {owner outer : String} {before : Pairs Object} {known : Pairs Json} {d : Declared}
  {v : Scalar} {typed : List String}

lemma outcome?_negative (j : Json) (d : Declared) :
    outcome? (negative (.value j)) d = (negated? j).map fun k => (.value k, d) := by
  cases j <;> rfl

section

variable (hbefore : ∀ n ∈ before.names, n ∈ bodyNames)
  (hd : ∀ n : String, n.toList.head? ≠ some '_' → d.names.get? n = none)
include hbefore hd

/-- A name that does not begin with an underscore stands for a known constant, or for what is always
there. -/
lemma outcome?_find_plain (hname : name.toList.head? ≠ some '_') :
    outcome? (Scope.find ⟨some owner, before ++ objectsOf known, typed⟩ name) d =
      (((known.get? name).map Object.value).or (alwaysThere.get? name)).map fun o => (o, d) := by
  have hbound : Scope.outerName ⟨some owner, before ++ objectsOf known, typed⟩ name = name :=
    boundName_of_plain hname owner
  have hnone : before.get? name = none :=
    Pairs.get?_eq_none_iff.2 fun hmem => hname (head?_of_mem_bodyNames (hbefore _ hmem))
  have hown : Pairs.get? (before ++ objectsOf known) name = (known.get? name).map Object.value := by
    rw [Pairs.get?_append, hnone, Option.none_or, get?_objectsOf]
  rw [outcome?_find, hbound]
  dsimp only
  rw [hown, hd name hname, Option.or_none]

lemma outcome?_bare (v : Scalar) :
    outcome? (eval ⟨some owner, before ++ objectsOf known, typed⟩ v.toBare.expression) d =
      (v.toBare.value? known).map fun j => (.value j, d) := by
  have hname {n : String} (h : n ∈ ["inf", "nan"]) :
      outcome? (eval ⟨some owner, before ++ objectsOf known, typed⟩ (.name n)) d =
        (known.get? n).map fun j => (.value j, d) := by
    have hall : ∀ n ∈ ["inf", "nan"], n.toList.head? ≠ some '_' ∧ alwaysThere.names.contains n =
      false := by decide
    obtain ⟨hplain, hnot⟩ := hall n h
    have hnone : alwaysThere.get? n = none := by
      rw [Pairs.get?_eq_none_iff, ← List.contains_iff_mem, hnot]
      exact Bool.false_ne_true
    rw [eval, outcome?_find_plain hbefore hd hplain, hnone, Option.or_none, Option.map_map]
    rfl
  cases v with
  | real x =>
    cases x with
    | finite => rfl
    | infinite => exact hname (by decide)
    | nan => exact hname (by decide)
  | _ => rfl

/-- A value stands for what it is, or for a known constant. -/
lemma outcome?_scalar (v : Scalar) :
    outcome? (eval ⟨some owner, before ++ objectsOf known, typed⟩ v.expression) d =
      (v.value? known).map fun j => (.value j, d) := by
  have hbare : outcome? (eval ⟨some owner, before ++ objectsOf known, typed⟩ v.toBare.expression) d =
      (v.toBare.value? known).map fun j => (.value j, d) := outcome?_bare hbefore hd v
  rw [Scalar.expression, Scalar.value?]
  cases v.isNegative with
  | false => exact hbare
  | true =>
    rw [if_pos rfl, if_pos rfl, eval, outcome?_bind, hbare]
    cases v.toBare.value? known with
    | none => rfl
    | some j => exact outcome?_negative j d

lemma outcome?_scalars (values : List Scalar) :
    outcome? (evalAll ⟨some owner, before ++ objectsOf known, typed⟩
        (values.map Scalar.expression)) d =
      (values.mapM (Scalar.value? known)).map fun js => (js.map Object.value, d) := by
  induction values with
  | nil => rfl
  | cons v values ih =>
    rw [List.map_cons, evalAll, outcome?_bind, outcome?_scalar hbefore hd, List.mapM_cons]
    cases v.value? known with
    | none => rfl
    | some j =>
      rw [Option.map_some, Option.bind_some]
      dsimp only
      rw [outcome?_bind, ih]
      cases values.mapM (Scalar.value? known) <;> rfl

/-- A literal stands for what it is, as far as its values do. -/
theorem outcome?_literal (l : Literal) :
    outcome? (eval ⟨some owner, before ++ objectsOf known, typed⟩ l.expression) d =
      (l.value? known).map fun j => (.value j, d) := by
  cases l with
  | scalar v => exact outcome?_scalar hbefore hd v
  | list values =>
    have hitems (js : List Json) : (js.map Object.value).filterMap Object.value? = js := by
      rw [List.filterMap_map]
      exact List.filterMap_some
    rw [Literal.expression, eval, outcome?_bind, outcome?_scalars hbefore hd, Literal.value?]
    cases values.mapM (Scalar.value? known) with
    | none => rfl
    | some js =>
      rw [Option.map_some, Option.bind_some, outcome?_pure, hitems]
      rfl

/-- The type of a constant stands for a type if no constant has the name of one. -/
lemma outcome?_type (c : Constant) (huntyped : ∀ n ∈ typeNames, known.get? n = none) :
    ∃ o, outcome? (eval ⟨some owner, before ++ objectsOf known, typed⟩ c.typeExpression) d =
      some (o, d) := by
  have hall : ∀ n ∈ typeNames, n.toList.head? ≠ some '_' := by decide
  have hfind {n : String} (hn : n ∈ typeNames) :
      outcome? (eval ⟨some owner, before ++ objectsOf known, typed⟩ (.name n)) d =
        (alwaysThere.get? n).map fun o => (o, d) := by
    rw [eval, outcome?_find_plain hbefore hd (hall n hn), huntyped n hn]
    rfl
  have htype : c.type.typeName ∈ typeNames := by
    cases c.type <;> decide
  obtain ⟨o, ho⟩ : ∃ o, alwaysThere.get? c.type.typeName = some o := by
    cases c.type <;> exact ⟨_, rfl⟩
  have hlist : alwaysThere.get? "list" = some (.builtin .list) := rfl
  rw [Constant.typeExpression]
  split_ifs
  · rw [eval, outcome?_bind, hfind (by decide), hlist, Option.map_some, Option.bind_some]
    dsimp only
    rw [outcome?_bind, hfind htype, ho]
    exact ⟨_, rfl⟩
  · rw [hfind htype, ho]
    exact ⟨o, rfl⟩

end

/-! ## Constants one after the other -/

/-- Where a constant stands: behind what every body has, and behind known constants. -/
def groupScope (owner : String) (before : Pairs Object) (known : Pairs Json) : Scope :=
  ⟨some owner, before ++ objectsOf known, known.names⟩

lemma get?_typeNames (hknown : ∀ n ∈ known.names, IsOrdinaryName n) :
    ∀ n ∈ typeNames, known.get? n = none := fun _ hn =>
  Pairs.get?_eq_none_iff.2 fun hmem => (hknown _ hmem).untyped hn

lemma names_append_singleton (known : Pairs Json) (name : String) (j : Json) :
    (known ++ [(name, j)]).names = known.names ++ [name] := by
  rw [Pairs.names, List.map_append]
  rfl

lemma isOrdinaryName_append {j : Json} (hordinary : IsOrdinaryName name)
    (hknown : ∀ n ∈ known.names, IsOrdinaryName n) :
    ∀ n ∈ Pairs.names (known ++ [(name, j)]), IsOrdinaryName n := by
  intro n hn
  rw [names_append_singleton, List.mem_append, List.mem_singleton] at hn
  rcases hn with hn | rfl
  · exact hknown n hn
  · exact hordinary

section

variable (hbefore : ∀ n ∈ before.names, n ∈ bodyNames)
include hbefore

/-- A name that no body has is not among those of a body, as long as the constants have ordinary
ones. -/
lemma notMem_groupNames (hname : name ∉ bodyNames) (hnew : name ∉ known.names) :
    name ∉ Pairs.names (before ++ objectsOf known) := by
  have hnames := names_objectsOf known
  rw [Pairs.names] at hnames
  rw [Pairs.names, List.map_append, List.mem_append, not_or, hnames]
  exact ⟨fun hmem => hname (hbefore _ hmem), hnew⟩

lemma outcome?_bindMember (hname : name.toList.head? ≠ some '_') (hnew : name ∉ known.names)
    (j : Json) (d : Declared) :
    outcome? (bindMember .plain ⟨some owner, before ++ objectsOf known, typed⟩ name (.value j)) d =
      some (⟨some owner, before ++ objectsOf (known ++ [(name, j)]), typed⟩, d) := by
  have hnot : name ∉ Pairs.names (before ++ objectsOf known) :=
    notMem_groupNames hbefore (fun hmem => hname (head?_of_mem_bodyNames hmem)) hnew
  have hput : Pairs.put name (.value j) (before ++ objectsOf known) =
      before ++ objectsOf (known ++ [(name, j)]) := by
    have hmore : objectsOf (known ++ [(name, j)]) = objectsOf known ++ [(name, .value j)] :=
      List.map_append
    rw [Pairs.put_of_not_mem hnot, hmore, List.append_assoc]
  have hbind : outcome? (Scope.bind ⟨some owner, before ++ objectsOf known, typed⟩ name (.value j))
      d = some (⟨some owner, Pairs.put (boundName owner name) (.value j)
        (before ++ objectsOf known), typed⟩, d) := outcome?_bind_owner
  rw [boundName_of_plain hname, hput] at hbind
  exact hbind

/-- A constant that is behind all others takes its type behind theirs. -/
lemma outcome?_bindType (hname : name.toList.head? ≠ some '_') (hnew : name ∉ typed)
    (hknown : ∀ n ∈ known.names, IsOrdinaryName n) (d : Declared) :
    outcome? (Scope.bindType ⟨some owner, before ++ objectsOf known, typed⟩ name) d =
      some (⟨some owner, before ++ objectsOf known, typed ++ [name]⟩, d) := by
  have hbound : Scope.outerName ⟨some owner, before ++ objectsOf known, typed⟩ name = name :=
    boundName_of_plain hname owner
  have hspecial : typesName ∉ known.names := by
    intro hmem
    have hplain := (hknown _ hmem).plain
    exact absurd hplain (by decide)
  have hnot : (Pairs.names (before ++ objectsOf known)).contains typesName = false := by
    rw [← Bool.not_eq_true, List.contains_iff_mem]
    exact notMem_groupNames hbefore (by decide) hspecial
  have hnew' : typed.contains name = false := by
    rw [← Bool.not_eq_true, List.contains_iff_mem]
    exact hnew
  unfold Scope.bindType
  dsimp only
  rw [hbound, hnot, if_neg Bool.false_ne_true, hnew', if_neg Bool.false_ne_true]
  rfl

variable (hd : ∀ n : String, n.toList.head? ≠ some '_' → d.names.get? n = none)
include hd

/-- A constant is declared if its literal stands for anything. -/
theorem outcome?_constant (hordinary : IsOrdinaryName c.name) (hnew : c.name ∉ known.names)
    (hknown : ∀ n ∈ known.names, IsOrdinaryName n) :
    outcome? (runStatement .plain outer (groupScope owner before known) c.statement) d =
      (c.literal.value? known).map fun j =>
        (groupScope owner before (known ++ [(c.name, j)]), d) := by
  have hname := head?_ne_of_startsWith hordinary.plain
  rw [Constant.statement, runStatement, groupScope, outcome?_bind, outcome?_literal hbefore hd]
  cases c.literal.value? known with
  | none => rfl
  | some j =>
    -- its value comes first, and its type last
    have hknown' := isOrdinaryName_append (j := j) hordinary hknown
    obtain ⟨o, ho⟩ : ∃ o, outcome? (eval ⟨some owner, before ++ objectsOf (known ++ [(c.name, j)]),
        known.names⟩ c.typeExpression) d = some (o, d) :=
      outcome?_type hbefore hd c (get?_typeNames hknown')
    rw [Option.map_some, Option.bind_some]
    dsimp only
    rw [outcome?_bind, outcome?_bindMember hbefore hname hnew, Option.bind_some]
    dsimp only
    rw [outcome?_bind, ho, Option.bind_some]
    dsimp only
    rw [outcome?_bindType hbefore hname hnew hknown', ← names_append_singleton _ _ j]
    rfl

/-- Constants are declared one after the other, as long as their literals stand for anything. -/
theorem outcome?_constants (hordinary : ∀ c ∈ constants, IsOrdinaryName c.name)
    (hnodup : (known.names ++ constants.map Constant.name).Nodup)
    (hknown : ∀ n ∈ known.names, IsOrdinaryName n) :
    outcome? (runStatements .plain outer (groupScope owner before known)
      (constants.map Constant.statement)) d =
      (knownBehind? known constants).map fun all => (groupScope owner before all, d) := by
  induction constants generalizing known with
  | nil =>
    rw [List.map_nil, runStatements]
    rfl
  | cons c constants ih =>
    have hnew : c.name ∉ known.names := fun hmem =>
      (List.nodup_append.1 hnodup).2.2 _ hmem _ (by simp) rfl
    rw [List.map_cons, runStatements, outcome?_bind,
      outcome?_constant hbefore hd (hordinary c (by simp)) hnew hknown, knownBehind?]
    cases c.literal.value? known with
    | none => rfl
    | some j =>
      have hknown' := isOrdinaryName_append (j := j) (hordinary c (by simp)) hknown
      exact ih (fun d hd => hordinary d (by simp [hd]))
        (by rwa [names_append_singleton, List.append_assoc]) hknown'

end

/-! ## The script -/

lemma names_knownBehind? {all : Pairs Json} (h : knownBehind? known constants = some all) :
    all.names = known.names ++ constants.map Constant.name := by
  induction constants generalizing known with
  | nil =>
    cases h
    simp
  | cons c constants ih =>
    obtain ⟨j, -, hrest⟩ := Option.bind_eq_some_iff.1 h
    rw [ih hrest, names_append_singleton, List.append_assoc]
    rfl

/-- What the class of the constants of a table has before them. -/
def groupNames (table script : String) (constants : List Constant) : Pairs Object :=
  initialNames (some (.value (.text script))) (groupAs table) (groupBody table constants)

/-- What the script of a Variable table declares. -/
def variableDeclared (table script : String) (constants : List Constant) (all : Pairs Json) :
    Declared where
  names := Pairs.put (groupAs table)
    (.group (groupAs table) (groupNames table script constants ++ objectsOf all) all.names)
    [(scriptNameName, .value (.text script))]
  containers := []
  tables := []

/-- There is a class of constants, none of which has a name that means something to every class. -/
lemma bodyFault?_group (table script : String) {all : Pairs Json}
    (hordinary : ∀ c ∈ constants, IsOrdinaryName c.name)
    (h : knownBehind? [] constants = some all) :
    bodyFault? (groupNames table script constants ++ objectsOf all) = none := by
  have hspecial {special : String} (hs : special.toList.head? = some '_') :
      Pairs.get? (groupNames table script constants ++ objectsOf all) special =
        (groupNames table script constants).get? special := by
    have hnone : all.get? special = none := by
      rw [Pairs.get?_eq_none_iff, names_knownBehind? h]
      intro hmem
      obtain ⟨c, hc, rfl⟩ := List.mem_map.1 hmem
      exact head?_ne_of_startsWith (hordinary c hc).plain hs
    rw [Pairs.get?_append, get?_objectsOf, hnone]
    exact Option.or_none
  refine bodyFault?_eq_none (groupAs table) ?_ ?_ ?_
  · rw [hspecial rfl, groupNames, get?_initialNames (by decide)]
  · rw [hspecial rfl, groupNames, get?_qualifiedName]
  · rw [hspecial rfl, groupNames, get?_initialNames (by decide)]

/-- The group is declared if all of its constants are. -/
lemma outcome?_variableScript (table script : String)
    (hordinary : ∀ c ∈ constants, IsOrdinaryName c.name)
    (hnodup : (constants.map Constant.name).Nodup) :
    outcome? (runStatements .plain "" .outermost (variableStatements table constants))
      (.start script) =
      (knownBehind? [] constants).map fun all =>
        (.outermost, variableDeclared table script constants all) := by
  have hbefore : ∀ n ∈ (groupNames table script constants).names, n ∈ bodyNames :=
    fun _ => mem_bodyNames
  have hd : ∀ n : String, n.toList.head? ≠ some '_' →
      (Declared.start script).names.get? n = none := by
    intro n hn
    rw [Pairs.get?_eq_none_iff]
    intro hmem
    have hname : n = scriptNameName := List.mem_singleton.1 hmem
    rw [hname] at hn
    exact hn rfl
  have hconstants : outcome? (runStatements .plain (groupAs table ++ ".")
      (groupScope (groupAs table) (groupNames table script constants) [])
      (constants.map Constant.statement)) (.start script) =
      (knownBehind? [] constants).map fun all =>
        (groupScope (groupAs table) (groupNames table script constants) all, .start script) :=
    outcome?_constants hbefore hd hordinary hnodup nofun
  have hbody : outcome? (runStatements .plain (groupAs table ++ ".")
      ⟨some (groupAs table), groupNames table script constants, []⟩ (groupBody table constants))
      (.start script) = (knownBehind? [] constants).map fun all =>
        (groupScope (groupAs table) (groupNames table script constants) all, .start script) := by
    have hdescription (scope : Scope) : outcome? (runStatement .plain (groupAs table ++ ".") scope
        (.evaluate (.constant (.text (groupDescription table))))) (.start script) =
          some (scope, .start script) := rfl
    rw [groupBody, runStatements, outcome?_bind, hdescription, Option.bind_some, ← hconstants,
      groupScope, objectsOf, List.map_nil, List.append_nil]
    rfl
  rw [groupNames] at hbody
  have hdecorators : outcome? (evalAll .outermost []) (Declared.start script) =
      some ([], .start script) := rfl
  have hscript : (Declared.start script).names.get? scriptNameName =
      some (.value (.text script)) := rfl
  rw [variableStatements, runStatements, outcome?_bind, outcome?_group hdecorators hscript, hbody]
  cases hall : knownBehind? [] constants with
  | none => rfl
  | some all =>
    have hfault := bodyFault?_group table script hordinary hall
    rw [groupNames] at hfault
    rw [Option.map_some, Option.bind_some, groupScope]
    dsimp only
    rw [if_pos hfault]
    rfl

/-- The values among what names stand for. -/
def valuesOf (names : Pairs Object) : Pairs Json :=
  names.filterMap fun (key, o) => o.value?.map fun v => (key, v)

lemma valuesOf_objectsOf (all : Pairs Json) : valuesOf (objectsOf all) = all := by
  rw [valuesOf, objectsOf, List.filterMap_map]
  exact List.filterMap_some

lemma names_valuesOf (names : Pairs Object) : (valuesOf names).names ⊆ names.names := by
  intro name hname
  obtain ⟨p, hp, rfl⟩ := List.mem_map.1 hname
  obtain ⟨⟨key, o⟩, ho, hvalue⟩ := List.mem_filterMap.1 hp
  obtain ⟨v, -, rfl⟩ := Option.map_eq_some_iff.1 hvalue
  exact List.mem_map_of_mem (f := Prod.fst) ho

/-- A group of constants lists what they stand for, in order. -/
theorem listing_group (table script : String) {all : Pairs Json}
    (hordinary : ∀ c ∈ constants, IsOrdinaryName c.name)
    (hnodup : (constants.map Constant.name).Nodup) (h : knownBehind? [] constants = some all) :
    ∃ g, constants? (variableDeclared table script constants all).names (groupAs table) = some g ∧
      g.listing = .ok all := by
  have hgroup : constants? (variableDeclared table script constants all).names (groupAs table) =
      some ⟨groupAs table, valuesOf (groupNames table script constants ++ objectsOf all),
        all.names⟩ := by
    rw [constants?, variableDeclared]
    dsimp only
    rw [Pairs.get?_put_self]
    rfl
  refine ⟨_, hgroup, ?_⟩
  have hnames : all.names = constants.map Constant.name := names_knownBehind? h
  rw [ConstantGroup.listing, mapM_eq_ok_iff, Pairs.names, List.forall₂_map_left_iff,
    List.forall₂_same]
  rintro ⟨name, j⟩ hmem
  have hname : name ∈ all.names := List.mem_map_of_mem (f := Prod.fst) hmem
  have hplain : name.toList.head? ≠ some '_' := by
    rw [hnames] at hname
    obtain ⟨c, hc, rfl⟩ := List.mem_map.1 hname
    exact head?_ne_of_startsWith (hordinary c hc).plain
  -- neither what every class has nor what every body has is called so
  have hinnate : innate.get? name = none := by
    have hall : ∀ special ∈ innate.names, special.toList.head? = some '_' := by decide
    exact Pairs.get?_eq_none_iff.2 fun hspecial => hplain (hall _ hspecial)
  have hbefore : (valuesOf (groupNames table script constants)).get? name = none := by
    rw [Pairs.get?_eq_none_iff]
    exact fun hspecial => hplain (head?_of_mem_bodyNames (mem_bodyNames (names_valuesOf _ hspecial)))
  have hown : all.get? name = some j := Pairs.get?_of_mem (by rwa [hnames]) hmem
  have hvalue : (valuesOf (groupNames table script constants ++ objectsOf all)).get? name =
      some j := by
    have hobjects := valuesOf_objectsOf all
    rw [valuesOf] at hobjects hbefore
    rw [valuesOf, List.filterMap_append, hobjects, Pairs.get?_append, hbefore, hown]
    rfl
  dsimp only
  rw [hinnate, hvalue]

section

variable (script : String) (h : isIdentifier table = true)
  (hnames : ∀ c ∈ constants, isIdentifier c.name = true)
  (hordinary : ∀ c ∈ constants, IsOrdinaryName c.name)
  (hlegible : ∀ c ∈ constants, c.literal.IsLegible)
  (hnodup : (constants.map Constant.name).Nodup)
include h hnames hordinary hlegible hnodup

/-- What a script declares whose constants stand for values. -/
theorem run_variableScript {all : Pairs Json} (hall : knownBehind? [] constants = some all) :
    run script (Template.lines
      (Template.variableScriptTexts table (constants.map Constant.declaration))) =
      (variableDeclared table script constants all, none) := by
  have hrun := outcome?_variableScript table script hordinary hnodup
  rw [hall] at hrun
  exact run_of_outcome? (statements?_of_isOrdinaryName h hnames hordinary hlegible) hrun

/-- A script with a constant that stands for no value fails. -/
theorem run_variableScript_of_none (hall : knownBehind? [] constants = none) :
    ∃ declared fault, run script (Template.lines
      (Template.variableScriptTexts table (constants.map Constant.declaration))) =
      (declared, some fault) := by
  have hrun := outcome?_variableScript table script hordinary hnodup
  rw [hall] at hrun
  exact run_of_outcome?_none (statements?_of_isOrdinaryName h hnames hordinary hlegible) hrun

end

end Script

end SheetCompiler
