import SheetCompiler.Proofs.Schema.Columns
import SheetCompiler.Proofs.Script.Line
import SheetCompiler.Script.Run

/-!
# Statements of the script of a Convert table

The script of a Convert table declares a class with a field for each column, and the table whose
records it makes. A type token has no quotes and no line ends, so that all there is to go wrong with
the script as a text is that no column can be given the name `__debug__`.

Main statement: `statements?_convertScript`.
-/

namespace SheetCompiler

open SheetCompiler.Text SheetCompiler.Script

/-! ## Columns in scripts -/

namespace Column

/-- The name of what declares the field of a column in a script. -/
def declarer (c : Column) : String := if c.isReference then "Reference" else "Field"

/-- What tells in a script that a column holds arrays. -/
def arrayArgument (c : Column) : List (String × Expr) :=
  if c.isArray then [("array", .constant (.truth true))] else []

/-- The expression that declares the field of a column. -/
def expression (c : Column) : Expr :=
  .call (.name c.declarer) [.constant (.text c.type)] c.arrayArgument

/-- The statement of a column. -/
def statement (c : Column) : Statement := .assign (compatibleForm c.name) c.expression

/-- The tokens behind the name of a column. -/
def tokens (c : Column) : List Token :=
  .mark '=' :: .name c.declarer :: .mark '(' :: .constant (.text c.type) ::
    if c.isArray then [.mark ',', .name "array", .mark '=', .constant (.truth true), .mark ')']
    else [.mark ')']

/-- What the expression of a column stands for. -/
def object (c : Column) : Object := .field c.type c.isArray c.isReference

end Column

namespace Script

variable {table : String} {c : Column} {columns : List Column}

/-- The name of the type of a table's records. -/
def recordName (table : String) : String := "Tb" ++ table ++ "Type"

/-- The name that the type of a table's records is declared under. -/
def recordAs (table : String) : String := compatibleForm (recordName table)

/-- The name of a table in its script. -/
def tableName (table : String) : String := "Tb" ++ table

/-- The name that a table is declared under in its script. -/
def tableAs (table : String) : String := compatibleForm (tableName table)

/-- The description of the type of a table's records. -/
def recordDescription (table : String) : String := "One row of the " ++ table ++ " table."

-- the equations Lean derives for this definition would evaluate its literals character by character
lemma recordDescription_eq (table : String) :
    recordDescription table = "One row of the " ++ table ++ " table." := rfl

/-- The names that the script takes over. -/
def takenNames : List (String × String) :=
  ["Field", "Record", "Reference", "Table"].map fun name => (name, name)

/-- The statements of the type of a table's records. -/
def recordBody (table : String) (columns : List Column) : List Statement :=
  .evaluate (.constant (.text (recordDescription table))) :: columns.map Column.statement

/-- The last statement of the script. -/
def tableStatement (table : String) : Statement :=
  .assign (tableAs table)
    (.call (.name "Table") [.constant (.text table), .name (recordAs table)] [])

/-- The statements of the script of a Convert table. -/
def convertStatements (table : String) (columns : List Column) : List Statement :=
  [.useNames "excel_database.runtime" takenNames,
    .declareClass [] (recordAs table) (some (.name "Record")) (recordBody table columns),
    tableStatement table]

/-! ## Names -/

/-- No reserved word begins like the names of tables. -/
lemma isIdentifier_tb {rest : String} (h : rest.toList.all continuesIdentifier = true) :
    isIdentifier ("Tb" ++ rest) = true :=
  isIdentifier_append (by decide) h (by decide +kernel)

lemma isIdentifier_recordName (h : isIdentifier table = true) :
    isIdentifier (recordName table) = true := by
  have hrest : (table ++ "Type").toList.all continuesIdentifier = true := by
    rw [String.toList_append, List.all_append, all_continuesIdentifier h]
    decide
  rw [recordName, String.append_assoc]
  exact isIdentifier_tb hrest

lemma isIdentifier_tableName (h : isIdentifier table = true) :
    isIdentifier (tableName table) = true := isIdentifier_tb (all_continuesIdentifier h)

lemma head?_recordName : (recordName table).toList.head? ≠ some '_' := by
  have hlist : (recordName table).toList = 'T' :: 'b' :: (table.toList ++ "Type".toList) := by
    rw [recordName, String.toList_append, String.toList_append]
    rfl
  rw [hlist, List.head?_cons, Ne, Option.some.injEq]
  decide

lemma head?_tableName : (tableName table).toList.head? ≠ some '_' := by
  have hlist : (tableName table).toList = 'T' :: 'b' :: table.toList := by
    rw [tableName, String.toList_append]
    rfl
  rw [hlist, List.head?_cons, Ne, Option.some.injEq]
  decide

/-- The type of a table's records does not hide what tables are made with. -/
lemma recordAs_ne_table : recordAs table ≠ "Table" := by
  intro heq
  have hname : recordName table = "Tb" ++ table ++ "Ty" ++ "pe" := by
    have hend : "Type" = "Ty" ++ "pe" := by decide
    rw [recordName, hend, ← String.append_assoc]
  have hmem := mem_compatibleForm_append ("Tb" ++ table ++ "Ty")
  rw [← hname] at hmem
  change 'p' ∈ (recordAs table).toList at hmem
  rw [heq] at hmem
  exact absurd hmem (by decide)

/-! ## Lines -/

/-- A character of a type token ends no text and no line. -/
lemma ne_of_isTokenChar {d : Char} (h : isTokenChar d = true) {e : Char}
    (he : isTokenChar e = false) : d ≠ e := by
  rintro rfl
  rw [h] at he
  cases he

lemma notMem_of_isTokenChar {cs : List Char} (h : ∀ d ∈ cs, isTokenChar d = true) {e : Char}
    (he : isTokenChar e = false) : e ∉ cs :=
  fun hmem => ne_of_isTokenChar (h e hmem) he rfl

/-- A column that stands in a script as it is: its name is an identifier, and its type has the
characters of one. -/
structure IsWritten (c : Column) : Prop where
  identifier : isIdentifier c.name = true
  typeChars : c.type ≠ "" ∧ ∀ d ∈ c.type.toList, isTokenChar d = true

/-- Accepted columns stand in a script as they are. -/
lemma isWritten_of_readColumns {sheet : Sheet} {resolver : Resolver}
    (h : readColumns sheet resolver = .ok columns) : ∀ c ∈ columns, IsWritten c := fun c hc =>
  have hread := ((isRead_of_readColumns h).1 c hc).1
  ⟨hread.identifier, hread.typeChars⟩

lemma reads_taken : Reads ["from excel_database.runtime import Field, Record, Reference, Table"]
    [(.outermost, .statements [.useNames "excel_database.runtime" takenNames])] := by
  have htokens : Script.tokens
      "from excel_database.runtime import Field, Record, Reference, Table".toList =
        some [.word "from", .name "excel_database", .mark '.', .name "runtime", .word "import",
          .name "Field", .mark ',', .name "Record", .mark ',', .name "Reference", .mark ',',
          .name "Table"] := by
    rw [String.toList_ofList]
    rfl
  exact .literal htokens rfl rfl

lemma reads_recordHead (h : isIdentifier table = true) :
    Reads ["class Tb" ++ table ++ "Type(Record):"]
      [(.outermost, .head (.group (recordAs table) (some (.name "Record"))) [])] := by
  have hname := isIdentifier_recordName h
  have hlist : ("class Tb" ++ table ++ "Type(Record):").toList =
      "class".toList ++ ' ' :: ((recordName table).toList ++
        '(' :: ("Record".toList ++ [')', ':'])) := by
    rw [recordName]
    simp only [String.toList_append, List.append_assoc]
    rfl
  have hbase : compatibleForm "Record" = "Record" := compatibleForm_of_ascii (by decide)
  have hhead := HasTokens.derivedHead hname (by decide : isIdentifier "Record" = true)
  rw [hbase, ← hlist] at hhead
  refine .line (tokens_of_hasTokens hhead)
    (line?_derivedHead (isBindable_compatibleForm hname head?_recordName)) ?_
  rw [hlist]
  rfl

lemma reads_recordDescription (h : isIdentifier table = true) :
    Reads ["    \"\"\"One row of the " ++ table ++ " table.\"\"\""]
      [(containerDepth, .statements [.evaluate (.constant (.text (recordDescription table)))])] := by
  have hopened : "    \"\"\"" ++ "One row of the " = "    \"\"\"One row of the " := by decide
  have hclosed : " table." ++ "\"\"\"" = " table.\"\"\"" := by decide
  have htext := reads_description "One row of the " h (by decide) (by decide)
  rwa [String.append_assoc, String.append_assoc, hclosed, ← String.append_assoc,
    ← String.append_assoc, hopened, ← recordDescription_eq] at htext

lemma toList_columnText (c : Column) : (Template.columnText c).toList =
    "    ".toList ++ (c.name.toList ++ ' ' :: '=' :: ' ' :: (c.declarer.toList ++
      '(' :: '"' :: (c.type.toList ++
        '"' :: (if c.isArray then ", array=True)" else ")").toList))) := by
  unfold Template.columnText Column.declarer
  simp only [String.toList_append, List.append_assoc]
  rfl

/-- The tokens of the line of a column. -/
lemma tokens_column (h : IsWritten c) : Script.tokens (Template.columnText c).toList =
    some (.name (compatibleForm c.name) :: c.tokens) := by
  obtain ⟨hne, hchars⟩ := h.typeChars
  have hnil : c.type.toList ≠ [] := fun hnil => hne (String.toList_inj.1 hnil)
  -- the argument that tells of arrays, and the bracket that closes all of them
  have hend : HasTokens 1 (if c.isArray then ", array=True)" else ")").toList
      (if c.isArray then [.mark ',', .name "array", .mark '=', .constant (.truth true), .mark ')']
        else [.mark ')']) := by
    cases c.isArray with
    | true =>
      have htrue : wordToken "True".toList = .constant (.truth true) := rfl
      have hvalue : HasTokens 1 ("True".toList ++ [')']) [.constant (.truth true), .mark ')'] := by
        rw [← htrue]
        exact .word (by decide) rfl (.cons rfl rfl le_rfl .nil)
      have harray : HasTokens 1 ("array".toList ++ '=' :: ("True".toList ++ [')']))
          [.name "array", .mark '=', .constant (.truth true), .mark ')'] :=
        .word (by decide) rfl (.cons rfl rfl le_rfl hvalue)
      exact .cons rfl rfl le_rfl harray.blank
    | false => exact .cons rfl rfl le_rfl .nil
  have htype := HasTokens.text hnil (notMem_of_isTokenChar hchars (by decide))
    (notMem_of_isTokenChar hchars (by decide)) (notMem_of_isTokenChar hchars (by decide)) hend
  rw [String.ofList_toList] at htype
  have hdeclarer : isIdentifier c.declarer = true ∧ compatibleForm c.declarer = c.declarer := by
    rw [Column.declarer]
    cases c.isReference with
    | true => exact ⟨by decide, compatibleForm_of_ascii (by decide)⟩
    | false => exact ⟨by decide, compatibleForm_of_ascii (by decide)⟩
  have hopen : HasTokens 0 ('(' :: '"' :: (c.type.toList ++
      '"' :: (if c.isArray then ", array=True)" else ")").toList)) c.tokens.tail.tail :=
    .cons rfl rfl le_rfl htype
  have hcall := HasTokens.name hdeclarer.1 rfl hopen
  rw [hdeclarer.2] at hcall
  have hvalue : HasTokens 0 ('=' :: ' ' :: (c.declarer.toList ++ '(' :: '"' :: (c.type.toList ++
      '"' :: (if c.isArray then ", array=True)" else ")").toList))) c.tokens :=
    .cons rfl rfl le_rfl hcall.blank
  have hline := HasTokens.name h.identifier rfl hvalue.blank
  rw [toList_columnText]
  exact tokens_of_hasTokens hline.blank.blank.blank.blank

lemma line?_column (h : isBindable (compatibleForm c.name) = true) :
    line? (.name (compatibleForm c.name) :: c.tokens) = some (.statements [c.statement]) := by
  have hvalue : wholeExpression? c.tokens.tail = some c.expression := by
    rw [Column.tokens, Column.expression, Column.arrayArgument]
    cases c.isArray with
    | true => rfl
    | false => rfl
  have hassign : c.tokens = .mark '=' :: c.tokens.tail := rfl
  rw [hassign]
  simp [line?, ownLine?, ownStatement?, Statement.isBound, hvalue, h, Column.statement]

lemma line?_column_debug : line? (.name "__debug__" :: c.tokens) = none := by
  rw [Column.tokens]
  cases c.isArray with
  | true => rfl
  | false => rfl

/-- The line of a column, which is a statement. -/
def columnLine (c : Column) : Depth × Line := (containerDepth, .statements [c.statement])

lemma reads_column (h : IsWritten c) (hb : isBindable (compatibleForm c.name) = true) :
    Reads [Template.columnText c] [columnLine c] := by
  refine .line (tokens_column h) (line?_column hb) ?_
  rw [toList_columnText, takeWhile_isSpace_name h.identifier rfl]
  rfl

/-- A column cannot be given the name `__debug__`. -/
lemma readLines_column_debug (h : IsWritten c) (hb : isBindable (compatibleForm c.name) = false)
    (rest : List (List Char)) :
    readLines [] ((Template.columnText c).toList :: rest) = none := by
  have hname : compatibleForm c.name = "__debug__" := by
    rw [isBindable, decide_eq_false_iff_not, not_not] at hb
    exact hb
  have htokens := tokens_column h
  rw [hname] at htokens
  refine readLines_of_not_line htokens line?_column_debug ?_ rest
  rw [Column.tokens]
  cases c.isArray with
  | true => rfl
  | false => rfl

/-- The line of the table. -/
lemma reads_table (h : isIdentifier table = true) :
    Reads ["Tb" ++ table ++ " = Table(\"" ++ table ++ "\", Tb" ++ table ++ "Type)"]
      [(.outermost, .statements [tableStatement table])] := by
  have hchars := isIdentifierChars_of_isIdentifier h
  have hlist : ("Tb" ++ table ++ " = Table(\"" ++ table ++ "\", Tb" ++ table ++ "Type)").toList =
      (tableName table).toList ++ ' ' :: '=' :: ' ' :: ("Table".toList ++ '(' :: '"' ::
        (table.toList ++ '"' :: ',' :: ' ' :: ((recordName table).toList ++ [')']))) := by
    rw [tableName, recordName]
    simp only [String.toList_append, List.append_assoc]
    rfl
  have hne : table.toList ≠ [] := by
    intro hnil
    rw [hnil] at hchars
    cases hchars
  have hend : HasTokens 1 [')'] [.mark ')'] := .cons rfl rfl le_rfl .nil
  have htype := HasTokens.name (isIdentifier_recordName h) rfl hend
  have hnext : HasTokens 1 (',' :: ' ' :: ((recordName table).toList ++ [')']))
      [.mark ',', .name (recordAs table), .mark ')'] := .cons rfl rfl le_rfl htype.blank
  have htext := HasTokens.text hne (notMem_of_isIdentifierChars hchars (by decide))
    (notMem_of_isIdentifierChars hchars (by decide))
    (notMem_of_isIdentifierChars hchars (by decide)) hnext
  rw [String.ofList_toList] at htext
  have hopen : HasTokens 0 ('(' :: '"' :: (table.toList ++ '"' :: ',' :: ' ' ::
      ((recordName table).toList ++ [')'])))
      [.mark '(', .constant (.text table), .mark ',', .name (recordAs table), .mark ')'] :=
    .cons rfl rfl le_rfl htext
  have hmaker : compatibleForm "Table" = "Table" := compatibleForm_of_ascii (by decide)
  have hcall := HasTokens.name (by decide : isIdentifier "Table" = true) rfl hopen
  rw [hmaker] at hcall
  have hvalue : HasTokens 0 ('=' :: ' ' :: ("Table".toList ++ '(' :: '"' :: (table.toList ++
      '"' :: ',' :: ' ' :: ((recordName table).toList ++ [')']))))
      [.mark '=', .name "Table", .mark '(', .constant (.text table), .mark ',',
        .name (recordAs table), .mark ')'] := .cons rfl rfl le_rfl hcall.blank
  have hname := isIdentifier_tableName h
  have hline := HasTokens.name hname rfl hvalue.blank
  rw [← hlist] at hline
  have hbindable := isBindable_compatibleForm hname head?_tableName
  have hwhole : wholeExpression? [.name "Table", .mark '(', .constant (.text table), .mark ',',
      .name (recordAs table), .mark ')'] =
        some (.call (.name "Table") [.constant (.text table), .name (recordAs table)] []) := rfl
  refine .line (tokens_of_hasTokens hline) ?_ ?_
  · simp [line?, ownLine?, ownStatement?, Statement.isBound, hwhole, hbindable, tableStatement,
      tableAs]
  · have hblank (rest : List Char) :
        ([] ++ ((tableName table).toList ++ rest)).takeWhile isSpace = [] :=
      takeWhile_isSpace_name hname rfl rest
    rw [hlist, ← List.nil_append ((tableName table).toList ++ _), hblank]
    rfl

/-! ## Statements -/

/-- The lines of the script that hold tokens. -/
def convertLines (table : String) (columns : List Column) : List (Depth × Line) :=
  [(.outermost, .statements [.useNames "excel_database.runtime" takenNames]),
    (.outermost, .head (.group (recordAs table) (some (.name "Record"))) []),
    (containerDepth, .statements [.evaluate (.constant (.text (recordDescription table)))])]
    ++ columns.map columnLine ++ [(.outermost, .statements [tableStatement table])]

lemma readBody_convertScript (table : String) (columns : List Column) :
    readBody ((convertLines table columns).length + 1) .outermost []
      (convertLines table columns) = some (convertStatements table columns, []) := by
  have hends : EndsBody containerDepth [(.outermost, .statements [tableStatement table])] := by
    intro p hp
    cases hp
    rfl
  have hcolumns : readBody (columns.length + 2) containerDepth []
      (columns.map columnLine ++ [(.outermost, .statements [tableStatement table])]) =
        some (columns.map Column.statement,
          [(.outermost, .statements [tableStatement table])]) := readBody_map hends (by omega)
  have hbody : readBody (columns.length + 3) containerDepth []
      ((containerDepth, .statements [.evaluate (.constant (.text (recordDescription table)))]) ::
        (columns.map columnLine ++ [(.outermost, .statements [tableStatement table])])) =
        some (recordBody table columns, [(.outermost, .statements [tableStatement table])]) :=
    readBody_statements hcolumns
  have hend : readBody (columns.length + 2) .outermost [] [] = some ([], []) := rfl
  have hlast : readBody (columns.length + 3) .outermost []
      [(.outermost, .statements [tableStatement table])] = some ([tableStatement table], []) :=
    readBody_statements hend
  have hlength : (convertLines table columns).length + 1 = columns.length + 5 := by
    simp only [convertLines, List.length_append, List.length_cons, List.length_nil,
      List.length_map]
    omega
  rw [hlength]
  exact readBody_statements (readBody_group rfl hbody hlast)

lemma arePlaced_convertScript (table : String) (columns : List Column) :
    arePlaced ⟨false, false, false⟩ (bodyOf (convertStatements table columns)) = true ∧
      areChained none (convertStatements table columns) = true := by
  have hbody : arePlaced ⟨false, false, true⟩ (recordBody table columns) = true ∧
      areChained none (recordBody table columns) = true := by
    refine arePlaced_of_forall (fun s hs => ?_) nofun
    rcases List.mem_cons.1 hs with rfl | hs
    · rw [Statement.isPlaced]
      · exact ⟨rfl, rfl⟩
      all_goals nofun
    · obtain ⟨c, -, rfl⟩ := List.mem_map.1 hs
      rw [Column.statement, Statement.isPlaced]
      · exact ⟨rfl, rfl⟩
      all_goals nofun
  have hall : bodyOf (convertStatements table columns) = convertStatements table columns := rfl
  rw [hall]
  refine arePlaced_of_forall (fun s hs => ?_) nofun
  rcases List.mem_cons.1 hs with rfl | hs
  · rw [Statement.isPlaced]
    exact ⟨by decide, rfl⟩
  rcases List.mem_pair.1 hs with rfl | rfl
  · rw [Statement.isPlaced, hbody.1, hbody.2]
    exact ⟨rfl, rfl⟩
  · rw [tableStatement, Statement.isPlaced]
    · exact ⟨rfl, rfl⟩
    all_goals nofun

lemma all_isLineChar_convertScriptTexts (h : isIdentifier table = true)
    (hcolumns : ∀ c ∈ columns, IsWritten c) :
    ∀ text ∈ Template.convertScriptTexts table columns, text.toList.all isLineChar = true := by
  have hname {name : String} (h : isIdentifier name = true) : name.toList.all isLineChar = true :=
    all_isLineChar_of_isIdentifierChars (isIdentifierChars_of_isIdentifier h)
  have htype {c : Column} (hc : c ∈ columns) : c.type.toList.all isLineChar = true := by
    rw [List.all_eq_true]
    intro d hd
    have hchar := (hcolumns c hc).typeChars.2 d hd
    rw [isLineChar, Bool.not_eq_true', ← Bool.not_eq_true, List.contains_iff_mem]
    intro hmem
    have hnone : ∀ e ∈ ['\n', '\r', '\x00'], isTokenChar e = false := by decide
    exact ne_of_isTokenChar hchar (hnone d hmem) rfl
  have hdeclarer (c : Column) : c.declarer.toList.all isLineChar = true ∧
      (if c.isArray then ", array=True)" else ")").toList.all isLineChar = true := by
    rw [Column.declarer]
    cases c.isReference <;> cases c.isArray <;> decide
  intro text ht
  rw [Template.convertScriptTexts, List.mem_append, List.mem_append, List.mem_append] at ht
  rcases ht with ((ht | ht) | ht) | ht
  · revert text
    simp only [List.forall_mem_cons, List.not_mem_nil, IsEmpty.forall_iff, implies_true,
      String.toList_append, List.all_append, hname h, Bool.and_eq_true, and_true]
    and_intros <;> exact all_isLineChar_ofList (by decide)
  · obtain ⟨c, hc, rfl⟩ := List.mem_map.1 ht
    rw [toList_columnText]
    simp only [List.all_append, List.all_cons, hname (hcolumns c hc).identifier, htype hc,
      hdeclarer c, Bool.and_eq_true]
    decide
  · rw [List.mem_singleton.1 ht]
    rfl
  · revert text
    simp only [List.forall_mem_cons, List.not_mem_nil, IsEmpty.forall_iff, implies_true,
      String.toList_append, List.all_append, hname h, Bool.and_eq_true, and_true]
    and_intros <;> exact all_isLineChar_ofList (by decide)

/-- The script is well formed unless a column is to be given the name `__debug__`. -/
theorem statements?_convertScript (h : isIdentifier table = true)
    (hcolumns : ∀ c ∈ columns, IsWritten c) :
    statements? (Template.lines (Template.convertScriptTexts table columns)) =
      if ∀ c ∈ columns, isBindable (compatibleForm c.name) = true then
        some (convertStatements table columns)
      else none := by
  have hchars := all_isLineChar_convertScriptTexts h hcolumns
  have hfirst : (Template.lines (Template.convertScriptTexts table columns)).toList.head? ≠
      some '\ufeff' := by
    rw [Template.convertScriptTexts, List.append_assoc, List.append_assoc, List.cons_append]
    exact head?_banner _ _
  -- the lines of the columns stand between lines that are always read
  have hhead : Reads ["# Generated by excel_database from the \"" ++ table ++
        "\" table. Do not edit by hand.",
        "from excel_database.runtime import Field, Record, Reference, Table", "", "",
        "class Tb" ++ table ++ "Type(Record):",
        "    \"\"\"One row of the " ++ table ++ " table.\"\"\"", ""]
      [(.outermost, .statements [.useNames "excel_database.runtime" takenNames]),
        (.outermost, .head (.group (recordAs table) (some (.name "Record"))) []),
        (containerDepth, .statements [.evaluate (.constant (.text (recordDescription table)))])] :=
    ((reads_banner h).append reads_taken).append ((reads_blankLine.append reads_blankLine).append
      (((reads_recordHead h).append (reads_recordDescription h)).append reads_blankLine))
  have htail : readLines [] (([""] ++ ["", "Tb" ++ table ++ " = Table(\"" ++ table ++ "\", Tb" ++
      table ++ "Type)"]).map String.toList) =
      some [(.outermost, .statements [tableStatement table])] :=
    (reads_blankLine.append (reads_blankLine.append (reads_table h))).readLines_eq
  have hmiddle := readLines_flatMap (fun c hc hb => reads_column (hcolumns c hc) hb)
    (fun c hc hb rest => readLines_column_debug (hcolumns c hc) (Bool.not_eq_true _ ▸ hb) rest)
    htail
  have hread := hhead (((columns.flatMap fun c => [Template.columnText c]).map String.toList) ++
    ([""] ++ ["", "Tb" ++ table ++ " = Table(\"" ++ table ++ "\", Tb" ++ table ++ "Type)"]).map
      String.toList)
  rw [hmiddle, ← List.map_append, ← List.map_append, ← List.map_eq_flatMap, ← List.append_assoc,
    ← List.append_assoc] at hread
  split_ifs at hread ⊢ with hb
  · have hbody := readBody_convertScript table columns
    obtain ⟨hplaced, hchained⟩ := arePlaced_convertScript table columns
    rw [← List.map_eq_flatMap] at hread
    exact statements?_of_reads hchars hfirst hread hbody hplaced hchained
  · exact statements?_of_not_reads hchars hfirst hread

end Script

end SheetCompiler
