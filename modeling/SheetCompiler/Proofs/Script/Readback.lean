import SheetCompiler.Proofs.Registry.Reload
import SheetCompiler.Proofs.Script.Record

/-!
# Reading a Convert script back

Neither the name of a table nor that of a column nor a type has a character that delimits anything
in a script (`delimiters`). So what stands in the script of a Convert table stands in its place: the
table and the fields can be read back from the text alone (`readConvertScript?`), and no two tables
have one script.

Main statements:

* `notMem_delimiters`: what names and types are made of;
* `fieldOf?_columnText`: the field of a column from its line;
* `readConvertScript?_lines`: the table and the fields from the script;
* `convertScript_readable`: all of it for accepted tables.
-/

namespace SheetCompiler.Script

open SheetCompiler.Text

/-! ## What delimits -/

/-- The characters that end a text, a line or a group in a script: quotes, the backslash, the line
breaks of every kind, brackets and braces. -/
def delimiters : List Char :=
  ['"', '\x27', '\x60', '\\', '\n', '\r', '\x0b', '\x0c', '\x1c', '\x1d', '\x1e', '\x85', '\u2028',
    '\u2029', '(', ')', '[', ']', '<', '>', '\x7b', '\x7d']

/-- No delimiter stands in an identifier or in a type token. -/
lemma notMem_delimiters {c : Char} (h : continuesIdentifier c = true ∨ isTokenChar c = true) :
    c ∉ delimiters := by
  intro hc
  have hnone : ∀ d ∈ delimiters, continuesIdentifier d = false ∧ isTokenChar d = false := by
    decide +kernel
  obtain ⟨hname, htype⟩ := hnone c hc
  rcases h with h | h
  · rw [h] at hname
    cases hname
  · rw [h] at htype
    cases htype

/-! ## Fields -/

/-- The table that the first line of a script names. -/
def tableOf? (line : List Char) : Option String :=
  match splitOn '"' line with
  | [_, table, _] => some (String.ofList table)
  | _ => none

/-- The field that a line of a script declares, from what stands between its quotes and blanks. -/
def fieldOf? (line : List Char) : Option Field :=
  match splitOn '"' line with
  | [head, type, rest] =>
    match splitOn ' ' head with
    | [_, _, _, _, name, _, declarer] =>
      some ⟨String.ofList name, String.ofList type, decide (rest = ", array=True)".toList),
        decide (declarer = "Reference(".toList)⟩
    | _ => none
  | _ => none

/-- The table and the fields that the script of a Convert table declares: the table from the first
line, the fields from the lines behind the head of the class up to an empty one. -/
def readConvertScript? (script : String) : Option (String × List Field) :=
  match scriptLines script with
  | [] => none
  | first :: rest => do
    let table ← tableOf? first
    let fields ← ((rest.drop 6).takeWhile (· ≠ [])).mapM fieldOf?
    return (table, fields)

variable {table : String} {c : Column} {columns : List Column}

/-- The first line of a script, with any text in front of the table and behind it. -/
lemma tableOf?_quoted {before after : String} (hbefore : '"' ∉ before.toList)
    (h : '"' ∉ table.toList) (hafter : '"' ∉ after.toList) :
    tableOf? (before ++ "\"" ++ table ++ "\"" ++ after).toList = some table := by
  have hline : (before ++ "\"" ++ table ++ "\"" ++ after).toList =
      before.toList ++ '"' :: (table.toList ++ '"' :: after.toList) := by
    simp only [String.toList_append, List.append_assoc]
    rfl
  rw [tableOf?, hline, splitOn_append_cons hbefore, splitOn_append_cons h,
    splitOn_of_not_mem hafter]
  exact congrArg some String.ofList_toList

lemma tableOf?_banner (h : '"' ∉ table.toList) :
    tableOf? ("# Generated by excel_database from the \"" ++ table ++
      "\" table. Do not edit by hand.").toList = some table := by
  have hopen : "# Generated by excel_database from the \"" =
      "# Generated by excel_database from the " ++ "\"" := by decide
  have hclose : "\" table. Do not edit by hand." = "\"" ++ " table. Do not edit by hand." := by
    decide
  rw [hopen, hclose, ← String.append_assoc]
  exact tableOf?_quoted (by decide) h (by decide)

/-- The words in front of the type of a column, of which the fifth is its name. -/
lemma splitOn_declaration (h : ' ' ∉ c.name.toList) :
    splitOn ' ' ("    ".toList ++ (c.name.toList ++ ' ' :: '=' :: ' ' ::
      (c.declarer.toList ++ ['(']))) =
      [[], [], [], [], c.name.toList, ['='], c.declarer.toList ++ ['(']] := by
  have hdeclarer : ' ' ∉ c.declarer.toList ++ ['('] := by
    rw [Column.declarer]
    cases c.isReference <;> decide
  have hrest : splitOn ' ' (c.name.toList ++ ' ' :: '=' :: ' ' :: (c.declarer.toList ++ ['('])) =
      [c.name.toList, ['='], c.declarer.toList ++ ['(']] := by
    have hequals : splitOn ' ' (['='] ++ ' ' :: (c.declarer.toList ++ ['('])) =
        [['='], c.declarer.toList ++ ['(']] := by
      rw [splitOn_append_cons (by decide), splitOn_of_not_mem hdeclarer]
    rw [splitOn_append_cons h]
    exact congrArg (c.name.toList :: ·) hequals
  have hblank (cs : List Char) : splitOn ' ' (' ' :: cs) = [] :: splitOn ' ' cs := by
    rw [splitOn, if_pos rfl]
  change splitOn ' ' (' ' :: ' ' :: ' ' :: ' ' :: _) = _
  rw [hblank, hblank, hblank, hblank]
  exact congrArg ([[], [], [], []] ++ ·) hrest

/-- The line of a column tells its field. -/
theorem fieldOf?_columnText (h : IsWritten c) :
    fieldOf? (Template.columnText c).toList = some c.field := by
  have hname {d : Char} (hd : continuesIdentifier d = false) : d ∉ c.name.toList :=
    notMem_of_isIdentifierChars (isIdentifierChars_of_isIdentifier h.identifier) hd
  have hhead : '"' ∉ "    ".toList ++ (c.name.toList ++ ' ' :: '=' :: ' ' ::
      (c.declarer.toList ++ ['('])) := by
    have hdeclarer : '"' ∉ ' ' :: '=' :: ' ' :: (c.declarer.toList ++ ['(']) := by
      rw [Column.declarer]
      cases c.isReference <;> decide
    rw [List.mem_append, List.mem_append, not_or, not_or]
    exact ⟨by decide, hname (by decide), hdeclarer⟩
  have hend : '"' ∉ (if c.isArray then ", array=True)" else ")").toList := by
    cases c.isArray <;> decide
  have hline : (Template.columnText c).toList = ("    ".toList ++ (c.name.toList ++
      ' ' :: '=' :: ' ' :: (c.declarer.toList ++ ['(']))) ++ '"' :: (c.type.toList ++
        '"' :: (if c.isArray then ", array=True)" else ")").toList) := by
    rw [toList_columnText]
    simp only [List.append_assoc, List.cons_append, List.nil_append]
  have harray : decide ((if c.isArray then ", array=True)" else ")").toList =
      ", array=True)".toList) = c.isArray := by
    cases c.isArray <;> decide
  have hreference : decide (c.declarer.toList ++ ['('] = "Reference(".toList) = c.isReference := by
    rw [Column.declarer]
    cases c.isReference <;> decide
  rw [fieldOf?, hline, splitOn_append_cons hhead,
    splitOn_append_cons (notMem_of_isTokenChar h.typeChars.2 (by decide)), splitOn_of_not_mem hend]
  dsimp only
  rw [splitOn_declaration (hname (by decide))]
  dsimp only
  rw [harray, hreference, String.ofList_toList, String.ofList_toList]
  rfl

/-! ## Scripts -/

lemma mapM_fieldOf? (h : ∀ c ∈ columns, IsWritten c) :
    (columns.map fun c => (Template.columnText c).toList).mapM fieldOf? =
      some (columns.map Column.field) := by
  induction columns with
  | nil => rfl
  | cons c columns ih =>
    rw [List.forall_mem_cons] at h
    rw [List.map_cons, List.mapM_cons, fieldOf?_columnText h.1, ih h.2]
    rfl

/-- The lines of the columns end in front of the first empty line behind them. -/
lemma takeWhile_columnTexts (rest : List (List Char)) :
    ((columns.map fun c => (Template.columnText c).toList) ++ [] :: rest).takeWhile (· ≠ []) =
      columns.map fun c => (Template.columnText c).toList := by
  have hcolumn : ∀ line ∈ columns.map fun c => (Template.columnText c).toList,
      decide (line ≠ []) = true := by
    intro line hline
    obtain ⟨c, -, rfl⟩ := List.mem_map.1 hline
    rw [decide_eq_true_eq, toList_columnText]
    exact List.cons_ne_nil _ _
  rw [List.takeWhile_append_of_pos hcolumn, List.takeWhile_cons_of_neg (by simp), List.append_nil]

/-- The script of a Convert table tells its table and its fields. -/
theorem readConvertScript?_lines (h : isIdentifier table = true)
    (hcolumns : ∀ c ∈ columns, IsWritten c) :
    readConvertScript? (Template.lines (Template.convertScriptTexts table columns)) =
      some (table, columns.map Column.field) := by
  have hquote : '"' ∉ table.toList :=
    notMem_of_isIdentifierChars (isIdentifierChars_of_isIdentifier h) (by decide)
  have hlines := scriptLines_lines (all_isLineChar_convertScriptTexts h hcolumns)
  have hcut : ∃ rest, (Template.convertScriptTexts table columns).map String.toList =
      ("# Generated by excel_database from the \"" ++ table ++
        "\" table. Do not edit by hand.").toList :: rest ∧
      rest.drop 6 = (columns.map fun c => (Template.columnText c).toList) ++
        [] :: (["", "Tb" ++ table ++ " = Table(\"" ++ table ++ "\", Tb" ++ table ++ "Type)"]).map
          String.toList := by
    refine ⟨_, rfl, ?_⟩
    simp [List.map_map, Function.comp_def]
  obtain ⟨rest, hrest, hdrop⟩ := hcut
  rw [readConvertScript?, hlines, hrest]
  dsimp only
  rw [tableOf?_banner hquote, hdrop, takeWhile_columnTexts, mapM_fieldOf? hcolumns]
  rfl

/-! ## Accepted tables -/

section Accepted

variable {sheet : Sheet} {resolver : Resolver}

/-- The script of an accepted table is its fixed lines with the name of the table in its places and
one line for each column between them. No name and no type has a delimiter, so that the text tells
the table and the fields, and accepted tables of one script have one name and the same fields. -/
theorem convertScript_readable (htable : isIdentifier table = true)
    (h : readColumns sheet resolver = .ok columns) :
    ∃ script, Template.renderConvert (Template.shipped .convert) table columns = .ok script ∧
      script = Template.lines (Template.convertScriptTexts table columns) ∧
      scriptLines script = (Template.convertScriptTexts table columns).map String.toList ∧
      (∀ text ∈ table :: columns.flatMap (fun c => [c.name, c.type]),
        ∀ d ∈ text.toList, d ∉ delimiters) ∧
      readConvertScript? script = some (table, columns.map Column.field) ∧
      ∀ sheet' resolver' table' columns', isIdentifier table' = true →
        readColumns sheet' resolver' = .ok columns' →
        Template.renderConvert (Template.shipped .convert) table' columns' = .ok script →
        table' = table ∧ columns'.map Column.field = columns.map Column.field := by
  have hcolumns := isWritten_of_readColumns h
  have hread := readConvertScript?_lines htable hcolumns
  refine ⟨_, Template.renderConvert_eq table columns, rfl,
    scriptLines_lines (all_isLineChar_convertScriptTexts htable hcolumns), ?_, hread, ?_⟩
  · intro text htext d hd
    have hname {name : String} (hname : isIdentifier name = true) (hd : d ∈ name.toList) :
        d ∉ delimiters :=
      notMem_delimiters (.inl (continuesIdentifier_of_mem
        (isIdentifierChars_of_isIdentifier hname) hd))
    rcases List.mem_cons.1 htext with rfl | htext
    · exact hname htable hd
    · obtain ⟨c, hc, htext⟩ := List.mem_flatMap.1 htext
      rcases List.mem_pair.1 htext with rfl | rfl
      · exact hname (hcolumns c hc).identifier hd
      · exact notMem_delimiters (.inr ((hcolumns c hc).typeChars.2 d hd))
  · intro sheet' resolver' table' columns' htable' h' hscript
    -- both tables are what is read from the one script
    have hread' := readConvertScript?_lines htable' (isWritten_of_readColumns h')
    rw [Template.renderConvert_eq, Except.ok.injEq] at hscript
    rw [hscript, hread, Option.some.injEq, Prod.mk.injEq] at hread'
    exact ⟨hread'.1.symm, hread'.2.symm⟩

/-- The table whose rows refer to one another. -/
theorem itemSheet_script_readable : ∃ script,
    Template.renderConvert (Template.shipped .convert) "Item"
      [⟨1, "Next", "TbItem", false⟩, ⟨2, "Parts", "int", true⟩] = .ok script ∧
    readConvertScript? script =
      some ("Item", [⟨"Next", "TbItem", false, true⟩, ⟨"Parts", "int", true, false⟩]) := by
  have hname : isIdentifier "Item" = true := by decide
  obtain ⟨script, hscript, -, -, -, hread, -⟩ := convertScript_readable hname itemSheet_columns
  exact ⟨script, hscript, hread⟩

end Accepted

end SheetCompiler.Script
