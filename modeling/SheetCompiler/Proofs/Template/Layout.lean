import SheetCompiler.Proofs.Template.Fill

/-!
# Templates as literal texts and marks

A template laid out as literal texts with marks between them (`Layout`) is filled in one pass: the
literal texts stand as they are, each mark becomes the text of its slot whatever that text holds,
and nothing that was put in is searched for marks again. A literal text may end with one opening
brace and begin with closing ones; the mark that follows it is found all the same (`slot?_literal`).

Main statements:

* `fillPieces_literal` and `fillPieces_mark`: what literal texts and marks become;
* `fill_layout` and `fill_layout_missing`: a whole template, and the first slot without a text;
* `filling_is_substitution`: so do the scripts of tables take over the texts of their sheets.
-/

namespace SheetCompiler.Template

open SheetCompiler.Text

/-! ## Layouts -/

/-- A text of a template in which no mark begins. -/
structure Literal where
  text : String
  closed : ¬ ['\x7b', '\x7b'] <:+: text.toList

/-- A template as it is laid out: a literal text, then marks with a literal text behind each. The
literal texts may be empty. -/
structure Layout where
  head : Literal
  rest : List (Mark × Literal)

namespace Layout

/-- The text of marks and of the literal texts behind them. -/
def restText (rest : List (Mark × Literal)) : String :=
  String.join (rest.map fun p => p.1.text ++ p.2.text)

/-- The literal texts with the texts of the slots in the places of the marks. -/
def substituteRest (slots : Pairs String) (rest : List (Mark × Literal)) : String :=
  String.join (rest.map fun p => (slots.get? p.1.name).getD "" ++ p.2.text)

/-- The text of a template. -/
def text (l : Layout) : String := l.head.text ++ restText l.rest

/-- The names in the marks, in order. -/
def names (l : Layout) : List String := l.rest.map (·.1.name)

/-- The literal texts of a template with the texts of the slots in the places of the marks. -/
def substitute (l : Layout) (slots : Pairs String) : String :=
  l.head.text ++ substituteRest slots l.rest

/-- A template that is one mark. -/
def only (name : String) (h : isSlotName name = true) : Layout :=
  ⟨⟨"", by decide⟩, [(.plain name h, ⟨"", by decide⟩)]⟩

end Layout

/-! ## Literal texts -/

/-- Where a literal text ends: before a mark, or with the template. -/
def EndsLiteral (rest : List Char) : Prop :=
  rest = [] ∨ ∃ more, rest = '\x7b' :: '\x7b' :: more

/-- Three opening braces are no mark: the name would have to begin with the third. -/
lemma slot?_three (cs : List Char) : slot? ('\x7b' :: '\x7b' :: '\x7b' :: cs) = none := by
  have hblank : isBlank '\x7b' = false := by decide
  have hword : isWord '\x7b' = false := by decide
  rw [slot?, List.dropWhile_cons_of_neg (by simp [hblank]),
    List.takeWhile_cons_of_neg (by simp [hword]), List.dropWhile_cons_of_neg (by simp [hword]),
    List.dropWhile_cons_of_neg (by simp [hblank])]
  rfl

/-- No mark begins inside of a literal text, not even with a brace at its end. -/
lemma slot?_literal {c : Char} {cs rest : List Char}
    (h : ¬ ['\x7b', '\x7b'] <:+: c :: cs) (hrest : EndsLiteral rest) :
    slot? (c :: (cs ++ rest)) = none := by
  have hone (d : Char) : slot? [d] = none := by
    unfold slot?
    split
    · rename_i heq
      cases (List.cons.inj heq).2
    · rfl
  by_cases hc : c = '\x7b'
  · subst hc
    cases cs with
    | nil =>
      rw [List.nil_append]
      rcases hrest with rfl | ⟨more, rfl⟩
      · exact hone _
      · exact slot?_three more
    | cons d cs =>
      have hd : d ≠ '\x7b' := by
        rintro rfl
        exact h ⟨[], cs, rfl⟩
      unfold slot?
      split
      · rename_i heq
        exact absurd (List.cons.inj (List.cons.inj heq).2).1 hd
      · rfl
  · unfold slot?
    split
    · rename_i heq
      exact absurd (List.cons.inj heq).1 hc
    · rfl

variable {slots : Pairs String}

/-- A literal text stands as it is in front of what follows it. -/
theorem fillPieces_literal {cs rest : List Char} (h : ¬ ['\x7b', '\x7b'] <:+: cs)
    (hrest : EndsLiteral rest) :
    fillPieces slots (pieces (cs ++ rest)) = (fillPieces slots (pieces rest)).map (cs ++ ·) := by
  induction cs with
  | nil =>
    rw [List.nil_append]
    cases fillPieces slots (pieces rest) <;> rfl
  | cons c cs ih =>
    have hslot := slot?_literal h hrest
    have hcs : ¬ ['\x7b', '\x7b'] <:+: cs := fun hin =>
      h (hin.trans (List.infix_cons List.infix_rfl))
    rw [List.cons_append, pieces_cons_of_slot?_eq_none hslot, fill_char, ih hcs]
    cases fillPieces slots (pieces rest) <;> rfl

/-! ## Marks -/

/-- A mark becomes the text of its slot. -/
theorem fillPieces_mark {m : Mark} {text : String} (h : slots.get? m.name = some text)
    (rest : List Char) :
    fillPieces slots (pieces (m.text.toList ++ rest)) =
      (fillPieces slots (pieces rest)).map (text.toList ++ ·) := by
  rw [pieces_of_slot? (slot?_mark m rest), String.ofList_toList, fill_slot h]

lemma fillPieces_mark_missing {m : Mark} (h : m.name ∉ slots.names) (rest : List Char) :
    fillPieces slots (pieces (m.text.toList ++ rest)) = .error (.emptySlot m.name) := by
  rw [pieces_of_slot? (slot?_mark m rest), String.ofList_toList, fillPieces,
    Pairs.get?_eq_none_iff.2 h]

/-! ## Templates -/

namespace Layout

lemma restText_cons (m : Mark) (t : Literal) (rest : List (Mark × Literal)) :
    restText ((m, t) :: rest) = m.text ++ (t.text ++ restText rest) := by
  rw [restText, List.map_cons, String.join_cons, String.append_assoc]
  rfl

lemma substituteRest_cons (m : Mark) (t : Literal) (rest : List (Mark × Literal)) :
    substituteRest slots ((m, t) :: rest) =
      (slots.get? m.name).getD "" ++ (t.text ++ substituteRest slots rest) := by
  rw [substituteRest, List.map_cons, String.join_cons, String.append_assoc]
  rfl

/-- A literal text ends where the marks behind it begin. -/
lemma endsLiteral_restText (rest : List (Mark × Literal)) : EndsLiteral (restText rest).toList := by
  cases rest with
  | nil => exact .inl rfl
  | cons p rest =>
    obtain ⟨m, t⟩ := p
    rw [restText_cons]
    exact .inr ⟨(m.before ++ m.name ++ m.after ++ "\x7d\x7d" ++ (t.text ++ restText rest)).toList,
      by simp [Mark.text]⟩

/-- A mark that has a text, with the literal text behind it. -/
lemma fillPieces_cons {m : Mark} (h : m.name ∈ slots.names) (t : Literal)
    (rest : List (Mark × Literal)) :
    fillPieces slots (pieces (restText ((m, t) :: rest)).toList) =
      (fillPieces slots (pieces (restText rest).toList)).map fun cs =>
        ((slots.get? m.name).getD "").toList ++ (t.text.toList ++ cs) := by
  have hsome : slots.get? m.name ≠ none := fun hnone => Pairs.get?_eq_none_iff.1 hnone h
  obtain ⟨text, htext⟩ := Option.ne_none_iff_exists'.1 hsome
  rw [restText_cons, String.toList_append, String.toList_append, fillPieces_mark htext,
    fillPieces_literal t.closed (endsLiteral_restText rest), htext]
  cases fillPieces slots (pieces (restText rest).toList) <;> rfl

/-- Marks that all have a text, one after the other with the literal texts behind them. -/
lemma fillPieces_rest {rest : List (Mark × Literal)} (h : ∀ p ∈ rest, p.1.name ∈ slots.names) :
    fillPieces slots (pieces (restText rest).toList) = .ok (substituteRest slots rest).toList := by
  induction rest with
  | nil =>
    have hnil : pieces (restText []).toList = [] := by
      have hempty : (restText []).toList = [] := rfl
      rw [hempty, pieces]
    rw [hnil]
    rfl
  | cons p rest ih =>
    obtain ⟨m, t⟩ := p
    rw [List.forall_mem_cons] at h
    rw [fillPieces_cons h.1, ih h.2, substituteRest_cons]
    simp [Except.map]

/-- The first mark without a text, behind marks that have one. -/
lemma fillPieces_rest_missing {rest : List (Mark × Literal)} {before after : List String}
    {name : String} (hnames : rest.map (·.1.name) = before ++ name :: after)
    (hbefore : ∀ other ∈ before, other ∈ slots.names) (hname : name ∉ slots.names) :
    fillPieces slots (pieces (restText rest).toList) = .error (.emptySlot name) := by
  induction before generalizing rest with
  | nil =>
    obtain ⟨⟨m, t⟩, rest, rfl, rfl, -⟩ := List.map_eq_cons_iff.1 hnames
    rw [restText_cons, String.toList_append, fillPieces_mark_missing hname]
  | cons other before ih =>
    obtain ⟨⟨m, t⟩, rest, rfl, rfl, hrest⟩ := List.map_eq_cons_iff.1 hnames
    rw [List.forall_mem_cons] at hbefore
    rw [fillPieces_cons hbefore.1, ih hrest hbefore.2]
    rfl

end Layout

/-- A template whose marks all have a text becomes its literal texts with these between them. -/
theorem fill_layout {l : Layout} (hr : reservedSlot ∉ slots.names)
    (h : ∀ name ∈ l.names, name ∈ slots.names) : fill l.text slots = .ok (l.substitute slots) := by
  have hrest : ∀ p ∈ l.rest, p.1.name ∈ slots.names := fun p hp =>
    h _ (List.mem_map_of_mem (f := fun p : Mark × Literal => p.1.name) hp)
  rw [fill_of_not_mem hr, Layout.text, String.toList_append,
    fillPieces_literal l.head.closed (Layout.endsLiteral_restText _), Layout.fillPieces_rest hrest]
  simp [Except.map, Layout.substitute]

/-- A template fails with the first of its marks that has no text. -/
theorem fill_layout_missing {l : Layout} {before after : List String} {name : String}
    (hr : reservedSlot ∉ slots.names) (hnames : l.names = before ++ name :: after)
    (hbefore : ∀ other ∈ before, other ∈ slots.names) (hname : name ∉ slots.names) :
    fill l.text slots = .error (.emptySlot name) := by
  rw [fill_of_not_mem hr, Layout.text, String.toList_append,
    fillPieces_literal l.head.closed (Layout.endsLiteral_restText _),
    Layout.fillPieces_rest_missing hnames hbefore hname]
  rfl

/-! ## Scripts -/

/-- A set has a template of the given layout under a name, with marks for some slots only. -/
def IsLaidOut (templates : Pairs String) (name : String) (l : Layout) (known : List String) :
    Prop :=
  templates.get? name = some l.text ∧ ∀ slot ∈ l.names, slot ∈ known

lemma fillNamed_layout {templates : Pairs String} {name : String} {l : Layout}
    (slots : Pairs String) (h : IsLaidOut templates name l slots.names)
    (hr : reservedSlot ∉ slots.names) :
    fillNamed templates name slots = .ok (l.substitute slots) := by
  unfold fillNamed
  rw [h.1]
  exact fill_layout hr h.2

variable {templates : Pairs String} {table : String} {tableLayout : Layout}

/-- The script of a Convert table takes over the texts of its columns. -/
theorem renderConvert_layout {column : Column → Layout} {columns : List Column}
    (hcolumn : ∀ c ∈ columns, IsLaidOut templates (columnTemplate c) (column c) ["type", "name"])
    (htable : IsLaidOut templates "Table" tableLayout ["table", "columns"]) :
    renderConvert templates table columns = .ok (tableLayout.substitute
      [("table", table), ("columns", String.join (columns.map fun c =>
        (column c).substitute [("type", c.type), ("name", c.name)]))]) := by
  have hlines := mapM_eq_ok_map fun c hc =>
    fillNamed_layout [("type", c.type), ("name", c.name)] (hcolumn c hc)
      (by simp [Pairs.names, reservedSlot])
  exact except_bind_eq_ok.2
    ⟨_, hlines, fillNamed_layout _ htable (by simp [Pairs.names, reservedSlot])⟩

/-- The lines of an enumeration take over the texts of its members. -/
lemma renderEnumBlock_layout {member enum : Layout} (declaration : EnumDeclaration)
    (hmember : IsLaidOut templates "Member" member ["name"])
    (henum : IsLaidOut templates "Enum" enum ["name", "members"]) :
    renderEnumBlock templates declaration = .ok (enum.substitute
      [("name", declaration.name), ("members", String.join (declaration.members.map fun m =>
        member.substitute [("name", m)]))]) := by
  have hlines := mapM_eq_ok_map fun m (_ : m ∈ declaration.members) =>
    fillNamed_layout [("name", m)] hmember (by simp [Pairs.names, reservedSlot])
  exact except_bind_eq_ok.2
    ⟨_, hlines, fillNamed_layout _ henum (by simp [Pairs.names, reservedSlot])⟩

/-- The script of an Enum table takes over the texts of its enumerations. -/
theorem renderEnum_layout {member enum : Layout} {enums : List EnumDeclaration}
    (hmember : IsLaidOut templates "Member" member ["name"])
    (henum : IsLaidOut templates "Enum" enum ["name", "members"])
    (htable : IsLaidOut templates "Table" tableLayout ["table", "enums"]) :
    renderEnum templates table enums = .ok (tableLayout.substitute
      [("table", table), ("enums", String.join (enums.map fun d => enum.substitute
        [("name", d.name), ("members", String.join (d.members.map fun m =>
          member.substitute [("name", m)]))]))]) := by
  have hblocks := mapM_eq_ok_map fun d (_ : d ∈ enums) =>
    renderEnumBlock_layout d hmember henum
  exact except_bind_eq_ok.2
    ⟨_, hblocks, fillNamed_layout _ htable (by simp [Pairs.names, reservedSlot])⟩

/-- The script of a Variable table takes over the texts of its constants. -/
theorem renderVariable_layout {constant : Layout} {constants : List VariableDeclaration}
    (hconstant : IsLaidOut templates "Variable" constant ["name", "type", "value"])
    (htable : IsLaidOut templates "Table" tableLayout ["table", "variables"]) :
    renderVariable templates table constants = .ok (tableLayout.substitute
      [("table", table), ("variables", String.join (constants.map fun v => constant.substitute
        [("name", v.name), ("type", v.typeName), ("value", v.literal)]))]) := by
  have hlines := mapM_eq_ok_map fun v (_ : v ∈ constants) =>
    fillNamed_layout [("name", v.name), ("type", v.typeName), ("value", v.literal)]
      hconstant (by simp [Pairs.names, reservedSlot])
  exact except_bind_eq_ok.2
    ⟨_, hlines, fillNamed_layout _ htable (by simp [Pairs.names, reservedSlot])⟩

/-! ## Substitution -/

/-- Filling a template is substitution in one pass: a template whose marks all have a text becomes
its literal texts with these texts between them, whatever the texts are, and else the first mark
without one is named. So the scripts of tables take over all texts as they are, with templates of
any layout and with the shipped ones. -/
theorem filling_is_substitution :
    (∀ (l : Layout) (slots : Pairs String), reservedSlot ∉ slots.names →
      ((∀ name ∈ l.names, name ∈ slots.names) → fill l.text slots = .ok (l.substitute slots)) ∧
      ∀ before name after, l.names = before ++ name :: after →
        (∀ other ∈ before, other ∈ slots.names) → name ∉ slots.names →
        fill l.text slots = .error (.emptySlot name)) ∧
    (∀ (templates : Pairs String) (tableLayout : Layout) (column : Column → Layout) table columns,
      IsLaidOut templates "Table" tableLayout ["table", "columns"] →
      (∀ c ∈ columns, IsLaidOut templates (columnTemplate c) (column c) ["type", "name"]) →
      renderConvert templates table columns = .ok (tableLayout.substitute
        [("table", table), ("columns", String.join (columns.map fun c =>
          (column c).substitute [("type", c.type), ("name", c.name)]))])) ∧
    (∀ (templates : Pairs String) (tableLayout enum member : Layout) table enums,
      IsLaidOut templates "Table" tableLayout ["table", "enums"] →
      IsLaidOut templates "Enum" enum ["name", "members"] →
      IsLaidOut templates "Member" member ["name"] →
      renderEnum templates table enums = .ok (tableLayout.substitute
        [("table", table), ("enums", String.join (enums.map fun d => enum.substitute
          [("name", d.name), ("members", String.join (d.members.map fun m =>
            member.substitute [("name", m)]))]))])) ∧
    (∀ (templates : Pairs String) (tableLayout constant : Layout) table constants,
      IsLaidOut templates "Table" tableLayout ["table", "variables"] →
      IsLaidOut templates "Variable" constant ["name", "type", "value"] →
      renderVariable templates table constants = .ok (tableLayout.substitute
        [("table", table), ("variables", String.join (constants.map fun v => constant.substitute
          [("name", v.name), ("type", v.typeName), ("value", v.literal)]))])) ∧
    ∀ table,
      (∀ columns, renderConvert (shipped .convert) table columns =
        .ok (lines (convertScriptTexts table columns))) ∧
      (∀ enums, renderEnum (shipped .enum) table enums =
        .ok (lines (enumScriptTexts table enums))) ∧
      ∀ constants, renderVariable (shipped .variable) table constants =
        .ok (lines (variableScriptTexts table constants)) := by
  refine ⟨fun l slots hr => ⟨fill_layout hr, fun _ _ _ => fill_layout_missing hr⟩, ?_, ?_, ?_, ?_⟩
  · intro templates tableLayout column table columns htable hcolumn
    exact renderConvert_layout hcolumn htable
  · intro templates tableLayout enum member table enums htable henum hmember
    exact renderEnum_layout hmember henum htable
  · intro templates tableLayout constant table constants htable hconstant
    exact renderVariable_layout hconstant htable
  · intro table
    exact ⟨renderConvert_eq table, renderEnum_eq table, renderVariable_eq table⟩

/-- Two marks next to stray braces, one of them with blanks. -/
def bracedLayout : Layout :=
  ⟨⟨"\x7b", by decide⟩,
    [(⟨" ", "name", "\t", by decide, by decide, by decide, by decide⟩, ⟨"\x7d \x7b", by decide⟩),
      (.plain "type" (by decide), ⟨"\x7d\x7d", by decide⟩)]⟩

theorem filling_is_substitution_braced :
    (bracedLayout.text = "\x7b\x7b\x7b name\t\x7d\x7d\x7d \x7b\x7b\x7btype\x7d\x7d\x7d\x7d" ∧
      fill bracedLayout.text [("name", "\x7b\x7btype\x7d\x7d"), ("type", "\x7d\x7d")] =
        .ok "\x7b\x7b\x7btype\x7d\x7d\x7d \x7b\x7d\x7d\x7d\x7d" ∧
      fill bracedLayout.text [("name", "x")] = .error (.emptySlot "type")) ∧
    renderConvert [("Table", (Layout.only "columns" (by decide)).text),
        ("GeneralCol", bracedLayout.text)] "T" [⟨0, "\x7b\x7bcolumns\x7d\x7d", "int", false⟩] =
      .ok "\x7b\x7b\x7bcolumns\x7d\x7d\x7d \x7bint\x7d\x7d" ∧
    renderEnum [("Table", (Layout.only "enums" (by decide)).text),
        ("Enum", (Layout.only "members" (by decide)).text),
        ("Member", (Layout.only "name" (by decide)).text)] "T"
        [⟨"E", ["\x7b\x7bname", "\x7d\x7d"]⟩] =
      .ok "\x7b\x7bname\x7d\x7d" ∧
    renderVariable [("Table", (Layout.only "variables" (by decide)).text),
        ("Variable", (Layout.only "value" (by decide)).text)] "T"
        [⟨"A", "str", "\x27\x7b\x7bname\x7d\x7d\x27"⟩] =
      .ok "\x27\x7b\x7bname\x7d\x7d\x27" := by
  refine ⟨⟨by decide, ?_, ?_⟩, ?_, ?_, ?_⟩
  · exact (filling_is_substitution.1 bracedLayout _ (by decide)).1 (by decide)
  · exact (filling_is_substitution.1 bracedLayout _ (by decide)).2 ["name"] "type" [] rfl
      (by decide) (by decide)
  · exact filling_is_substitution.2.1 _ (.only "columns" (by decide)) (fun _ => bracedLayout) "T" _
      ⟨rfl, by decide⟩ (List.forall_mem_singleton.2 ⟨by decide, by decide⟩)
  · exact filling_is_substitution.2.2.1 _ (.only "enums" (by decide)) (.only "members" (by decide))
      (.only "name" (by decide)) "T" _ ⟨rfl, by decide⟩ ⟨rfl, by decide⟩ ⟨rfl, by decide⟩
  · exact filling_is_substitution.2.2.2.1 _ (.only "variables" (by decide))
      (.only "value" (by decide)) "T" _ ⟨rfl, by decide⟩ ⟨rfl, by decide⟩

/-- The name of the template itself is no slot, so that its mark is never filled. -/
theorem fill_reservedSlot :
    (Layout.only "template" (by decide)).text = "\x7b\x7btemplate\x7d\x7d" ∧
      (∀ name ∈ (Layout.only "template" (by decide)).names,
        name ∈ Pairs.names [("template", "x")]) ∧
      (Layout.only "template" (by decide)).substitute [("template", "x")] = "x" ∧
      fill (Layout.only "template" (by decide)).text [("template", "x")] =
        .error (.reservedSlot "template") :=
  ⟨by decide, by decide, by decide, rfl⟩

end SheetCompiler.Template
