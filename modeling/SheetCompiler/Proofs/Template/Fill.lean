import SheetCompiler.Proofs.Stateful
import SheetCompiler.Template.Render
import SheetCompiler.Template.Shipped

/-!
# The texts of filled templates

What a filled template reads, part by part (`Fills`): text without braces stands as it is, a mark
becomes the text of its slot, and parts one after the other become texts one after the other. So the
script of a table never fails for a shipped template.

Main statements:

* `slot?_mark`: a mark is a slot, with its blanks or without;
* `fill_of_fills`: the text of a filled template;
* `renderEnum_eq`, `renderVariable_eq` and `renderConvert_eq`: the lines of the script of a table.
-/

namespace SheetCompiler.Template

open SheetCompiler.Text

/-! ## Pieces -/

/-- A slot at the beginning of a text is its first piece. -/
lemma pieces_of_slot? {cs name rest : List Char} (h : slot? cs = some (name, rest)) :
    pieces cs = .slot (String.ofList name) :: pieces rest := by
  cases cs with
  | nil => cases h
  | cons c cs =>
    rw [pieces]
    split
    · rename_i found more heq
      rw [h] at heq
      cases heq
      rfl
    · rename_i heq
      rw [h] at heq
      cases heq

/-- A character that opens no slot is a piece of its own. -/
lemma pieces_cons_of_slot?_eq_none {c : Char} {cs : List Char} (h : slot? (c :: cs) = none) :
    pieces (c :: cs) = .char c :: pieces cs := by
  rw [pieces]
  split
  · rename_i heq
    rw [h] at heq
    cases heq
  · rfl

lemma pieces_cons_of_ne {c : Char} (h : c ≠ '\x7b') (cs : List Char) :
    pieces (c :: cs) = .char c :: pieces cs := by
  refine pieces_cons_of_slot?_eq_none ?_
  unfold slot?
  split
  · rename_i heq
    exact absurd (List.cons.inj heq).1 h
  · rfl

/-! ## Marks -/

/-- A mark as it may be written: a name of word characters, with blanks on either side or not. -/
structure Mark where
  before : String
  name : String
  after : String
  named : name.toList ≠ []
  word : ∀ c ∈ name.toList, isWord c = true
  blankBefore : ∀ c ∈ before.toList, isBlank c = true
  blankAfter : ∀ c ∈ after.toList, isBlank c = true

/-- The text of a mark. -/
def Mark.text (m : Mark) : String := "\x7b\x7b" ++ m.before ++ m.name ++ m.after ++ "\x7d\x7d"

/-- No character of a name separates words. -/
lemma isBlank_of_isWord {c : Char} (h : isWord c = true) : isBlank c = false := by
  have hstart : ∀ b ∈ blankRanges, ∀ r ∈ Identifier.startRanges, b.2 < r.1 ∨ r.2 < b.1 := by
    decide +kernel
  have hloose : ∀ b ∈ blankRanges, ∀ r ∈ looseWordRanges, b.2 < r.1 ∨ r.2 < b.1 := by
    decide +kernel
  have hascii : ∀ n < 128, blankRanges.contains n = true →
      ((Char.ofNat n).isAlphanum || decide (Char.ofNat n = '_')) = false := by
    decide +kernel
  rw [Bool.eq_false_iff]
  intro hb
  obtain ⟨b, hbmem, hfirst, hlast⟩ := Ranges.contains_iff.1 hb
  unfold isWord at h
  split_ifs at h with hc
  · rw [isAscii, decide_eq_true_eq] at hc
    have hnone := hascii c.toNat hc hb
    rw [Char.ofNat_toNat, h] at hnone
    cases hnone
  · rw [Bool.or_eq_true, Bool.and_eq_true] at h
    rcases h with ⟨hin, -⟩ | hin
    · obtain ⟨r, hr, hge, hle⟩ := Ranges.contains_iff.1 hin
      have := hstart b hbmem r hr
      omega
    · obtain ⟨r, hr, hge, hle⟩ := Ranges.contains_iff.1 hin
      have := hloose b hbmem r hr
      omega

/-- A mark is the slot of its name, with all its blanks. -/
lemma slot?_mark (m : Mark) (rest : List Char) :
    slot? (m.text.toList ++ rest) = some (m.name.toList, rest) := by
  have hopen : m.text.toList ++ rest = '\x7b' :: '\x7b' :: (m.before.toList ++
      (m.name.toList ++ (m.after.toList ++ '\x7d' :: '\x7d' :: rest))) := by
    simp [Mark.text]
  have hclose : isWord '\x7d' = false := by decide
  have hclose' : isBlank '\x7d' = false := by decide
  -- the blanks in front end where the name begins
  have hdrop : (m.name.toList ++ (m.after.toList ++ '\x7d' :: '\x7d' :: rest)).dropWhile isBlank =
      m.name.toList ++ (m.after.toList ++ '\x7d' :: '\x7d' :: rest) := by
    cases hn : m.name.toList with
    | nil => exact absurd hn m.named
    | cons c cs =>
      have hc := isBlank_of_isWord (m.word c (by rw [hn]; exact List.mem_cons_self))
      rw [List.cons_append, List.dropWhile_cons_of_neg (by rw [hc]; exact Bool.false_ne_true)]
  -- and the name ends where the blanks behind it or the closing braces begin
  have hend : ∃ c more, m.after.toList ++ '\x7d' :: '\x7d' :: rest = c :: more ∧
      isWord c = false := by
    cases ha : m.after.toList with
    | nil => exact ⟨_, _, rfl, hclose⟩
    | cons c cs =>
      have hblank := m.blankAfter c (by rw [ha]; exact List.mem_cons_self)
      refine ⟨c, _, rfl, ?_⟩
      rw [Bool.eq_false_iff]
      intro hword
      rw [isBlank_of_isWord hword] at hblank
      cases hblank
  obtain ⟨c, more, hmore, hc⟩ := hend
  have htake : (m.name.toList ++ (m.after.toList ++ '\x7d' :: '\x7d' :: rest)).takeWhile isWord =
      m.name.toList := by
    rw [List.takeWhile_append_of_pos m.word, hmore, List.takeWhile_cons_of_neg (by simp [hc]),
      List.append_nil]
  have hbehind : (m.name.toList ++ (m.after.toList ++ '\x7d' :: '\x7d' :: rest)).dropWhile isWord =
      m.after.toList ++ '\x7d' :: '\x7d' :: rest := by
    rw [List.dropWhile_append_of_pos m.word, hmore, List.dropWhile_cons_of_neg (by simp [hc])]
  rw [hopen, slot?, List.dropWhile_append_of_pos m.blankBefore, hdrop, htake, hbehind,
    List.dropWhile_append_of_pos m.blankAfter, List.dropWhile_cons_of_neg (by simp [hclose'])]
  simp [m.named]

/-- A name that a mark can hold: word characters, none of them blank. -/
def isSlotName (name : String) : Bool :=
  !name.toList.isEmpty && name.toList.all fun c => isWord c && !isBlank c

lemma isSlotName_iff {name : String} : isSlotName name = true ↔
    name.toList ≠ [] ∧ ∀ c ∈ name.toList, isWord c = true ∧ isBlank c = false := by
  simp [isSlotName]

/-- A mark without blanks. -/
def Mark.plain (name : String) (h : isSlotName name = true) : Mark :=
  ⟨"", name, "", (isSlotName_iff.1 h).1, fun c hc => ((isSlotName_iff.1 h).2 c hc).1,
    fun _ hc => (List.not_mem_nil hc).elim, fun _ hc => (List.not_mem_nil hc).elim⟩

/-- A mark without blanks is one slot, as any mark. -/
lemma pieces_mark {name : String} (hname : isSlotName name = true) (rest : List Char) :
    pieces ((mark name).toList ++ rest) = .slot name :: pieces rest := by
  have hmark : (Mark.plain name hname).text = mark name := by
    simp [Mark.text, Mark.plain, mark]
  have hslot := slot?_mark (.plain name hname) rest
  rw [hmark] at hslot
  rw [pieces_of_slot? hslot]
  exact congrArg (Piece.slot · :: pieces rest) String.ofList_toList

/-! ## Parts of templates -/

/-- A part of a template is filled with a text, whatever follows it. -/
def Fills (slots : Pairs String) (part text : String) : Prop :=
  ∀ rest, fillPieces slots (pieces (part.toList ++ rest)) =
    (fillPieces slots (pieces rest)).map (text.toList ++ ·)

variable {slots : Pairs String}

lemma Fills.append {part part' text text' : String} (h : Fills slots part text)
    (h' : Fills slots part' text') : Fills slots (part ++ part') (text ++ text') := by
  intro rest
  rw [String.toList_append, List.append_assoc, h, h']
  cases fillPieces slots (pieces rest) <;> simp [Except.map]

/-- Text without braces stands as it is. -/
lemma Fills.plain {part : String} (h : '\x7b' ∉ part.toList) : Fills slots part part := by
  intro rest
  -- on the characters of the part, each of which is a piece of its own
  revert h
  generalize part.toList = cs
  intro h
  induction cs with
  | nil =>
    rw [List.nil_append]
    cases fillPieces slots (pieces rest) <;> rfl
  | cons c cs ih =>
    rw [List.mem_cons, not_or] at h
    rw [List.cons_append, pieces_cons_of_ne (Ne.symm h.1), fill_char, ih h.2]
    cases fillPieces slots (pieces rest) <;> rfl

/-- A literal without braces stands as it is. -/
lemma Fills.literal {cs : List Char} (h : '\x7b' ∉ cs) :
    Fills slots (String.ofList cs) (String.ofList cs) :=
  .plain (by rwa [String.toList_ofList])

/-- A mark becomes the text of its slot. -/
lemma Fills.mark {name text : String} (h : slots.get? name = some text)
    (hname : isSlotName name = true) : Fills slots (mark name) text := by
  intro rest
  rw [pieces_mark hname, fill_slot h]

lemma lines_cons (text : String) (texts : List String) :
    lines (text :: texts) = (text ++ "\n") ++ lines texts := by
  simp [lines, String.join_cons]

lemma lines_append (texts texts' : List String) :
    lines (texts ++ texts') = lines texts ++ lines texts' := by
  simp [lines, String.join_append]

/-- Lines are filled one by one. -/
lemma Fills.lines {parts texts : List String} (h : List.Forall₂ (Fills slots) parts texts) :
    Fills slots (lines parts) (lines texts) := by
  induction h with
  | nil => exact .literal (by decide)
  | cons h _ ih =>
    rw [lines_cons, lines_cons]
    exact (h.append (.literal (by decide))).append ih

/-- The text of a filled template. -/
theorem fill_of_fills {template text : String} (h : Fills slots template text)
    (hr : reservedSlot ∉ slots.names) : fill template slots = .ok text := by
  have hfill := h []
  have hnil : fillPieces slots (pieces []) = .ok [] := by
    rw [pieces]
    rfl
  rw [List.append_nil, hnil] at hfill
  rw [fill_of_not_mem hr, hfill]
  simp [Except.map]

lemma fillNamed_of_fills {templates : Pairs String} {name template text : String}
    (ht : templates.get? name = some template) (h : Fills slots template text)
    (hr : reservedSlot ∉ slots.names) : fillNamed templates name slots = .ok text := by
  unfold fillNamed
  rw [ht]
  exact fill_of_fills h hr

/-! ## Scripts of Enum tables -/

/-- The line of a member of an enumeration, which has its name as its value. -/
def memberText (member : String) : String := "        " ++ member ++ " = \"" ++ member ++ "\""

/-- The lines of an enumeration. -/
def enumTexts (declaration : EnumDeclaration) : List String :=
  ["", "    class " ++ declaration.name ++ "(Enum):"] ++ declaration.members.map memberText ++ [""]

/-- The lines of the script of an Enum table. -/
def enumScriptTexts (table : String) (enums : List EnumDeclaration) : List String :=
  ["# Generated by excel_database from the \"" ++ table ++ "\" table. Do not edit by hand.",
    "from enum import Enum", "", "from excel_database.runtime import register_enums", "", "",
    "@register_enums", "class Em" ++ table ++ ":",
    "    \"\"\"Enumerations declared by the " ++ table ++ " table.\"\"\""]
    ++ enums.flatMap enumTexts ++ [""]

/-- The texts of elements that are filled one by one. -/
lemma mapM_eq_ok_map {ε α β : Type} {f : α → Except ε β} {g : α → β} {xs : List α}
    (h : ∀ x ∈ xs, f x = .ok (g x)) : xs.mapM f = .ok (xs.map g) := by
  rw [mapM_eq_ok_iff, List.forall₂_map_right_iff, List.forall₂_same]
  exact h

lemma join_lines {α : Type} (f : α → List String) (xs : List α) :
    String.join (xs.map fun x => lines (f x)) = lines (xs.flatMap f) := by
  induction xs with
  | nil => rfl
  | cons x xs ih => rw [List.map_cons, String.join_cons, ih, List.flatMap_cons, lines_append]

/-- Lines that stand in the place of a line end in an empty one. -/
lemma lines_lines (before texts : List String) :
    lines (before ++ [lines texts]) = lines (before ++ texts ++ [""]) := by
  have hlast : lines [""] = "\n" := rfl
  rw [lines_append, lines_append, lines_append, hlast, String.append_assoc, lines_cons]
  simp [lines]

lemma fillNamed_member (member : String) :
    fillNamed (shipped .enum) "Member" [("name", member)] = .ok (lines [memberText member]) := by
  have hname : Fills [("name", member)] (mark "name") member := .mark rfl (by decide)
  have hline : Fills [("name", member)]
      ("        " ++ mark "name" ++ " = \"" ++ mark "name" ++ "\"") (memberText member) :=
    ((((Fills.literal (by decide)).append hname).append (.literal (by decide))).append hname).append
      (.literal (by decide))
  exact fillNamed_of_fills rfl (.lines (.cons hline .nil)) (by simp [Pairs.names, reservedSlot])

/-- The lines of the members stand in those of the enumeration. -/
lemma renderEnumBlock_eq (declaration : EnumDeclaration) :
    renderEnumBlock (shipped .enum) declaration = .ok (lines (enumTexts declaration)) := by
  have hmembers := mapM_eq_ok_map fun member (_ : member ∈ declaration.members) =>
    fillNamed_member member
  have hjoin : String.join (declaration.members.map fun m => lines [memberText m]) =
      lines (declaration.members.map memberText) := by
    rw [join_lines fun m => [memberText m], ← List.map_eq_flatMap]
  have hslots : (["name", "members"] : List String) = Pairs.names
      [("name", declaration.name), ("members", lines (declaration.members.map memberText))] := rfl
  refine except_bind_eq_ok.2 ⟨_, hmembers, ?_⟩
  rw [hjoin]
  refine fillNamed_of_fills rfl ?_ (by rw [← hslots]; decide)
  rw [enumTexts, ← lines_lines]
  have hhead : Fills [("name", declaration.name),
      ("members", lines (declaration.members.map memberText))]
      ("    class " ++ mark "name" ++ "(Enum):") ("    class " ++ declaration.name ++ "(Enum):") :=
    ((Fills.literal (by decide)).append (.mark rfl (by decide))).append (.literal (by decide))
  exact .lines (.cons (.literal (by decide)) (.cons hhead (.cons (.mark rfl (by decide)) .nil)))

/-- The script of an Enum table. -/
theorem renderEnum_eq (table : String) (enums : List EnumDeclaration) :
    renderEnum (shipped .enum) table enums = .ok (lines (enumScriptTexts table enums)) := by
  have hblocks := mapM_eq_ok_map fun declaration (_ : declaration ∈ enums) =>
    renderEnumBlock_eq declaration
  have hslots : (["table", "enums"] : List String) =
      Pairs.names [("table", table), ("enums", lines (enums.flatMap enumTexts))] := rfl
  refine except_bind_eq_ok.2 ⟨_, hblocks, ?_⟩
  rw [join_lines enumTexts]
  refine fillNamed_of_fills rfl ?_ (by rw [← hslots]; decide)
  rw [enumScriptTexts, ← lines_lines]
  -- the table is named in the first line, in the head of the container and in its description
  have hplain {cs : List Char} (h : '\x7b' ∉ cs) :
      Fills [("table", table), ("enums", lines (enums.flatMap enumTexts))]
        (String.ofList cs) (String.ofList cs) := .literal h
  have htable : Fills [("table", table), ("enums", lines (enums.flatMap enumTexts))]
      (mark "table") table := .mark rfl (by decide)
  exact .lines (.cons ((hplain (by decide)).append htable |>.append (hplain (by decide)))
    (.cons (hplain (by decide)) (.cons (hplain (by decide)) (.cons (hplain (by decide))
      (.cons (hplain (by decide)) (.cons (hplain (by decide)) (.cons (hplain (by decide))
        (.cons ((hplain (by decide)).append htable |>.append (hplain (by decide)))
          (.cons ((hplain (by decide)).append htable |>.append (hplain (by decide)))
            (.cons (.mark rfl (by decide)) .nil))))))))))

/-! ## Scripts of Variable tables -/

/-- The line of a constant. -/
def constantText (v : VariableDeclaration) : String :=
  "    " ++ v.name ++ ": " ++ v.typeName ++ " = " ++ v.literal

/-- The lines of the script of a Variable table. -/
def variableScriptTexts (table : String) (constants : List VariableDeclaration) : List String :=
  ["# Generated by excel_database from the \"" ++ table ++ "\" table. Do not edit by hand.",
    "", "", "class Va" ++ table ++ ":",
    "    \"\"\"Constants declared by the " ++ table ++ " table.\"\"\"", ""]
    ++ constants.map constantText ++ [""]

lemma fillNamed_constant (v : VariableDeclaration) :
    fillNamed (shipped .variable) "Variable"
      [("name", v.name), ("type", v.typeName), ("value", v.literal)] =
        .ok (lines [constantText v]) := by
  have hslots : (["name", "type", "value"] : List String) = Pairs.names
      [("name", v.name), ("type", v.typeName), ("value", v.literal)] := rfl
  refine fillNamed_of_fills rfl (.lines (.cons ?_ .nil)) (by rw [← hslots]; decide)
  exact (((((Fills.literal (by decide)).append (.mark rfl (by decide))).append
    (.literal (by decide))).append (.mark rfl (by decide))).append (.literal (by decide))).append
      (.mark rfl (by decide))

/-- The script of a Variable table. -/
theorem renderVariable_eq (table : String) (constants : List VariableDeclaration) :
    renderVariable (shipped .variable) table constants =
      .ok (lines (variableScriptTexts table constants)) := by
  have hconstants := mapM_eq_ok_map fun v (_ : v ∈ constants) => fillNamed_constant v
  have hslots : (["table", "variables"] : List String) =
      Pairs.names [("table", table), ("variables", lines (constants.map constantText))] := rfl
  refine except_bind_eq_ok.2 ⟨_, hconstants, ?_⟩
  rw [join_lines fun v => [constantText v], ← List.map_eq_flatMap]
  refine fillNamed_of_fills rfl ?_ (by rw [← hslots]; decide)
  rw [variableScriptTexts, ← lines_lines]
  have hplain {cs : List Char} (h : '\x7b' ∉ cs) :
      Fills [("table", table), ("variables", lines (constants.map constantText))]
        (String.ofList cs) (String.ofList cs) := .literal h
  have htable : Fills [("table", table), ("variables", lines (constants.map constantText))]
      (mark "table") table := .mark rfl (by decide)
  exact .lines (.cons ((hplain (by decide)).append htable |>.append (hplain (by decide)))
    (.cons (hplain (by decide)) (.cons (hplain (by decide))
      (.cons ((hplain (by decide)).append htable |>.append (hplain (by decide)))
        (.cons ((hplain (by decide)).append htable |>.append (hplain (by decide)))
          (.cons (hplain (by decide)) (.cons (.mark rfl (by decide)) .nil)))))))

/-! ## Scripts of Convert tables -/

/-- The line of a column. -/
def columnText (c : Column) : String :=
  "    " ++ c.name ++ " = " ++ (if c.isReference then "Reference" else "Field") ++ "(\"" ++ c.type
    ++ "\"" ++ (if c.isArray then ", array=True)" else ")")

/-- The lines of the script of a Convert table. -/
def convertScriptTexts (table : String) (columns : List Column) : List String :=
  ["# Generated by excel_database from the \"" ++ table ++ "\" table. Do not edit by hand.",
    "from excel_database.runtime import Field, Record, Reference, Table", "", "",
    "class Tb" ++ table ++ "Type(Record):",
    "    \"\"\"One row of the " ++ table ++ " table.\"\"\"", ""]
    ++ columns.map columnText ++ [""]
    ++ ["", "Tb" ++ table ++ " = Table(\"" ++ table ++ "\", Tb" ++ table ++ "Type)"]

lemma fillNamed_column (c : Column) :
    fillNamed (shipped .convert) (columnTemplate c) [("type", c.type), ("name", c.name)] =
      .ok (lines [columnText c]) := by
  have hslots : (["type", "name"] : List String) =
      Pairs.names [("type", c.type), ("name", c.name)] := rfl
  -- the template that a column takes declares it as what it is
  have htemplate : (shipped .convert).get? (columnTemplate c) =
      some (columnLine (if c.isReference then "Reference" else "Field") c.isArray) := by
    unfold columnTemplate
    cases c.isReference <;> cases c.isArray <;> rfl
  have hdeclarer : '\x7b' ∉ (if c.isReference then "Reference" else "Field").toList := by
    cases c.isReference <;> decide
  have hend : '\x7b' ∉ (if c.isArray then ", array=True)" else ")").toList := by
    cases c.isArray <;> decide
  refine fillNamed_of_fills htemplate (.lines (.cons ?_ .nil)) (by rw [← hslots]; decide)
  exact (((((((Fills.literal (by decide)).append (.mark rfl (by decide))).append
    (.literal (by decide))).append (.plain hdeclarer)).append (.literal (by decide))).append
      (.mark rfl (by decide))).append (.literal (by decide))).append (.plain hend)

/-- The script of a Convert table. -/
theorem renderConvert_eq (table : String) (columns : List Column) :
    renderConvert (shipped .convert) table columns =
      .ok (lines (convertScriptTexts table columns)) := by
  have hcolumns := mapM_eq_ok_map fun c (_ : c ∈ columns) => fillNamed_column c
  have hslots : (["table", "columns"] : List String) =
      Pairs.names [("table", table), ("columns", lines (columns.map columnText))] := rfl
  refine except_bind_eq_ok.2 ⟨_, hcolumns, ?_⟩
  rw [join_lines fun c => [columnText c], ← List.map_eq_flatMap]
  refine fillNamed_of_fills rfl ?_ (by rw [← hslots]; decide)
  -- the lines of the columns stand in front of the last two lines
  rw [convertScriptTexts, lines_append, ← lines_lines, ← lines_append]
  have hplain {cs : List Char} (h : '\x7b' ∉ cs) :
      Fills [("table", table), ("columns", lines (columns.map columnText))]
        (String.ofList cs) (String.ofList cs) := .literal h
  have htable : Fills [("table", table), ("columns", lines (columns.map columnText))]
      (mark "table") table := .mark rfl (by decide)
  have hlast : Fills [("table", table), ("columns", lines (columns.map columnText))]
      ("Tb" ++ mark "table" ++ " = Table(\"" ++ mark "table" ++ "\", Tb" ++ mark "table" ++ "Type)")
      ("Tb" ++ table ++ " = Table(\"" ++ table ++ "\", Tb" ++ table ++ "Type)") :=
    (((((hplain (by decide)).append htable).append (hplain (by decide))).append htable).append
      (hplain (by decide))).append htable |>.append (hplain (by decide))
  exact .lines (.cons ((hplain (by decide)).append htable |>.append (hplain (by decide)))
    (.cons (hplain (by decide)) (.cons (hplain (by decide)) (.cons (hplain (by decide))
      (.cons ((hplain (by decide)).append htable |>.append (hplain (by decide)))
        (.cons ((hplain (by decide)).append htable |>.append (hplain (by decide)))
          (.cons (hplain (by decide)) (.cons (.mark rfl (by decide)) (.cons (hplain (by decide))
            (.cons hlast .nil))))))))))

end SheetCompiler.Template
