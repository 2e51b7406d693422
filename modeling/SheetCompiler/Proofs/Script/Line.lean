import SheetCompiler.Proofs.Script.Token
import SheetCompiler.Proofs.Template.Fill
import SheetCompiler.Proofs.Text.Compatible
import SheetCompiler.Script.Statement

/-!
# Lines of generated scripts

A script is read line by line. Every line of a generated script is a whole one: it holds nothing, or
it is one of the lines that statements are made of (`Reads`).

Main statements:

* `scriptLines_lines`: the lines of a script are those it was put together from;
* `Reads.readLines_eq`: its lines are read one by one;
* `readBody_group`: a class is read with its body;
* `statements?_of_reads`: the statements of a script are those of its lines.
-/

namespace SheetCompiler.Script

open SheetCompiler.Text

/-! ## Names -/

section

variable {name : String}

/-- The compatible form of a name that does not begin with an underscore is not a special name. -/
lemma compatibleForm_ne (h : isIdentifier name = true) (hplain : name.toList.head? ≠ some '_')
    {special : String} (hs : special.toList.head? = some '_') : compatibleForm name ≠ special := by
  intro heq
  have hhead := head?_compatibleForm_ne (isIdentifierChars_of_isIdentifier h) hplain
  rw [heq] at hhead
  exact hhead hs

lemma head?_ne_of_startsWith (h : startsWith "_" name = false) : name.toList.head? ≠ some '_' := by
  intro hhead
  cases hn : name.toList with
  | nil => rw [hn] at hhead; cases hhead
  | cons c cs =>
    rw [hn, List.head?_cons, Option.some.injEq] at hhead
    rw [startsWith, hn, hhead] at h
    cases h

lemma isBindable_compatibleForm (h : isIdentifier name = true)
    (hplain : name.toList.head? ≠ some '_') : isBindable (compatibleForm name) = true := by
  rw [isBindable, decide_eq_true_eq]
  exact compatibleForm_ne h hplain rfl

lemma all_continuesIdentifier (h : isIdentifier name = true) :
    name.toList.all continuesIdentifier = true :=
  List.all_eq_true.2 fun _ hc =>
    continuesIdentifier_of_mem (isIdentifierChars_of_isIdentifier h) hc

/-- A name begins like an identifier, and like no reserved word. -/
lemma isIdentifier_append {start rest : String} (hstart : isIdentifierChars start.toList = true)
    (hrest : rest.toList.all continuesIdentifier = true)
    (hreserved : ∀ word ∈ reservedWords, start.toList.isPrefixOf word.toList = false) :
    isIdentifier (start ++ rest) = true := by
  have hnot : reservedWords.contains (start ++ rest) = false := by
    rw [← Bool.not_eq_true, List.contains_iff_mem]
    intro hmem
    have hprefix : start.toList.isPrefixOf (start ++ rest).toList = true := by
      rw [String.toList_append, List.isPrefixOf_iff_prefix]
      exact List.prefix_append _ _
    rw [hreserved _ hmem] at hprefix
    cases hprefix
  rw [isIdentifier, hnot, String.toList_append]
  cases hs : start.toList with
  | nil => rw [hs] at hstart; cases hstart
  | cons c cs =>
    rw [hs, isIdentifierChars, Bool.and_eq_true] at hstart
    rw [List.cons_append, isIdentifierChars, List.all_append, hstart.1, hstart.2, hrest]
    rfl

end

/-! ## Texts of lines -/

/-- Whether a character may stand in a line: it ends no line and no text. -/
def isLineChar (c : Char) : Bool := !(['\n', '\r', '\x00'].contains c)

/-- The characters of a literal are looked at one by one, not decoded from its bytes. -/
lemma all_isLineChar_ofList {cs : List Char} (h : cs.all isLineChar = true) :
    (String.ofList cs).toList.all isLineChar = true := by
  rwa [String.toList_ofList]

lemma all_isLineChar_of_isIdentifierChars {cs : List Char} (h : isIdentifierChars cs = true) :
    cs.all isLineChar = true := by
  rw [List.all_eq_true]
  intro c hc
  have hcontinues := continuesIdentifier_of_mem h hc
  rw [isLineChar, Bool.not_eq_true', ← Bool.not_eq_true, List.contains_iff_mem]
  intro hmem
  have hnone : ['\n', '\r', '\x00'].all (fun d => !continuesIdentifier d) = true := by decide
  have hnot := List.all_eq_true.1 hnone c hmem
  rw [hcontinues] at hnot
  cases hnot

lemma notMem_of_isLineChar {cs : List Char} (h : cs.all isLineChar = true) {c : Char}
    (hc : isLineChar c = false) : c ∉ cs := by
  intro hmem
  rw [List.all_eq_true.1 h c hmem] at hc
  cases hc

variable {texts : List String}

lemma toList_lines (texts : List String) :
    (Template.lines texts).toList = texts.flatMap fun text => text.toList ++ ['\n'] := by
  induction texts with
  | nil => rfl
  | cons text texts ih =>
    rw [Template.lines_cons, String.toList_append, String.toList_append, ih, List.flatMap_cons]
    rfl

lemma lineFeeds_of_notMem {cs : List Char} (h : '\r' ∉ cs) : lineFeeds cs = cs := by
  induction cs with
  | nil => rfl
  | cons c cs ih =>
    rw [List.mem_cons, not_or] at h
    rw [lineFeeds, ih h.2]
    · rintro ds rfl
      exact absurd rfl h.1
    · rintro rfl
      exact absurd rfl h.1

/-- The lines of a script are those it was put together from. -/
theorem scriptLines_lines (h : ∀ text ∈ texts, text.toList.all isLineChar = true) :
    scriptLines (Template.lines texts) = texts.map String.toList := by
  -- every line has its line feed, so that nothing stands behind the last one
  have hsplit : splitOn '\n' (texts.flatMap fun text => text.toList ++ ['\n']) =
      texts.map String.toList ++ [[]] := by
    induction texts with
    | nil => rfl
    | cons text texts ih =>
      have hline := h text (by simp)
      rw [List.flatMap_cons, List.append_assoc, List.singleton_append,
        splitOn_append_cons (notMem_of_isLineChar hline (by decide)),
        ih fun t ht => h t (by simp [ht])]
      rfl
  have hreturn : '\r' ∉ (Template.lines texts).toList := by
    rw [toList_lines, List.mem_flatMap]
    rintro ⟨text, ht, hmem⟩
    rcases List.mem_append.1 hmem with hmem | hmem
    · exact notMem_of_isLineChar (h text ht) (by decide) hmem
    · exact absurd hmem (by decide)
  rw [scriptLines, lines, lineFeeds_of_notMem hreturn, toList_lines, hsplit]
  simp

/-- A script that is put together from lines ends where its last line does. -/
lemma contains_zero_lines (h : ∀ text ∈ texts, text.toList.all isLineChar = true) :
    (Template.lines texts).toList.contains '\x00' = false := by
  rw [← Bool.not_eq_true, List.contains_iff_mem, toList_lines, List.mem_flatMap]
  rintro ⟨text, ht, hmem⟩
  rcases List.mem_append.1 hmem with hmem | hmem
  · exact notMem_of_isLineChar (h text ht) (by decide) hmem
  · exact absurd hmem (by decide)

/-! ## Lines one by one -/

/-- Lines are read as lines that hold tokens, whatever follows them. -/
def Reads (texts : List String) (found : List (Depth × Line)) : Prop :=
  ∀ rest, readLines [] (texts.map String.toList ++ rest) = (readLines [] rest).map (found ++ ·)

lemma Reads.nil : Reads [] [] := by
  intro rest
  rw [List.map_nil, List.nil_append]
  cases readLines [] rest <;> rfl

lemma Reads.append {texts' : List String} {found found' : List (Depth × Line)}
    (h : Reads texts found) (h' : Reads texts' found') :
    Reads (texts ++ texts') (found ++ found') := by
  intro rest
  rw [List.map_append, List.append_assoc, h, h']
  cases readLines [] rest
  · rfl
  · simp

lemma Reads.flatMap {α : Type} {f : α → List String} {g : α → List (Depth × Line)} {xs : List α}
    (h : ∀ x ∈ xs, Reads (f x) (g x)) : Reads (xs.flatMap f) (xs.flatMap g) := by
  induction xs with
  | nil => exact .nil
  | cons x xs ih => exact (h x (by simp)).append (ih fun y hy => h y (by simp [hy]))

/-- A line without tokens is none. -/
lemma Reads.empty {text : String} (h : tokens text.toList = some []) : Reads [text] [] := by
  intro rest
  rw [List.map_singleton, List.singleton_append, readLines, List.nil_append, h]
  dsimp only
  cases readLines [] rest <;> rfl

lemma Reads.line {text : String} {t : Token} {ts : List Token} {l : Line} {d : Depth}
    (h : tokens text.toList = some (t :: ts)) (hl : line? (t :: ts) = some l)
    (hd : Depth.outermost.behind (text.toList.takeWhile isSpace) = d) :
    Reads [text] [(d, l)] := by
  intro rest
  rw [List.map_singleton, List.singleton_append, readLines, List.nil_append, h]
  dsimp only
  rw [hl, hd]
  cases readLines [] rest <;> rfl

/-- A line that is a literal: how deep it stands is seen from its characters. -/
lemma Reads.literal {cs : List Char} {t : Token} {ts : List Token} {l : Line} {d : Depth}
    (h : tokens (String.ofList cs).toList = some (t :: ts)) (hl : line? (t :: ts) = some l)
    (hd : Depth.outermost.behind (cs.takeWhile isSpace) = d) :
    Reads [String.ofList cs] [(d, l)] :=
  .line h hl (by rwa [String.toList_ofList])

/-- Lines that are all that is left. -/
theorem Reads.readLines_eq {found : List (Depth × Line)} (h : Reads texts found) :
    readLines [] (texts.map String.toList) = some found := by
  have hall := h []
  have hnil : readLines [] [] = some [] := rfl
  rw [List.append_nil, hnil, Option.map_some, List.append_nil] at hall
  exact hall

/-- A line with all brackets closed that is none of those that are known ends the reading. -/
lemma readLines_of_not_line {text : String} {t : Token} {ts : List Token}
    (h : tokens text.toList = some (t :: ts)) (hl : line? (t :: ts) = none)
    (hclosed : (t :: ts).foldl openBehind 0 = 0) (rest : List (List Char)) :
    readLines [] (text.toList :: rest) = none := by
  rw [readLines, List.nil_append, h]
  dsimp only
  rw [hl, hclosed]
  rfl

lemma reads_blankLine : Reads [""] [] := .empty rfl

/-- The first line of a script begins with the sign of comments. -/
lemma toList_banner (table : String) : ("# Generated by excel_database from the \"" ++ table ++
      "\" table. Do not edit by hand.").toList =
    '#' :: (" Generated by excel_database from the \"".toList ++ table.toList ++
      "\" table. Do not edit by hand.".toList) := by
  have hsign : "# Generated by excel_database from the \"".toList =
      '#' :: " Generated by excel_database from the \"".toList := by
    rw [String.toList_ofList, String.toList_ofList]
  rw [String.toList_append, String.toList_append, hsign, List.cons_append, List.cons_append]

/-- The first line of a script is a comment. -/
lemma reads_banner {table : String} (h : isIdentifier table = true) :
    Reads ["# Generated by excel_database from the \"" ++ table ++
      "\" table. Do not edit by hand."] [] := by
  have hchars := isIdentifierChars_of_isIdentifier h
  have hopened : '\n' ∉ " Generated by excel_database from the \"".toList := by
    rw [String.toList_ofList]
    decide
  have hclosed : '\n' ∉ "\" table. Do not edit by hand.".toList := by
    rw [String.toList_ofList]
    decide
  refine .empty ?_
  rw [toList_banner]
  refine tokens_of_hasTokens (.comment ?_)
  rw [List.mem_append, List.mem_append, not_or, not_or]
  exact ⟨⟨hopened, notMem_of_isIdentifierChars hchars (by decide)⟩, hclosed⟩

/-- A script does not begin with an order mark. -/
lemma head?_banner (table : String) (texts : List String) :
    (Template.lines (("# Generated by excel_database from the \"" ++ table ++
      "\" table. Do not edit by hand.") :: texts)).toList.head? ≠ some '\ufeff' := by
  rw [toList_lines, List.flatMap_cons, toList_banner, List.cons_append, List.cons_append,
    List.head?_cons, Ne, Option.some.injEq]
  decide

/-- A name behind blanks is the first of its line that is no blank. -/
lemma takeWhile_isSpace_name {name : String} (h : isIdentifier name = true) {blanks : List Char}
    (hblanks : blanks.all isSpace = true) (rest : List Char) :
    (blanks ++ (name.toList ++ rest)).takeWhile isSpace = blanks := by
  have hchars := isIdentifierChars_of_isIdentifier h
  obtain ⟨c, cs, hcs⟩ : ∃ c cs, name.toList = c :: cs := by
    cases hn : name.toList with
    | nil => rw [hn] at hchars; cases hchars
    | cons c cs => exact ⟨c, cs, rfl⟩
  have hspace : isSpace c = false := by
    rw [hcs, isIdentifierChars, Bool.and_eq_true] at hchars
    have hbreaks := breaksTokens_of_startsIdentifier hchars.1
    rw [breaksTokens, Bool.or_eq_false_iff] at hbreaks
    exact hbreaks.1
  rw [List.takeWhile_append_of_pos (List.all_eq_true.1 hblanks), hcs, List.cons_append,
    List.takeWhile_cons_of_neg (by rw [hspace]; exact Bool.false_ne_true), List.append_nil]

/-- Blocks of lines are read one after the other, up to the first one that cannot be read. -/
lemma readLines_flatMap {α : Type} {f : α → List String} {g : α → List (Depth × Line)}
    {ok : α → Prop} [DecidablePred ok] {xs : List α} (hok : ∀ x ∈ xs, ok x → Reads (f x) (g x))
    (hnot : ∀ x ∈ xs, ¬ok x → ∀ rest, readLines [] ((f x).map String.toList ++ rest) = none)
    {rest : List (List Char)} {found : List (Depth × Line)} (hrest : readLines [] rest = some found) :
    readLines [] ((xs.flatMap f).map String.toList ++ rest) =
      if ∀ x ∈ xs, ok x then some (xs.flatMap g ++ found) else none := by
  induction xs with
  | nil =>
    have hnone : ∀ x ∈ ([] : List α), ok x := nofun
    rw [if_pos hnone]
    exact hrest
  | cons x xs ih =>
    have hmore := ih (fun y hy => hok y (by simp [hy])) fun y hy => hnot y (by simp [hy])
    rw [List.flatMap_cons, List.map_append, List.append_assoc]
    by_cases hx : ok x
    · rw [hok x (by simp) hx, hmore]
      by_cases hall : ∀ y ∈ xs, ok y
      · have hcons : ∀ y ∈ x :: xs, ok y := List.forall_mem_cons.2 ⟨hx, hall⟩
        rw [if_pos hall, if_pos hcons, Option.map_some, List.flatMap_cons, List.append_assoc]
      · have hcons : ¬∀ y ∈ x :: xs, ok y := fun h => hall (List.forall_mem_cons.1 h).2
        rw [if_neg hall, if_neg hcons, Option.map_none]
    · have hcons : ¬∀ y ∈ x :: xs, ok y := fun h => hx (List.forall_mem_cons.1 h).1
      rw [if_neg hcons]
      exact hnot x (by simp) hx _

/-- A line without semicolons is one statement. -/
lemma statementsOf?_of_notMem {part ts : List Token} (h : Token.mark ';' ∉ ts)
    (hne : part ++ ts ≠ []) : statementsOf? part ts = (statement? (part ++ ts)).map ([·]) := by
  induction ts generalizing part with
  | nil =>
    rw [List.append_nil] at hne ⊢
    obtain ⟨t, part, rfl⟩ := List.exists_cons_of_ne_nil hne
    rw [statementsOf?]
    exact nofun
  | cons t ts ih =>
    rw [List.mem_cons, not_or] at h
    rw [statementsOf?, ih h.2 (by simp), List.append_assoc]
    · rfl
    · rintro rfl
      exact h.1 rfl

/-! ## Lines of classes -/

/-- The depth of the body of a class that stands outside all others. -/
def containerDepth : Depth := ⟨4, 4⟩

/-- A word with a blank behind it. -/
lemma HasTokens.class {rest : List Char} {ts : List Token} (h : HasTokens 0 rest ts) :
    HasTokens 0 ("class".toList ++ ' ' :: rest) (.word "class" :: ts) := by
  have hword : wordToken "class".toList = .word "class" := rfl
  rw [← hword]
  exact .word (by decide) rfl h.blank

/-- A name that is no reserved word is read in its compatible form. -/
lemma HasTokens.name {opened : Nat} {name : String} {rest : List Char} {ts : List Token}
    (hname : isIdentifier name = true) (hrest : endsWord rest = true)
    (h : HasTokens opened rest ts) :
    HasTokens opened (name.toList ++ rest) (.name (compatibleForm name) :: ts) := by
  rw [← wordToken_of_isIdentifier hname]
  exact .word (isIdentifierChars_of_isIdentifier hname) hrest h

/-- The head of a class that is made from another one. -/
lemma HasTokens.derivedHead {name base : String} (hname : isIdentifier name = true)
    (hbase : isIdentifier base = true) :
    HasTokens 0 ("class".toList ++ ' ' :: (name.toList ++ '(' :: (base.toList ++ [')', ':'])))
      [.word "class", .name (compatibleForm name), .mark '(', .name (compatibleForm base),
        .mark ')', .mark ':'] := by
  have hclose : HasTokens 1 [')', ':'] [.mark ')', .mark ':'] :=
    .cons rfl rfl le_rfl (.cons rfl rfl le_rfl .nil)
  have hopen : HasTokens 0 ('(' :: (base.toList ++ [')', ':']))
      [.mark '(', .name (compatibleForm base), .mark ')', .mark ':'] :=
    .cons rfl rfl le_rfl (.name hbase rfl hclose)
  exact .class (.name hname rfl hopen)

lemma line?_groupHead {name : String} (h : isBindable name = true) :
    line? [.word "class", .name name, .mark ':'] = some (.head (.group name none) []) := by
  simp [line?, ownLine?, classHead?, statementsOf?, h]

lemma line?_derivedHead {name base : String} (h : isBindable name = true) :
    line? [.word "class", .name name, .mark '(', .name base, .mark ')', .mark ':'] =
      some (.head (.group name (some (.name base))) []) := by
  have hbase : expression? [.name base, .mark ')', .mark ':'] =
      some (.name base, [.mark ')', .mark ':']) := rfl
  simp [line?, ownLine?, classHead?, statementsOf?, h, hbase]

lemma line?_text (text : String) : line? [.constant (.text text)] =
    some (.statements [.evaluate (.constant (.text text))]) := rfl

lemma reads_groupHead {name : String} (h : isIdentifier name = true)
    (hb : isBindable (compatibleForm name) = true) :
    Reads ["class " ++ name ++ ":"]
      [(.outermost, .head (.group (compatibleForm name) none) [])] := by
  have hlist : ("class " ++ name ++ ":").toList =
      "class".toList ++ ' ' :: (name.toList ++ [':']) := by
    rw [String.toList_append, String.toList_append]
    rfl
  have htokens : tokens ("class " ++ name ++ ":").toList =
      some [.word "class", .name (compatibleForm name), .mark ':'] := by
    rw [hlist]
    exact tokens_of_hasTokens (.class (.name h rfl (.cons rfl rfl le_rfl .nil)))
  refine .line htokens (line?_groupHead hb) ?_
  rw [hlist]
  rfl

/-- A text between three quotes that describes a class. -/
lemma reads_longText {body : String} (hq : '"' ∉ body.toList) (hb : '\\' ∉ body.toList) :
    Reads ["    \"\"\"" ++ body ++ "\"\"\""]
      [(containerDepth, .statements [.evaluate (.constant (.text body))])] := by
  have hlist : ("    \"\"\"" ++ body ++ "\"\"\"").toList =
      ' ' :: ' ' :: ' ' :: ' ' ::
        (['"', '"', '"'] ++ body.toList ++ ['"', '"', '"'] ++ []) := by
    rw [String.toList_append, String.toList_append, List.append_nil]
    rfl
  have hend : HasTokens 0 [] [] := .nil
  have htext := HasTokens.longText hq hb hend
  rw [String.ofList_toList] at htext
  have htokens := tokens_of_hasTokens htext.blank.blank.blank.blank
  rw [← hlist] at htokens
  refine .line htokens (line?_text _) ?_
  rw [hlist]
  rfl

/-- The line that tells which table a class is from. -/
lemma reads_description (start : String) {table : String} (h : isIdentifier table = true)
    (hquote : '"' ∉ start.toList) (hslash : '\\' ∉ start.toList) :
    Reads ["    \"\"\"" ++ (start ++ table ++ " table.") ++ "\"\"\""]
      [(containerDepth,
        .statements [.evaluate (.constant (.text (start ++ table ++ " table.")))])] := by
  have hplain {c : Char} (hc : continuesIdentifier c = false) (hbefore : c ∉ start.toList)
      (hbehind : c ∉ " table.".toList) : c ∉ (start ++ table ++ " table.").toList := by
    rw [String.toList_append, String.toList_append, List.mem_append, List.mem_append, not_or,
      not_or]
    exact ⟨⟨hbefore, notMem_of_isIdentifierChars (isIdentifierChars_of_isIdentifier h) hc⟩, hbehind⟩
  exact reads_longText (hplain (by decide) hquote (by decide)) (hplain (by decide) hslash (by decide))

lemma line?_assign {name : String} (h : isBindable name = true) (text : String) :
    line? [.name name, .mark '=', .constant (.text text)] =
      some (.statements [.assign name (.constant (.text text))]) := by
  have hvalue : wholeExpression? [.constant (.text text)] = some (.constant (.text text)) := rfl
  simp [line?, ownLine?, ownStatement?, Statement.isBound, hvalue, h]

/-! ## Bodies -/

/-- Lines end a body of a depth: there are none, or the first one is not as deep. -/
def EndsBody (depth : Depth) (found : List (Depth × Line)) : Prop :=
  ∀ p ∈ found.head?, p.1.compare? depth = some .lt

lemma compare?_self (d : Depth) : d.compare? d = some .eq := by
  simp [Depth.compare?]

variable {fuel : Nat} {depth inner : Depth} {rest : List (Depth × Line)}

lemma readBody_of_endsBody (h : EndsBody depth rest) :
    readBody (fuel + 1) depth [] rest = some ([], rest) := by
  cases rest with
  | nil => rfl
  | cons p rest =>
    obtain ⟨d, line⟩ := p
    -- the other equations of `readBody` ask which line it is
    rw [readBody.eq_def]
    dsimp only
    rw [h (d, line) rfl]
    rfl

lemma readBody_statements {list statements : List Statement} {rest' : List (Depth × Line)}
    (h : readBody fuel depth [] rest = some (statements, rest')) :
    readBody (fuel + 1) depth [] ((depth, .statements list) :: rest) =
      some (list ++ statements, rest') := by
  rw [readBody, compare?_self]
  dsimp only
  rw [List.isEmpty_nil, if_pos rfl, h]
  rfl

/-- Statements that stand on lines of their own. -/
lemma readBody_map {α : Type} {f : α → Statement} {xs : List α} (hends : EndsBody depth rest)
    (hfuel : xs.length < fuel) :
    readBody fuel depth [] ((xs.map fun x => (depth, Line.statements [f x])) ++ rest) =
      some (xs.map f, rest) := by
  induction xs generalizing fuel with
  | nil =>
    obtain ⟨fuel, rfl⟩ := Nat.exists_eq_succ_of_ne_zero (by omega : fuel ≠ 0)
    exact readBody_of_endsBody hends
  | cons x xs ih =>
    rw [List.length_cons] at hfuel
    obtain ⟨fuel, rfl⟩ := Nat.exists_eq_succ_of_ne_zero (by omega : fuel ≠ 0)
    exact readBody_statements (ih (by omega))

/-- A class with its body, and what follows it. -/
lemma readBody_group {decorators : List Expr} {name : String} {base : Option Expr} {line : Line}
    {body statements : List Statement} {lines rest' : List (Depth × Line)}
    (hdepth : inner.compare? depth = some .gt)
    (hbody : readBody fuel inner [] ((inner, line) :: lines) = some (body, rest))
    (h : readBody fuel depth [] rest = some (statements, rest')) :
    readBody (fuel + 1) depth decorators
        ((depth, .head (.group name base) []) :: (inner, line) :: lines) =
      some (.declareClass decorators name base body :: statements, rest') := by
  rw [readBody, compare?_self]
  dsimp only
  rw [List.isEmpty_nil, if_pos rfl, bodyDepth?, if_pos hdepth]
  dsimp only [bind, Option.bind]
  rw [hbody]
  dsimp only [Head.statement?]
  rw [h]
  rfl

/-! ## Places -/

/-- Statements that stand where they may and are no blocks do so one after the other. -/
lemma arePlaced_of_forall {around : Surroundings} {statements : List Statement}
    (h : ∀ s ∈ statements, s.isPlaced around = true ∧ s.word? = none) {before : Option String}
    (hbefore : before ≠ some "try") :
    arePlaced around statements = true ∧ areChained before statements = true := by
  induction statements generalizing before with
  | nil => exact ⟨by rw [arePlaced], by simpa [areChained] using hbefore⟩
  | cons s statements ih =>
    obtain ⟨hplaced, hword⟩ := h s (by simp)
    have hnone : (none : Option String) ≠ some "try" := nofun
    obtain ⟨hrest, hchained⟩ := ih (fun t ht => h t (by simp [ht])) hnone
    rw [arePlaced, areChained, hplaced, hrest, hword, hchained]
    simp [hbefore]

/-! ## Scripts -/

lemma dropOrderMark_lines (hfirst : (Template.lines texts).toList.head? ≠ some '\ufeff') :
    dropOrderMark (Template.lines texts) = Template.lines texts := by
  unfold dropOrderMark
  split
  · rename_i cs hcs
    rw [hcs, List.head?_cons] at hfirst
    exact absurd rfl hfirst
  · rfl

section

variable (hchars : ∀ text ∈ texts, text.toList.all isLineChar = true)
  (hfirst : (Template.lines texts).toList.head? ≠ some '\ufeff')
include hchars hfirst

/-- A script is read from its lines. -/
lemma statements?_lines : statements? (Template.lines texts) = (do
    let found ← readLines [] (texts.map String.toList)
    let (statements, rest) ← readBody (found.length + 1) .outermost [] found
    let isPlaced := arePlaced ⟨false, false, false⟩ (bodyOf statements)
    if rest.isEmpty && isPlaced && areChained none statements then return statements
    else none) := by
  rw [statements?, dropOrderMark_lines hfirst]
  dsimp only [bind, Option.bind]
  rw [contains_zero_lines hchars, if_neg Bool.false_ne_true, scriptLines_lines hchars]

/-- The statements of a script are those of its lines. -/
theorem statements?_of_reads {found : List (Depth × Line)} {statements : List Statement}
    (hread : readLines [] (texts.map String.toList) = some found)
    (hbody : readBody (found.length + 1) .outermost [] found = some (statements, []))
    (hplaced : arePlaced ⟨false, false, false⟩ (bodyOf statements) = true)
    (hchained : areChained none statements = true) :
    statements? (Template.lines texts) = some statements := by
  rw [statements?_lines hchars hfirst, hread]
  dsimp only [bind, Option.bind]
  rw [hbody]
  dsimp only
  rw [hplaced, hchained]
  rfl

/-- A script with a line that cannot be read has no statements. -/
theorem statements?_of_not_reads (hread : readLines [] (texts.map String.toList) = none) :
    statements? (Template.lines texts) = none := by
  rw [statements?_lines hchars hfirst, hread]
  rfl

end

end SheetCompiler.Script
