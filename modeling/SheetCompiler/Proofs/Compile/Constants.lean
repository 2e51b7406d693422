import SheetCompiler.Proofs.Compile.Abort
import SheetCompiler.Proofs.Compile.Standing
import SheetCompiler.Proofs.Registry.Reload
import SheetCompiler.Proofs.Script.Constant

/-!
# Constants of compiled Variable tables

The script of a Variable table is loaded again. Its constants stand for values of the sheet, so that
it can be loaded exactly if the infinite ones among them, which have no digits, are called like a
constant in front of them. Constants without real numbers are listed as they stand in the sheet.

Main statements:

* `compileSheet_variable_loads`: when the script of a table can be loaded;
* `compileSheet_variable_listing`: what its constants are listed as.
-/

namespace SheetCompiler

open SheetCompiler.Text SheetCompiler.Script SheetCompiler.Path

/-! ## The script -/

section

variable {s : Settings} {p q : Project} {files : FileTree} {scripts table source : String}
  {sheet : Sheet} {a : Compilation} (htemplates : s.templates = none)
  (hscripts : s.scripts = .text scripts)
  (hordinary : ∀ r ∈ constantRows sheet, IsOrdinaryName (normalize (sheet.cell r 0)))
  (hcompile : (Action.compileSheet s .variable table source sheet).apply p = (.ok a, q))
  (hstands : files.read (Settings.scriptPath scripts .variable table) =
    q.files.read (Settings.scriptPath scripts .variable table))
include htemplates hscripts hordinary hcompile hstands

/-- What the script of a compiled table declares as long as it stands. -/
theorem declared?_of_compileSheet :
    table ++ ".py" ∈ Action.scriptsIn files (join scripts TableKind.variable.name) ∧
      isIdentifier table = true ∧ ∃ constants,
      List.Forall₂ (fun r c => c.IsOf sheet r) (constantRows sheet) constants ∧
      (∀ c ∈ constants, IsOrdinaryName c.name) ∧ (constants.map Constant.name).Nodup ∧
      files.declared? .variable (join scripts TableKind.variable.name) (table ++ ".py") =
        (knownBehind? [] constants).map
          (variableDeclared table (TableKind.variable.moduleOf table) constants) := by
  obtain ⟨c, hc, hmem, hdeclared⟩ := declared?_of_standing hscripts hcompile hstands
  obtain ⟨hident, declarations, hread, htext⟩ := variableScript_of_compiledIn htemplates hc
  obtain ⟨constants, rfl, hrows, hnodup⟩ := isOf_of_readVariables hread
  have hof : ∀ c ∈ constants, ∃ r ∈ constantRows sheet, c.IsOf sheet r := fun c hc =>
    exists_mem_of_forall₂ hrows hc
  have hnames : ∀ c ∈ constants, isIdentifier c.name = true := fun c hc => by
    obtain ⟨r, -, hr⟩ := hof c hc
    exact hr.identifier
  have hplain : ∀ c ∈ constants, IsOrdinaryName c.name := fun c hc => by
    obtain ⟨r, hmem, hr⟩ := hof c hc
    rw [hr.name]
    exact hordinary r hmem
  have hlegible : ∀ c ∈ constants, c.literal.IsLegible := fun c hc => by
    obtain ⟨r, -, hr⟩ := hof c hc
    exact hr.isLegible
  refine ⟨hmem, hident, constants, hrows, hplain, hnodup, ?_⟩
  rw [hdeclared, htext]
  cases hall : knownBehind? [] constants with
  | some all => rw [run_variableScript _ hident hnames hplain hlegible hnodup hall]; rfl
  | none =>
    obtain ⟨declared, fault, hrun⟩ := run_variableScript_of_none
      (TableKind.variable.moduleOf table) hident hnames hplain hlegible hnodup hall
    rw [hrun]
    rfl

end

/-! ## A project with one script -/

/-- A Variable table that is accepted compiles in a project without files, and the project with
nothing but its script has it where it is written. -/
lemma exists_compileSheet_variable (sheet : Sheet) {declarations : List VariableDeclaration}
    (h : readVariables sheet = .ok declarations) : ∃ a q text,
      (Action.compileSheet Project.empty.settings .variable "Item" "Item.xlsx" sheet).apply
        .empty = (.ok a, q) ∧
      (Action.onlyScript .variable text).read (Settings.scriptPath "Dist" .variable "Item") =
        q.files.read (Settings.scriptPath "Dist" .variable "Item") :=
  exists_standing (compiledIn_variable rfl rfl (by decide) h)

/-- A table of two constants. -/
def mottoTable : Sheet :=
  ⟨[["ID", "Type", "Value"], ["Lives", "int", "3"], ["Motto", "string", "It's \"on\""]]⟩

/-- A table of a constant that is too large. -/
def hugeTable : Sheet := ⟨[["ID", "Type", "Value"], ["Huge", "float", "1e999"]]⟩

/-! ## Loading -/

/-- The script of a Variable table that is compiled with the shipped templates, under names that
stand for nothing else. As long as it stands among scripts that run to their ends, they can be loaded
exactly if each infinite value stands behind a constant called `inf`, of which there is a negative if
the value is negative. -/
theorem compileSheet_variable_loads {s : Settings} {p q later : Project}
    {scripts table source : String} {sheet : Sheet} {a : Compilation}
    (htemplates : s.templates = none) (hscripts : s.scripts = .text scripts)
    (hordinary : ∀ r ∈ constantRows sheet, IsOrdinaryName (normalize (sheet.cell r 0)))
    (hcompile : (Action.compileSheet s .variable table source sheet).apply p = (.ok a, q))
    (hstands : later.files.read (Settings.scriptPath scripts .variable table) =
      q.files.read (Settings.scriptPath scripts .variable table))
    (hothers : Action.OthersLoad later.files scripts .variable table) :
    ∃ constants, List.Forall₂ (fun r c => c.IsOf sheet r) (constantRows sheet) constants ∧
      ((∃ modules final, (Action.loadScripts scripts).apply later = (.ok modules, final)) ↔
        AreDefined constants) := by
  obtain ⟨hmem, -, constants, hrows, -, hnodup, hdeclared⟩ :=
    declared?_of_compileSheet htemplates hscripts hordinary hcompile hstands
  have htype : ∀ c ∈ constants, ∀ v ∈ c.literal.values, v.IsOfType c.type := fun c hc => by
    obtain ⟨r, -, hr⟩ := exists_mem_of_forall₂ hrows hc
    exact hr.isOfType
  refine ⟨constants, hrows, ?_⟩
  rw [Action.loadScripts_returns_iff_of_others hmem hothers, hdeclared, Option.isSome_map,
    isSome_knownBehind? hnodup htype]

/-- The constants of the table can be loaded. -/
theorem mottoTable_loads : ∃ a q text,
    (Action.compileSheet Project.empty.settings .variable "Item" "Item.xlsx" mottoTable).apply
      .empty = (.ok a, q) ∧
    (Action.onlyScript .variable text).read (Settings.scriptPath "Dist" .variable "Item") =
      q.files.read (Settings.scriptPath "Dist" .variable "Item") ∧
    ∃ modules final, (Action.loadScripts "Dist").apply
      { Project.empty with files := Action.onlyScript .variable text } = (.ok modules, final) := by
  obtain ⟨a, q, text, hcompile, hstands⟩ := exists_compileSheet_variable mottoTable rfl
  let later : Project := { Project.empty with files := Action.onlyScript .variable text }
  have hstands' : later.files.read (Settings.scriptPath "Dist" .variable "Item") =
      q.files.read (Settings.scriptPath "Dist" .variable "Item") := hstands
  obtain ⟨constants, hrows, hloads⟩ := compileSheet_variable_loads rfl rfl (by decide +kernel)
    hcompile hstands' (Action.othersLoad_onlyScript .variable text)
  refine ⟨a, q, text, hcompile, hstands, hloads.2 ?_⟩
  -- no constant of the table is a real number
  intro front c back hsplit v hv hinfinite
  obtain ⟨r, hr, hc⟩ := exists_mem_of_forall₂ hrows (hsplit ▸ by simp : c ∈ constants)
  have htype := hc.isOfType v hv
  have hexact : ∀ r ∈ constantRows mottoTable, ∀ p,
      Primitive.ofName? (normalize (mottoTable.cell r 1)) = some p → p = .int ∨ p = .string := by
    have hall : constantRows mottoTable = [1, 2] := by rfl
    rw [hall]
    intro r hr p hp
    rcases List.mem_pair.1 hr with rfl | rfl
    · cases hp
      exact .inl rfl
    · cases hp
      exact .inr rfl
  cases v with
  | real x =>
    rcases hexact r hr _ hc.type with h | h
    · rw [h] at htype
      simp [Scalar.IsOfType] at htype
    · rw [h] at htype
      simp [Scalar.IsOfType] at htype
  | _ => cases hinfinite

/-- A number that is too large is infinite, and stands behind no constant called `inf`. -/
theorem hugeTable_fails :
    (∀ r ∈ constantRows hugeTable, IsOrdinaryName (normalize (hugeTable.cell r 0))) ∧
    ∃ a q text,
      (Action.compileSheet Project.empty.settings .variable "Item" "Item.xlsx" hugeTable).apply
        .empty = (.ok a, q) ∧
      (Action.onlyScript .variable text).read (Settings.scriptPath "Dist" .variable "Item") =
        q.files.read (Settings.scriptPath "Dist" .variable "Item") ∧
      Action.OthersLoad (Action.onlyScript .variable text) "Dist" .variable "Item" ∧
      ¬∃ modules final, (Action.loadScripts "Dist").apply
        { Project.empty with files := Action.onlyScript .variable text } =
          (.ok modules, final) := by
  have hordinary : ∀ r ∈ constantRows hugeTable,
      IsOrdinaryName (normalize (hugeTable.cell r 0)) := by decide +kernel
  obtain ⟨a, q, text, hcompile, hstands⟩ := exists_compileSheet_variable hugeTable rfl
  refine ⟨hordinary, a, q, text, hcompile, hstands, Action.othersLoad_onlyScript .variable text, ?_⟩
  obtain ⟨hmem, -, constants, hrows, -, -, hdeclared⟩ :=
    declared?_of_compileSheet rfl rfl hordinary hcompile hstands
  have hloads := Action.loadScripts_returns_iff_of_others
    (p := { Project.empty with files := Action.onlyScript .variable text }) hmem
    (Action.othersLoad_onlyScript .variable text)
  rw [hloads, hdeclared]
  -- the one constant of the table is infinite, and none stands in front of it
  have hone : constantRows hugeTable = [1] := by rfl
  rw [hone, List.forall₂_cons_left_iff] at hrows
  obtain ⟨c, rest, hc, hrest, rfl⟩ := hrows
  rw [List.forall₂_nil_left_iff.1 hrest, Option.isSome_map,
    isSome_knownBehind? (by simp) fun d hd => (List.mem_singleton.1 hd) ▸ hc.isOfType]
  intro hdefined
  have htype : Primitive.ofName? (normalize (hugeTable.cell 1 1)) = some .float := by rfl
  have hvalues := hc.values
  rw [Option.some.inj (hc.type.symm.trans htype)] at hvalues
  have htexts : splitCell (hugeTable.cell 1 2) = ["1e999"] := by rfl
  rw [htexts, List.forall₂_cons_left_iff] at hvalues
  obtain ⟨v, values, hv, -, heq⟩ := hvalues
  have hinfinite : Primitive.convert .float "1e999" = .ok (.real (.infinite false)) := by rfl
  rw [hinfinite, Except.ok.injEq] at hv
  obtain ⟨d, hd, -⟩ := hdefined [] c [] rfl v (heq ▸ List.mem_cons_self) (hv ▸ rfl)
  cases hd

/-! ## Listing -/

/-- A constant is listed as it stands in a row: under its name, with the value of the text in its
cell, or if its type is that of arrays with the values of the texts in it. -/
structure IsListed (sheet : Sheet) (row : Nat) (entry : String × Json) : Prop where
  name : entry.1 = normalize (sheet.cell row 0)
  scalar : endsInMark (sheet.cell row 1) = false → ∀ r : Registry,
    r.convertText (normalize (sheet.cell row 1)) (sheet.cell row 2) = .ok (.stored entry.2)
  array : endsInMark (sheet.cell row 1) = true → ∃ values, entry.2 = .list values ∧ ∀ r : Registry,
    List.Forall₂ (fun text j => r.convertText (normalize (sheet.cell row 1)) text =
      .ok (.stored j)) (splitCell (sheet.cell row 2)) values

lemma convertText_of_convert {r : Registry} {type text : String} {p : Primitive} {v : Scalar}
    (hp : Primitive.ofName? type = some p) (h : p.convert text = .ok v) :
    r.convertText type text = .ok (.stored v.json) := by
  rw [Registry.convertText, hp]
  dsimp only
  rw [h]
  cases v <;> rfl

/-- What a constant stands for is what the texts of its row convert to. -/
lemma Constant.IsOf.isListed {sheet : Sheet} {row : Nat} {c : Constant} (h : c.IsOf sheet row) :
    IsListed sheet row (c.name, c.literal.json) := by
  have hlist := h.isList
  have hvalues := h.values
  refine ⟨h.name, fun hmark r => ?_, fun hmark => ?_⟩
  · cases hl : c.literal with
    | list values =>
      rw [hl, hmark] at hlist
      cases hlist
    | scalar v =>
      rw [hl, Literal.values] at hvalues
      have hone : splitCell (sheet.cell row 2) = [sheet.cell row 2] :=
        splitCell_of_length_le_one hvalues.length_eq.le
      rw [hone] at hvalues
      exact convertText_of_convert h.type (List.forall₂_cons.1 hvalues).1
  · cases hl : c.literal with
    | scalar v =>
      rw [hl, hmark] at hlist
      cases hlist
    | list values =>
      rw [hl, Literal.values] at hvalues
      refine ⟨values.map Scalar.json, rfl, fun r => ?_⟩
      rw [List.forall₂_map_right_iff]
      exact hvalues.imp fun text v hv => convertText_of_convert h.type hv

/-- The names of the types without real numbers. -/
def exactTypes : List String := ["int", "long", "bool", "string"]

lemma isExact_of_name {p : Primitive} (h : p.name ∈ exactTypes) : p.isExact = true := by
  revert h
  cases p <;> decide

/-- The constants of a Variable table without real numbers, under names that stand for nothing else.
As long as its script stands, it declares a group that lists them in the order of the sheet, each
with what its text converts to; and if it stands among scripts that run to their ends, they can be
loaded, and its constants are those. -/
theorem compileSheet_variable_listing {s : Settings} {p q : Project} {files : FileTree}
    {scripts table source : String} {sheet : Sheet} {a : Compilation}
    (htemplates : s.templates = none) (hscripts : s.scripts = .text scripts)
    (hordinary : ∀ r ∈ constantRows sheet, IsOrdinaryName (normalize (sheet.cell r 0)))
    (hexact : ∀ r ∈ constantRows sheet, normalize (sheet.cell r 1) ∈ exactTypes)
    (hcompile : (Action.compileSheet s .variable table source sheet).apply p = (.ok a, q))
    (hstands : files.read (Settings.scriptPath scripts .variable table) =
      q.files.read (Settings.scriptPath scripts .variable table)) :
    ∃ listed, List.Forall₂ (IsListed sheet) (constantRows sheet) listed ∧
      (∃ d g, files.declared? .variable (join scripts TableKind.variable.name) (table ++ ".py") =
          some d ∧ constants? d.names (groupAs table) = some g ∧ g.listing = .ok listed) ∧
      ∀ later : Project, later.files = files → Action.OthersLoad files scripts .variable table →
        ∃ modules final, (Action.loadScripts scripts).apply later = (.ok modules, final) ∧
          (groupAs table = groupName table →
            final.registry.constantsOf table = .ok listed) := by
  obtain ⟨hmem, hident, constants, hrows, hplain, hnodup, hdeclared⟩ :=
    declared?_of_compileSheet htemplates hscripts hordinary hcompile hstands
  have hof : ∀ c ∈ constants, (∀ v ∈ c.literal.values, v.IsOfType c.type) ∧
      c.type.isExact = true := fun c hc => by
    obtain ⟨r, hmem, hr⟩ := exists_mem_of_forall₂ hrows hc
    have htype := hexact r hmem
    rw [← Primitive.name_of_ofName? hr.type] at htype
    exact ⟨hr.isOfType, isExact_of_name htype⟩
  have hall : knownBehind? [] constants = some (constants.map fun c => (c.name, c.literal.json)) :=
    knownBehind?_of_exact (fun c hc => (hof c hc).2) fun c hc => (hof c hc).1
  rw [hall, Option.map_some] at hdeclared
  obtain ⟨g, hg, hlisting⟩ := listing_group table
    (TableKind.variable.moduleOf table) hplain hnodup hall
  refine ⟨_, ?_, ⟨_, g, hdeclared, hg, hlisting⟩, fun later hfiles hothers => ?_⟩
  · rw [List.forall₂_map_right_iff]
    exact hrows.imp fun r c hr => hr.isListed
  · subst hfiles
    obtain ⟨modules, final, hload⟩ :=
      (Action.loadScripts_returns_iff_of_others hmem hothers).2 (by rw [hdeclared]; rfl)
    refine ⟨modules, final, hload, fun hname => ?_⟩
    obtain ⟨enums, groups, tables, -, hgroups, -, -, rfl⟩ := Action.loadScripts_eq_ok_iff.1 hload
    have hget := Action.get?_constantsFrom hident (fun _ => Action.endsWith_of_mem_scriptsIn)
      hmem hgroups hdeclared
    -- the group is looked up under its own name
    have hgroup : ("Va" ++ table : String) = groupAs table := hname.symm
    rw [hgroup, hg] at hget
    have hconstants : ((later.declaring (enums ++ groups ++ tables)).withConstants
        (Action.constantsFrom (Action.scriptsIn later.files
          (join scripts TableKind.variable.name)) groups)).registry.constants.get? table =
        some (some g) := hget
    simp only [Registry.constantsOf, hconstants]
    exact hlisting

/-- The constants of the table are listed with the values of their texts. -/
theorem mottoTable_listing : ∃ a q text,
    (Action.compileSheet Project.empty.settings .variable "Item" "Item.xlsx" mottoTable).apply
      .empty = (.ok a, q) ∧
    (Action.onlyScript .variable text).read (Settings.scriptPath "Dist" .variable "Item") =
      q.files.read (Settings.scriptPath "Dist" .variable "Item") ∧
    ∃ modules final, (Action.loadScripts "Dist").apply
        { Project.empty with files := Action.onlyScript .variable text } = (.ok modules, final) ∧
      final.registry.constantsOf "Item" =
        .ok [("Lives", .integer 3), ("Motto", .text "It's \"on\"")] := by
  obtain ⟨a, q, text, hcompile, hstands⟩ := exists_compileSheet_variable mottoTable rfl
  obtain ⟨listed, hlisted, -, hload⟩ := compileSheet_variable_listing rfl rfl (by decide +kernel)
    (by decide +kernel) hcompile hstands
  obtain ⟨modules, final, hdone, hgroup⟩ :=
    hload { Project.empty with files := Action.onlyScript .variable text } rfl
      (Action.othersLoad_onlyScript .variable text)
  refine ⟨a, q, text, hcompile, hstands, modules, final, hdone, ?_⟩
  rw [hgroup (by decide +kernel)]
  have hrows : constantRows mottoTable = [1, 2] := by rfl
  rw [hrows] at hlisted
  obtain ⟨lives, _, h1, hrest, rfl⟩ := List.forall₂_cons_left_iff.1 hlisted
  obtain ⟨motto, _, h2, hnone, rfl⟩ := List.forall₂_cons_left_iff.1 hrest
  rw [List.forall₂_nil_left_iff.1 hnone]
  have hlives := h1.scalar rfl (.empty "")
  have hmotto := h2.scalar rfl (.empty "")
  have hthree : (Registry.empty "").convertText (normalize (mottoTable.cell 1 1))
      (mottoTable.cell 1 2) = .ok (.stored (.integer 3)) := by rfl
  have hquoted : (Registry.empty "").convertText (normalize (mottoTable.cell 2 1))
      (mottoTable.cell 2 2) = .ok (.stored (.text "It's \"on\"")) := by rfl
  have hname1 : lives.1 = "Lives" := h1.name
  have hname2 : motto.1 = "Motto" := h2.name
  rw [hthree, Except.ok.injEq, Value.stored.injEq] at hlives
  rw [hquoted, Except.ok.injEq, Value.stored.injEq] at hmotto
  exact congrArg Except.ok (congrArg₂ _ (Prod.ext hname1 hlives.symm)
    (congrArg (· :: []) (Prod.ext hname2 hmotto.symm)))

end SheetCompiler
