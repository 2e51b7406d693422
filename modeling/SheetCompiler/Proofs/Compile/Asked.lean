import SheetCompiler.Proofs.Compile.References

/-!
# What a sheet asks of other tables

Only a Convert table asks about others, and only with types that can be looked up: tokens of tables
and of enumerations. So a sheet compiles alike, whether or not it is accepted, wherever these find
the same (`Resolver.Agrees`).

Main statements:

* `compile_congr`: two resolvers that agree give the same outcome or the same fault;
* `compiledIn_congr`: the same of two file trees;
* `agrees_ofFiles`: two file trees in which the same scripts are there, and those of Enum tables are
  the same, give resolvers that agree.
-/

namespace SheetCompiler

open SheetCompiler.Path SheetCompiler.Stateful

/-- Two resolvers say the same of every type that can be looked up. -/
structure Resolver.Agrees (r r' : Resolver) : Prop where
  tables : ∀ type, TypeToken.classify type = .tableReference →
    r.tableExists type = r'.tableExists type
  members : ∀ type, TypeToken.classify type = .enumeration → r.members? type = r'.members? type

section

variable {r r' : Resolver} {sheet : Sheet}

lemma Column.typeExists_congr (h : r.Agrees r') (c : Column) :
    c.typeExists r = c.typeExists r' := by
  unfold Column.typeExists
  cases hkind : c.kind with
  | tableReference => exact h.tables c.type hkind
  | enumeration => exact congrArg Option.isSome (h.members c.type hkind)
  | _ => rfl

lemma visitColumn_congr (h : r.Agrees r') : visitColumn sheet r = visitColumn sheet r' := by
  funext index name
  unfold visitColumn
  dsimp only
  rw [Column.typeExists_congr h]

lemma scanColumns_congr (h : r.Agrees r') : scanColumns sheet r = scanColumns sheet r' := by
  unfold scanColumns
  rw [visitColumn_congr h]

/-- Members are asked for where the type of the cell's column is an enumeration. -/
lemma checkCell_congr (h : r.Agrees r') (row : String) (column : Column) (cell : String) :
    checkCell r row column.name column.type column.kind column.isArray cell =
      checkCell r' row column.name column.type column.kind column.isArray cell := by
  unfold checkCell
  cases hkind : column.kind with
  | enumeration => rw [h.members column.type hkind]
  | _ => rfl

lemma readCells_congr (h : r.Agrees r') (row : Nat) (id : String) (columns : List Column)
    (cells : Pairs Json) :
    readCells sheet r row id columns cells = readCells sheet r' row id columns cells := by
  induction columns generalizing cells with
  | nil => rfl
  | cons column columns ih =>
    unfold readCells
    dsimp only
    rw [ih cells, checkCell_congr h]
    simp only [ih]

lemma readRowsAt_congr (h : r.Agrees r') (columns : List Column) (indices : List Nat)
    (seen : List String) :
    readRowsAt sheet columns r indices seen = readRowsAt sheet columns r' indices seen := by
  induction indices generalizing seen with
  | nil => rfl
  | cons index indices ih =>
    unfold readRowsAt
    dsimp only
    rw [ih seen, ih (sheet.cell index 0 :: seen), readCells_congr h]

/-- Only a Convert table asks. -/
lemma compile_of_ne_convert {kind : TableKind} (hkind : kind ≠ .convert) (table : String)
    (templates : Except Failure (Pairs String)) :
    compile kind table sheet r templates = compile kind table sheet r' templates := by
  cases kind with
  | convert => exact absurd rfl hkind
  | enum => rfl
  | «variable» => rfl

/-- Resolvers that agree give the same outcome or the same fault. -/
theorem compile_congr (h : r.Agrees r') (kind : TableKind) (table : String) (sheet : Sheet)
    (templates : Except Failure (Pairs String)) :
    compile kind table sheet r templates = compile kind table sheet r' templates := by
  have hcolumns : readColumns sheet r = readColumns sheet r' :=
    congrArg Scan.result (scanColumns_congr h)
  have hrows (columns : List Column) : readRows sheet columns r = readRows sheet columns r' :=
    readRowsAt_congr h columns _ []
  by_cases hkind : kind = .convert
  · subst hkind
    unfold compile compileConvert
    dsimp only
    rw [hcolumns]
    simp only [hrows]
  · exact compile_of_ne_convert hkind table templates

end

/-- A sheet compiles alike in two file trees with the same templates, if what it can ask about other
tables has the same answer in both. -/
theorem compiledIn_congr {s : Settings} {kind : TableKind} {table : String} {sheet : Sheet}
    {files files' : FileTree}
    (h : kind = .convert →
      (Resolver.ofFiles s files (some table)).Agrees (.ofFiles s files' (some table)))
    (htemplates : Template.ofSettings s files kind = Template.ofSettings s files' kind) :
    compiledIn s kind table sheet files = compiledIn s kind table sheet files' := by
  have hlooked : lookedUpIn s kind table sheet files = lookedUpIn s kind table sheet files' := by
    unfold lookedUpIn
    by_cases hkind : kind = .convert
    · rw [if_pos hkind, if_pos hkind, scanColumns_congr (h hkind)]
      exact lookUpAllIn_eq s table _ files files'
    · rw [if_neg hkind, if_neg hkind]
  have hcompile (templates : Except Failure (Pairs String)) :
      compile kind table sheet (.ofFiles s files (some table)) templates =
        compile kind table sheet (.ofFiles s files' (some table)) templates := by
    by_cases hkind : kind = .convert
    · exact compile_congr (h hkind) kind table sheet templates
    · exact compile_of_ne_convert hkind table templates
  unfold compiledIn
  rw [hlooked, htemplates, hcompile]

/-! ## Trees with the same directories -/

/-- Two trees have the same directories. -/
def FileTree.SameDirectories (t u : FileTree) : Prop :=
  ∀ l, t.node? l = some .directory ↔ u.node? l = some .directory

section

variable {t u : FileTree} {path : String}

lemma FileTree.SameDirectories.locate_eq_ok_iff (h : t.SameDirectories u) {l : Location} :
    t.locate path = .ok l ↔ u.locate path = .ok l := by
  rw [FileTree.locate_eq_ok_iff, FileTree.locate_eq_ok_iff]
  simp only [h _]

/-- A file that is the same in both trees is read alike. -/
lemma FileTree.SameDirectories.read_eq_ok_iff (h : t.SameDirectories u)
    (hl : t.node? (location path) = u.node? (location path)) {content : Content} :
    t.read path = .ok content ↔ u.read path = .ok content := by
  rw [FileTree.read_eq_ok_iff, FileTree.read_eq_ok_iff, h.locate_eq_ok_iff, hl]

/-- Where there is something in both trees or in neither, a path leads to something in both or in
neither. -/
lemma FileTree.SameDirectories.contains_eq (h : t.SameDirectories u)
    (hl : (t.node? (location path)).isSome = (u.node? (location path)).isSome) :
    t.contains path = u.contains path := by
  have hcontains {t u : FileTree} (h : t.SameDirectories u)
      (hl : (t.node? (location path)).isSome = (u.node? (location path)).isSome)
      (ht : t.contains path = true) : u.contains path = true := by
    rcases FileTree.contains_cases ht with ⟨content, hlookup, hfile⟩ | ⟨hlookup, hdirectory⟩
    · obtain ⟨hlocate, -, hdemands⟩ := FileTree.lookup_eq_file_iff.1 hlookup
      rw [hfile] at hl
      obtain ⟨entry, hentry⟩ := Option.isSome_iff_exists.1 hl.symm
      cases entry with
      | file content' =>
        exact FileTree.contains_of_lookup
          (FileTree.lookup_eq_file_iff.2 ⟨h.locate_eq_ok_iff.1 hlocate, hentry, hdemands⟩)
      | directory =>
        rw [(h _).2 hentry] at hfile
        cases hfile
    · have hthere : t.isDirectory path = true := by rw [FileTree.isDirectory, hlookup]
      have hlocate := h.locate_eq_ok_iff.1 (FileTree.isDirectory_iff.1 hthere).1
      have hfound : u.lookup path = .ok (location path, .directory) := by
        rw [FileTree.lookup, hlocate]
        simp only [bind, Except.bind, (h _).1 hdirectory]
      exact FileTree.contains_of_lookup hfound
  exact Bool.eq_iff_iff.2 ⟨hcontains h hl, hcontains (fun l => (h l).symm) hl.symm⟩

/-- A script that is the same in both trees is run alike. -/
lemma FileTree.SameDirectories.enumScriptAt_eq (h : t.SameDirectories u)
    (hl : t.node? (location path) = u.node? (location path)) (table : String) :
    enumScriptAt t table path = enumScriptAt u table path := by
  have hcontains : t.contains path = u.contains path := h.contains_eq (by rw [hl])
  unfold enumScriptAt
  rw [hcontains]
  split
  · rfl
  · cases ht : t.read path with
    | ok content =>
      have hu := (h.read_eq_ok_iff hl).1 ht
      have htext : t.readText path = u.readText path := by
        rw [FileTree.readText, FileTree.readText, ht, hu]
      rw [htext]
    | error e =>
      cases hu : u.read path with
      | ok content =>
        rw [(h.read_eq_ok_iff hl).2 hu] at ht
        cases ht
      | error e' =>
        -- why a script cannot be read makes no difference
        have htext : t.readText path = .error e := by rw [FileTree.readText, ht]
        have htext' : u.readText path = .error e' := by rw [FileTree.readText, hu]
        rw [htext, htext']

end

/-! ## What files say of types -/

/-- A token that can be looked up has no slash, and so the name of its table has none. -/
lemma slash_notMem_unmarked {type part : String} (h : TypeToken.classify type ≠ .invalid)
    (hpart : part.toList ⊆ type.toList) : '/' ∉ (TypeToken.unmarked part).toList := by
  intro hmem
  rw [TypeToken.unmarked, String.toList_ofList] at hmem
  have hchar := (TypeToken.chars_of_classify h).2 _ (hpart (List.mem_of_mem_drop hmem))
  exact absurd hchar (by decide)

/-- The scripts of Enum tables are the same in two trees. -/
def SameEnums (s : Settings) (t u : FileTree) : Prop :=
  ∀ scripts table, s.scripts = .text scripts → '/' ∉ table.toList →
    t.node? (scriptLocation scripts .enum (table ++ ".py")) =
      u.node? (scriptLocation scripts .enum (table ++ ".py"))

/-- The scripts of the same Convert tables are in two trees. -/
def SameReferences (s : Settings) (t u : FileTree) : Prop :=
  ∀ scripts table, s.scripts = .text scripts → '/' ∉ table.toList →
    (t.node? (scriptLocation scripts .convert (table ++ ".py"))).isSome =
      (u.node? (scriptLocation scripts .convert (table ++ ".py"))).isSome

/-- Two trees in which the scripts of Enum tables are the same, and those of the same Convert tables
are there, say the same of every type that can be looked up. -/
theorem agrees_ofFiles {s : Settings} {t u : FileTree} (h : t.SameDirectories u)
    (henums : SameEnums s t u) (hreferences : SameReferences s t u) (table : Option String) :
    (Resolver.ofFiles s t table).Agrees (.ofFiles s u table) := by
  constructor
  case tables =>
    intro type htype
    have hexists : referenceExists s t table type = referenceExists s u table type := by
      have hslash : '/' ∉ (TypeToken.referencedTable type).toList :=
        slash_notMem_unmarked (by rw [htype]; decide) (List.Subset.refl _)
      unfold referenceExists
      dsimp only
      cases hscripts : s.scripts with
      | text scripts =>
        rw [Settings.scriptPath?_eq hscripts]
        dsimp only
        rw [h.contains_eq (by
          rw [location_scriptPath_eq hslash]
          exact hreferences scripts _ hscripts hslash)]
      | _ =>
        unfold Settings.scriptPath?
        rw [hscripts]
        rfl
    unfold Resolver.ofFiles
    dsimp only
    rw [hexists]
  case members =>
    intro type htype
    have hscript : enumScript s t type = enumScript s u type := by
      have hslash : '/' ∉ (TypeToken.unmarked (TypeToken.splitContainer type).1).toList := by
        refine slash_notMem_unmarked (by rw [htype]; decide) ?_
        rw [TypeToken.splitContainer, String.toList_ofList]
        exact (List.takeWhile_prefix _).subset
      unfold enumScript
      dsimp only
      cases hscripts : s.scripts with
      | text scripts =>
        rw [Settings.scriptPath?_eq hscripts]
        dsimp only
        rw [h.enumScriptAt_eq (by
          rw [location_scriptPath_eq hslash]
          exact henums scripts _ hscripts hslash)]
      | _ =>
        unfold Settings.scriptPath?
        rw [hscripts]
        rfl
    rw [members?_ofFiles, members?_ofFiles]
    unfold enumMembers?
    rw [hscript]

end SheetCompiler
