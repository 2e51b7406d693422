import SheetCompiler.Proofs.Script.Constant
import SheetCompiler.Proofs.Script.Field
import SheetCompiler.Proofs.Script.Run

/-!
# Tables that scripts declare

A table is declared by calling what tables are made with, which only the script of a Convert table
does. It declares one table, of its own name, and the fields of the table's records are those of its
columns, whatever names they are kept under. The scripts of other tables call nothing but decorators
(`CallsNothing`), so that they declare no table even where their names take the places of names that
mean something else, and even if they fail.

Main statements:

* `keeps_runStatement`: running a statement that calls nothing declares no table;
* `tables_run_enumScript` and `tables_run_variableScript`: scripts that declare no table;
* `tables_of_run_convertScript`: the table that a script declares that runs to its end.
-/

namespace SheetCompiler.Script

open SheetCompiler.Stateful SheetCompiler.Text

/-! ## Steps that declare no table -/

/-- As many tables are declared as before. -/
def SameTables (d e : Declared) : Prop := e.tables = d.tables

lemma SameTables.refl (d : Declared) : SameTables d d := rfl

lemma SameTables.trans (d e f : Declared) (h : SameTables d e) (h' : SameTables e f) :
    SameTables d f := Eq.trans h' h

section

variable {scope : Scope} {e : Expr} {name outer : String} {o : Object} {base : Base}

lemma keeps_find (scope : Scope) (name : String) : Keeps SameTables (scope.find name) := by
  intro d
  rw [Scope.find, apply_bind, apply_get]
  dsimp only
  split <;> rfl

lemma keeps_bind (scope : Scope) (name : String) (o : Object) :
    Keeps SameTables (scope.bind name o) := by
  unfold Scope.bind
  cases scope.owner with
  | none => exact .bind SameTables.trans (fun d => rfl) fun _ => .pure SameTables.refl _
  | some owner => exact .pure SameTables.refl _

lemma keeps_bindType (scope : Scope) (name : String) : Keeps SameTables (scope.bindType name) := by
  unfold Scope.bindType
  dsimp only
  split
  · exact .throw SameTables.refl _
  · exact .pure SameTables.refl _

lemma keeps_bindMember (base : Base) (scope : Scope) (name : String) (o : Object) :
    Keeps SameTables (bindMember base scope name o) := by
  unfold bindMember
  dsimp only
  split
  · exact .throw SameTables.refl _
  · exact keeps_bind scope name o

lemma keeps_negative (o : Object) : Keeps SameTables (negative o) := by
  unfold negative
  split
  · exact .pure SameTables.refl _
  · exact .pure SameTables.refl _
  · exact .pure SameTables.refl _
  · exact .pure SameTables.refl _
  · exact .throw SameTables.refl _

lemma keeps_itemOf (body index : Object) : Keeps SameTables (itemOf body index) := by
  unfold itemOf
  split
  · exact .pure SameTables.refl _
  · split
    · exact .throw SameTables.refl _
    · split
      · exact .pure SameTables.refl _
      · exact .throw SameTables.refl _
  · split
    · exact .throw SameTables.refl _
    · split
      · exact .pure SameTables.refl _
      · exact .throw SameTables.refl _
  · exact .throw SameTables.refl _

/-- An expression of names, values, signs, lists and items, in which nothing is called. -/
inductive IsCallFree : Expr → Prop
  | name (text : String) : IsCallFree (.name text)
  | constant (v : Json) : IsCallFree (.constant v)
  | minus {body : Expr} (h : IsCallFree body) : IsCallFree (.minus body)
  | list {items : List Expr} (h : ∀ e ∈ items, IsCallFree e) : IsCallFree (.list items)
  | item {body index : Expr} (h : IsCallFree body) (h' : IsCallFree index) :
      IsCallFree (.item body index)

lemma keeps_evalAll {items : List Expr} (h : ∀ e ∈ items, Keeps SameTables (eval scope e)) :
    Keeps SameTables (evalAll scope items) := by
  induction items with
  | nil => exact .pure SameTables.refl _
  | cons e items ih =>
    rw [List.forall_mem_cons] at h
    rw [evalAll]
    exact .bind SameTables.trans h.1 fun _ =>
      .bind SameTables.trans (ih h.2) fun _ => .pure SameTables.refl _

/-- An expression that calls nothing declares no table. -/
theorem keeps_eval (h : IsCallFree e) : Keeps SameTables (eval scope e) := by
  induction h with
  | name text =>
    rw [eval]
    exact keeps_find scope text
  | constant v =>
    rw [eval]
    exact .pure SameTables.refl _
  | minus _ ih =>
    rw [eval]
    exact .bind SameTables.trans ih keeps_negative
  | list _ ih =>
    rw [eval]
    exact .bind SameTables.trans (keeps_evalAll ih) fun _ => .pure SameTables.refl _
  | item _ _ ih ih' =>
    rw [eval]
    exact .bind SameTables.trans ih fun body =>
      .bind SameTables.trans ih' fun index => keeps_itemOf body index

lemma keeps_baseOf (under : Option Object) : Keeps SameTables (baseOf under) := by
  unfold baseOf
  split
  · exact .pure SameTables.refl _
  · exact .pure SameTables.refl _
  · exact .pure SameTables.refl _
  · split
    · exact .pure SameTables.refl _
    · exact .throw SameTables.refl _
  · exact .pure SameTables.refl _
  · exact .pure SameTables.refl _
  · exact .pure SameTables.refl _
  · exact .throw SameTables.refl _

lemma keeps_classOf (qualified : String) (bodyScope : Scope) :
    Keeps SameTables (classOf base name qualified bodyScope) := by
  unfold classOf
  dsimp only
  split
  · exact .throw SameTables.refl _
  · cases base with
    | plain => exact .pure SameTables.refl _
    | enumeration => exact .pure SameTables.refl _
    | record => exact .pure SameTables.refl _

/-- A table is made of two objects, and a decorator is called with one. -/
lemma keeps_apply_single (callee o : Object) : Keeps SameTables (apply callee [o] []) := by
  intro d
  unfold apply
  split
  all_goals first | rfl | simp_all

lemma keeps_decorate (decorators : List Object) (o : Object) :
    Keeps SameTables (decorate decorators o) := by
  induction decorators with
  | nil =>
    rw [decorate]
    exact .pure SameTables.refl _
  | cons d outer ih =>
    rw [decorate]
    exact .bind SameTables.trans ih fun o => keeps_apply_single d o

lemma keeps_takeNames (module : String) (found : Pairs Object) (names : List (String × String)) :
    Keeps SameTables (takeNames scope module found names) := by
  induction names generalizing scope with
  | nil =>
    rw [takeNames]
    exact .pure SameTables.refl _
  | cons p names ih =>
    rw [takeNames]
    split
    · exact .throw SameTables.refl _
    · exact .bind SameTables.trans (keeps_bind scope _ _) fun _ => ih

/-- A statement in which nothing is called but decorators. -/
inductive CallsNothing : Statement → Prop
  | useNames (module : String) (names : List (String × String)) :
      CallsNothing (.useNames module names)
  | assign (name : String) {value : Expr} (h : IsCallFree value) : CallsNothing (.assign name value)
  | declare (name : String) {typeName value : Expr} (h : IsCallFree typeName)
      (h' : IsCallFree value) : CallsNothing (.declare name typeName (some value))
  | evaluate {value : Expr} (h : IsCallFree value) : CallsNothing (.evaluate value)
  | declareClass (name : String) {decorators : List Expr} {under : Option Expr}
      {body : List Statement} (hdecorators : ∀ e ∈ decorators, IsCallFree e)
      (hunder : ∀ e, under = some e → IsCallFree e) (hbody : ∀ s ∈ body, CallsNothing s) :
      CallsNothing (.declareClass decorators name under body)

lemma keeps_runStatements {statements : List Statement}
    (h : ∀ s ∈ statements, ∀ scope, Keeps SameTables (runStatement base outer scope s)) :
    Keeps SameTables (runStatements base outer scope statements) := by
  induction statements generalizing scope with
  | nil =>
    rw [runStatements]
    exact .pure SameTables.refl _
  | cons s statements ih =>
    rw [List.forall_mem_cons] at h
    rw [runStatements]
    exact .bind SameTables.trans (h.1 scope) fun _ => ih h.2

/-- A statement that calls nothing declares no table. -/
theorem keeps_runStatement {s : Statement} (h : CallsNothing s) :
    Keeps SameTables (runStatement base outer scope s) := by
  induction h generalizing base outer scope with
  | useNames module names =>
    rw [runStatement]
    split
    · exact .throw SameTables.refl _
    · exact keeps_takeNames module _ names
  | assign name h =>
    rw [runStatement]
    exact .bind SameTables.trans (keeps_eval h) fun o => keeps_bindMember base scope name o
  | declare name h h' =>
    rw [runStatement]
    exact .bind SameTables.trans (keeps_eval h') fun o =>
      .bind SameTables.trans (keeps_bindMember base scope name o) fun bound =>
        .bind SameTables.trans (keeps_eval h) fun _ => keeps_bindType bound name
  | evaluate h =>
    rw [runStatement]
    exact .bind SameTables.trans (keeps_eval h) fun _ => .pure SameTables.refl _
  | @declareClass name decorators under body hdecorators hunder _ ih =>
    have hbase : Keeps SameTables (under.mapM (eval scope)) := by
      cases under with
      | none => exact .pure SameTables.refl _
      | some e =>
        exact .bind SameTables.trans (keeps_eval (hunder e rfl)) fun _ => .pure SameTables.refl _
    rw [runStatement]
    refine .bind SameTables.trans (keeps_evalAll fun e he => keeps_eval (hdecorators e he))
      fun objects => ?_
    refine .bind SameTables.trans hbase fun o? => ?_
    refine .bind SameTables.trans (keeps_baseOf o?) fun inner => ?_
    refine .bind SameTables.trans (.get SameTables.refl) fun d => ?_
    refine .bind SameTables.trans (keeps_runStatements fun s hs _ => ih s hs) fun bodyScope => ?_
    refine .bind SameTables.trans (keeps_classOf _ bodyScope) fun o => ?_
    refine .bind SameTables.trans (keeps_decorate objects o) fun o => ?_
    exact keeps_bindMember base scope name o

/-- A script that calls nothing declares no table, whether or not it runs to its end. -/
theorem tables_run_of_callsNothing {text : String}
    (h : ∀ statements, statements? text = some statements → ∀ s ∈ statements, CallsNothing s)
    (module : String) : (run module text).1.tables = [] := by
  unfold run
  cases hs : statements? text with
  | none => rfl
  | some statements =>
    have hsame : SameTables (.start module)
        ((runStatements .plain "" .outermost statements).apply (.start module)).2 :=
      keeps_runStatements (fun s hmem _ => keeps_runStatement (h statements hs s hmem))
        (.start module)
    dsimp only
    split
    · rename_i happly
      rw [happly] at hsame
      exact hsame
    · rename_i happly
      rw [happly] at hsame
      exact hsame

end

/-! ## Variable tables -/

section

variable {constants : List Constant}

lemma isCallFree_scalar (v : Scalar) : IsCallFree v.expression := by
  have hbare : IsCallFree v.toBare.expression := by
    cases v.toBare with
    | constant value => exact .constant value
    | name text => exact .name text
  rw [Scalar.expression]
  split_ifs
  · exact .minus hbare
  · exact hbare

lemma isCallFree_literal (l : Literal) : IsCallFree l.expression := by
  cases l with
  | scalar v => exact isCallFree_scalar v
  | list values =>
    refine .list fun e he => ?_
    obtain ⟨v, -, rfl⟩ := List.mem_map.1 he
    exact isCallFree_scalar v

lemma isCallFree_type (c : Constant) : IsCallFree c.typeExpression := by
  rw [Constant.typeExpression]
  split_ifs
  · exact .item (.name _) (.name _)
  · exact .name _

/-- The statements of a Variable table call nothing. -/
lemma callsNothing_variableStatements (table : String) (constants : List Constant) :
    ∀ s ∈ variableStatements table constants, CallsNothing s := by
  intro s hs
  rw [List.mem_singleton.1 hs]
  refine .declareClass _ (by simp) (by simp) fun s hs => ?_
  rcases List.mem_cons.1 hs with rfl | hs
  · exact .evaluate (.constant _)
  · obtain ⟨c, -, rfl⟩ := List.mem_map.1 hs
    exact .declare _ (isCallFree_type c) (isCallFree_literal c.literal)

/-- The script of a Variable table declares no table, whatever its constants are called. -/
theorem tables_run_variableScript {table : String} (h : isIdentifier table = true)
    (hnames : ∀ c ∈ constants, isIdentifier c.name = true)
    (hlegible : ∀ c ∈ constants, c.literal.IsLegible) (module : String) :
    (run module (Template.lines
      (Template.variableScriptTexts table (constants.map Constant.declaration)))).1.tables = [] := by
  refine tables_run_of_callsNothing (fun statements hs => ?_) module
  rw [statements?_variableScript h hnames hlegible] at hs
  split_ifs at hs
  rw [← Option.some.inj hs]
  exact callsNothing_variableStatements table _

end

/-! ## Enum tables -/

/-- The statements of an Enum table call nothing but what registers their container. -/
lemma callsNothing_scriptStatements (table : String) (enums : List EnumDeclaration) :
    ∀ s ∈ scriptStatements table enums, CallsNothing s := by
  have henum (e : EnumDeclaration) : CallsNothing (enumStatement e) := by
    refine .declareClass _ (by simp) (fun e he => ?_) fun s hs => ?_
    · rw [← Option.some.inj he]
      exact .name _
    · obtain ⟨m, -, rfl⟩ := List.mem_map.1 hs
      exact .assign _ (.constant _)
  intro s hs
  rw [scriptStatements, List.mem_cons, List.mem_cons, List.mem_singleton] at hs
  rcases hs with rfl | rfl | rfl
  · exact .useNames _ _
  · exact .useNames _ _
  · refine .declareClass _ (fun e he => ?_) (by simp) fun s hs => ?_
    · rw [List.mem_singleton.1 he]
      exact .name _
    · rcases List.mem_cons.1 hs with rfl | hs
      · exact .evaluate (.constant _)
      · obtain ⟨e, -, rfl⟩ := List.mem_map.1 hs
        exact henum e

/-- The script of an Enum table declares no table, whatever its members are called. -/
theorem tables_run_enumScript {table : String} {enums : List EnumDeclaration}
    (h : isIdentifier table = true) (he : ∀ e ∈ enums, e.IsAccepted) (module : String) :
    (run module (Template.lines (Template.enumScriptTexts table enums))).1.tables = [] := by
  refine tables_run_of_callsNothing (fun statements hs => ?_) module
  rw [statements?_enumScript h he] at hs
  split_ifs at hs
  rw [← Option.some.inj hs]
  exact callsNothing_scriptStatements table enums

/-! ## Convert tables -/

section

variable {table module : String} {columns : List Column} {d : Declared}

/-- The script of a Convert table declares the table, with fields of its columns alone. -/
theorem tables_of_run_convertScript (h : isIdentifier table = true)
    (hcolumns : ∀ c ∈ columns, IsWritten c)
    (hrun : run module (Template.lines (Template.convertScriptTexts table columns)) = (d, none)) :
    ∃ type, d.tables = [(table, type)] ∧ ∀ f ∈ type.fields, ∃ c ∈ columns, f = boundField table c := by
  by_cases hall : AreDeclarable table columns
  · rw [run_convertScript h hcolumns module hall] at hrun
    cases hrun
    exact ⟨_, rfl, fun f hf => exists_column_of_mem_fields hf⟩
  · obtain ⟨declared, fault, hfails⟩ :=
      run_convertScript_of_not_declarable h hcolumns module hall
    rw [hfails] at hrun
    cases hrun

end

end SheetCompiler.Script
