import SheetCompiler.Script.Foreign
import SheetCompiler.Text.Lines

/-!
# Statements of scripts

A generated script imports names, declares classes and gives names values. Every statement stands on
a line of its own; the body of a class is what stands deeper than its head. Statements of other
kinds are told from lines that are none.
-/

namespace SheetCompiler.Script

open SheetCompiler.Text

/-- An expression. An `other` one is a constant that no generated script has. A map has texts as the
names of its members. -/
inductive Expr
  | name (text : String)
  | constant (value : Json)
  | other
  | minus (body : Expr)
  | list (items : List Expr)
  | map (members : List (String × Expr))
  | item (body index : Expr)
  | attribute (body : Expr) (name : String)
  | call (callee : Expr) (arguments : List Expr) (named : List (String × Expr))

/-- A statement. What is imported may be given another name; a name can be given a type without a
value. A `failure` names what it fails with; a `foreign` one and a `block` are of kinds that no
generated script has. -/
inductive Statement
  | useModule (module : String) (newName : Option String)
  | useNames (module : String) (names : List (String × String))
  | useAll (module : String)
  | declareClass (decorators : List Expr) (name : String) (base : Option Expr)
      (body : List Statement)
  | declareFunction (decorators : List Expr) (name : String) (body : List Statement)
  | assign (name : String) (value : Expr)
  | declare (name : String) (typeName : Expr) (value : Option Expr)
  | evaluate (value : Expr)
  | skip
  | failure (kind text : String)
  | foreign (place : Place)
  | block (word : String) (body : List Statement)

/-! ## Expressions -/

mutual

/-- Reads an expression and gives what follows it. The fuel bounds its depth. -/
def readExpr : Nat → List Token → Option (Expr × List Token)
  | 0, _ => none
  | fuel + 1, .mark '-' :: ts => do
    let (body, ts) ← readExpr fuel ts
    return (.minus body, ts)
  | fuel + 1, .mark '[' :: ts => do
    let (items, _, ts) ← readItems fuel ']' ts
    readTail fuel (.list items) ts
  | fuel + 1, .mark '\x7b' :: ts => do
    let (members, ts) ← readMap fuel ts
    readTail fuel (.map members) ts
  | fuel + 1, .mark '(' :: ts => do
    let (body, ts) ← readExpr fuel ts
    readTail fuel body (← skipMark ')' ts)
  | fuel + 1, .name text :: ts => readTail fuel (.name text) ts
  | fuel + 1, .constant (.text a) :: .constant (.text b) :: ts =>
    readExpr fuel (.constant (.text (a ++ b)) :: ts)
  | fuel + 1, .constant value :: ts => readTail fuel (.constant value) ts
  | fuel + 1, .other _ :: ts | fuel + 1, .sign "..." :: ts => readTail fuel .other ts
  | _ + 1, _ => none

/-- Reads what stands behind an expression: an index, the arguments of a call, or an attribute. -/
def readTail : Nat → Expr → List Token → Option (Expr × List Token)
  | 0, _, _ => none
  | fuel + 1, body, .mark '[' :: ts => do
    let (index, ts) ← readExpr fuel ts
    match ts with
    | .mark ']' :: ts => readTail fuel (.item body index) ts
    | _ => none
  | fuel + 1, body, .mark '(' :: ts => do
    let (items, named, ts) ← readItems fuel ')' ts
    let names := named.map Prod.fst
    if areDistinct names && names.all isBindable then readTail fuel (.call body items named) ts
    else none
  | fuel + 1, body, .mark '.' :: .name name :: ts => readTail fuel (.attribute body name) ts
  | _ + 1, body, ts => some (body, ts)

/-- Reads the members of a map, each a text with a colon and an expression behind it, up to the
closing mark. -/
def readMap : Nat → List Token → Option (List (String × Expr) × List Token)
  | 0, _ => none
  | _ + 1, .mark '\x7d' :: ts => some ([], ts)
  | fuel + 1, .constant (.text name) :: .mark ':' :: ts => do
    let (value, ts) ← readExpr fuel ts
    match ts with
    | .mark ',' :: ts =>
      let (members, ts) ← readMap fuel ts
      return ((name, value) :: members, ts)
    | .mark '\x7d' :: ts => return ([(name, value)], ts)
    | _ => none
  | _ + 1, _ => none

/-- Reads expressions, and after them named ones, up to a closing mark. -/
def readItems : Nat → Char → List Token → Option (List Expr × List (String × Expr) × List Token)
  | 0, _, _ => none
  | fuel + 1, close, ts =>
    match ts with
    | .mark c :: rest =>
      if c = close then some ([], [], rest) else readItem fuel close ts
    | _ => readItem fuel close ts

/-- Reads an expression or a named one, and those behind it. -/
def readItem : Nat → Char → List Token → Option (List Expr × List (String × Expr) × List Token)
  | 0, _, _ => none
  | fuel + 1, close, ts =>
    match ts with
    | .name key :: .mark '=' :: rest => do
      let (value, rest) ← if close = ')' then readExpr fuel rest else none
      let (items, named, rest) ← readMore fuel close rest
      if items.isEmpty then return ([], (key, value) :: named, rest) else none
    | _ => do
      let (value, rest) ← readExpr fuel ts
      let (items, named, rest) ← readMore fuel close rest
      return (value :: items, named, rest)

/-- Reads what follows an item: the closing mark, or a comma and further items. -/
def readMore : Nat → Char → List Token → Option (List Expr × List (String × Expr) × List Token)
  | 0, _, _ => none
  | fuel + 1, close, ts =>
    match ts with
    | .mark ',' :: rest => readItems fuel close rest
    | .mark c :: rest => if c = close then some ([], [], rest) else none
    | _ => none

end

/-- Reads an expression and gives what follows it. -/
def expression? (ts : List Token) : Option (Expr × List Token) := readExpr (4 * ts.length + 4) ts

/-- The expression that all of the tokens form. -/
def wholeExpression? (ts : List Token) : Option Expr :=
  match expression? ts with
  | some (value, []) => some value
  | _ => none

/-! ## Lines -/

/-- Reads a module's name with points in it. -/
def moduleName? : List Token → Option (String × List Token)
  | .name part :: .mark '.' :: ts =>
    (moduleName? ts).map fun (rest, ts) => (part ++ "." ++ rest, ts)
  | .name part :: ts => some (part, ts)
  | _ => none

/-- Reads names with commas between them, each with the one it is given. -/
def names? : List Token → Option (List (String × String))
  | [.name text] => some [(text, text)]
  | [.name text, .word "as", .name newName] => some [(text, newName)]
  | .name text :: .mark ',' :: ts => (names? ts).map ((text, text) :: ·)
  | .name text :: .word "as" :: .name newName :: .mark ',' :: ts =>
    (names? ts).map ((text, newName) :: ·)
  | _ => none

/-- Reads names between brackets or without them. -/
def takenNames? : List Token → Option (List (String × String))
  | .mark '(' :: ts =>
    match ts.reverse with
    | .mark ')' :: .mark ',' :: ts | .mark ')' :: ts => names? ts.reverse
    | _ => none
  | ts => names? ts

/-- Reads a statement of one line as one of the kinds that generated scripts have. -/
def ownStatement? : List Token → Option Statement
  | .word "import" :: ts =>
    match moduleName? ts with
    | some (module, []) => some (.useModule module none)
    | some (module, [.word "as", .name newName]) => some (.useModule module newName)
    | _ => none
  | .word "from" :: ts =>
    match moduleName? ts with
    | some (module, [.word "import", .mark '*']) => some (.useAll module)
    | some (module, .word "import" :: ts) => (takenNames? ts).map (.useNames module)
    | _ => none
  | .name name :: .mark '=' :: ts => (wholeExpression? ts).map (.assign name)
  | .name name :: .mark ':' :: ts =>
    match expression? ts with
    | some (typeName, []) => some (.declare name typeName none)
    | some (typeName, .mark '=' :: ts) =>
      (wholeExpression? ts).map fun value => .declare name typeName (some value)
    | _ => none
  | [.word "pass"] => some .skip
  | ts => (wholeExpression? ts).map .evaluate

/-- Whether the names that a statement gives something can be given it. -/
def Statement.isBound : Statement → Bool
  | .assign name _ | .declare name _ _ | .useModule _ (some name) => isBindable name
  | .useNames _ names => names.all fun p => isBindable p.2
  | _ => true

/-- The names of what a script can fail with by itself. -/
def failureKinds : List String := [
  "ArithmeticError", "AssertionError", "AttributeError", "EOFError", "Exception", "ImportError",
  "IndexError", "KeyError", "LookupError", "ModuleNotFoundError", "NameError",
  "NotImplementedError", "OSError", "OverflowError", "RuntimeError", "StopIteration", "SyntaxError",
  "TypeError", "ValueError", "ZeroDivisionError"]

/-- Reads a statement that lets the script fail. A missing key is shown between quotes. -/
def failure? (ts : List Token) : Option Statement :=
  let fail (kind text : String) : Option Statement :=
    if failureKinds.contains kind then
      some (.failure kind (if kind = "KeyError" ∧ text ≠ "" then quoted text else text))
    else none
  match ts with
  | [.word "raise", .name kind] | [.word "raise", .name kind, .mark '(', .mark ')'] => fail kind ""
  | [.word "raise", .name kind, .mark '(', .constant (.text text), .mark ')'] => fail kind text
  | [.word "assert", .constant (.truth false)] => fail "AssertionError" ""
  | [.word "assert", .constant (.truth false), .mark ',', .constant (.text text)] =>
    fail "AssertionError" text
  | _ => none

/-- Reads a statement of one line as one of another kind. Some do nothing. -/
def otherStatement? (ts : List Token) : Option Statement :=
  match failure? ts, place? ts with
  | some s, _ => some s
  | none, none => none
  | none, some place =>
    match ts with
    | .word "global" :: _ | [.word "assert", .constant (.truth true)] => some .skip
    | _ => some (.foreign place)

/-- Reads a statement of one line. -/
def statement? (ts : List Token) : Option Statement :=
  match ownStatement? ts with
  | some s => if s.isBound then some s else none
  | none => otherStatement? ts

/-- The statements of a line: semicolons stand between them, and behind the last one perhaps. -/
def statementsOf? : List Token → List Token → Option (List Statement)
  | [], [] => some []
  | part, [] => (statement? part).map ([·])
  | part, .mark ';' :: ts => do
    let first ← statement? part
    return first :: (← statementsOf? [] ts)
  | part, t :: ts => statementsOf? (part ++ [t]) ts

/-- The head of what has a body: of a class, a function, or a block of another kind. -/
inductive Head
  | group (name : String) (base : Option Expr)
  | function (name : String)
  | block (word : String)

/-- What stands on a line: whole statements, a decorator, or a head, behind which a body may
follow. -/
inductive Line
  | statements (list : List Statement)
  | decorator (value : Expr)
  | head (head : Head) (body : List Statement)

/-- Reads the head of a class with one base at most, and gives what follows its colon. -/
def classHead? : List Token → Option (Head × List Token)
  | .name name :: .mark ':' :: ts | .name name :: .mark '(' :: .mark ')' :: .mark ':' :: ts =>
    if isBindable name then some (.group name none, ts) else none
  | .name name :: .mark '(' :: ts =>
    match expression? ts with
    | some (base, .mark ')' :: .mark ':' :: ts) =>
      if isBindable name then some (.group name (some base), ts) else none
    | _ => none
  | _ => none

/-- Reads a line of tokens as one of the kinds that generated scripts have. -/
def ownLine? : List Token → Option Line
  | .mark '@' :: ts => (wholeExpression? ts).map .decorator
  | .word "class" :: ts => do
    let (head, ts) ← classHead? ts
    return .head head (← statementsOf? [] ts)
  | ts => do
    let s ← ownStatement? ts
    if s.isBound then return .statements [s] else none

/-- Reads a line of tokens as one of another kind. -/
def otherLine? (ts : List Token) : Option Line :=
  match functionHead? ts, blockHead? ts with
  | some (name, ts), _ => (statementsOf? [] ts).map (.head (.function name))
  | none, some (word, ts) => (statementsOf? [] ts).map (.head (.block word))
  | none, none => (statementsOf? [] ts).map .statements

/-- Reads a line of tokens. -/
def line? (ts : List Token) : Option Line :=
  match ownLine? ts with
  | some l => some l
  | none => otherLine? ts

/-! ## Depths -/

/-- The depth of a line: its columns when a tab leads to the next multiple of eight, and when it is
one column. Both must agree on which of two lines is deeper. -/
structure Depth where
  columns : Nat
  narrow : Nat
deriving DecidableEq

/-- The depth of lines outside all bodies. -/
def Depth.outermost : Depth := ⟨0, 0⟩

/-- The depth that blanks lead to from a depth. -/
def Depth.behind (d : Depth) : List Char → Depth
  | [] => d
  | c :: cs =>
    if c = ' ' then Depth.behind ⟨d.columns + 1, d.narrow + 1⟩ cs
    else if c = '\t' then Depth.behind ⟨(d.columns / 8 + 1) * 8, d.narrow + 1⟩ cs
    else Depth.behind .outermost cs

/-- How a depth compares with another one, if both ways of counting agree. -/
def Depth.compare? (d other : Depth) : Option Ordering :=
  if d.columns = other.columns then if d.narrow = other.narrow then some .eq else none
  else if d.columns < other.columns then some .lt
  else if other.narrow < d.narrow then some .gt
  else none

/-- The mark that a file of texts may begin with. -/
def dropOrderMark (text : String) : String :=
  match text.toList with
  | '\ufeff' :: cs => String.ofList cs
  | _ => text

/-- The lines of a script, without what stands behind the last line end if it is nothing. -/
def scriptLines (text : String) : List (List Char) :=
  let found := lines text
  if found.getLast?.any List.isEmpty then found.dropLast else found

/-- The lines that hold tokens, each with its depth, behind the beginning of one that has not ended;
none if a line cannot be read. -/
def readLines (begun : List Char) : List (List Char) → Option (List (Depth × Line))
  | [] => if begun.isEmpty then some [] else none
  | text :: rest =>
    let text := begun ++ text
    match tokens text with
    | none => readLines (text ++ ['\n']) rest
    | some [] => readLines [] rest
    | some (t :: ts) =>
      match line? (t :: ts) with
      | some line =>
        (readLines [] rest).map ((Depth.outermost.behind (text.takeWhile isSpace), line) :: ·)
      | none =>
        if 0 < (t :: ts).foldl openBehind 0 then readLines (text ++ ['\n']) rest else none

/-! ## Bodies -/

/-- The depth of the body that begins with the first of the lines. -/
def bodyDepth? (depth : Depth) : List (Depth × Line) → Option Depth
  | (inner, _) :: _ => if inner.compare? depth = some .gt then some inner else none
  | [] => none

/-- The statement of a head and its body. Decorators stand in front of classes and functions. -/
def Head.statement? (decorators : List Expr) (body : List Statement) : Head → Option Statement
  | .group name base => some (.declareClass decorators name base body)
  | .function name => some (.declareFunction decorators name body)
  | .block word =>
    if decorators.isEmpty || decide (word = "class") then some (.block word body) else none

/-- Reads the statements of a depth, and gives the lines behind them. Decorators read before are
those of the class that follows. The fuel bounds the lines. -/
def readBody : Nat → Depth → List Expr → List (Depth × Line) →
    Option (List Statement × List (Depth × Line))
  | 0, _, _, _ => none
  | _ + 1, _, decorators, [] => if decorators.isEmpty then some ([], []) else none
  | fuel + 1, depth, decorators, (inner, line) :: rest =>
    match inner.compare? depth with
    | some .lt => if decorators.isEmpty then some ([], (inner, line) :: rest) else none
    | some .eq =>
      match line with
      | .decorator value => readBody fuel depth (decorators ++ [value]) rest
      | .statements list =>
        if decorators.isEmpty then do
          let (statements, rest) ← readBody fuel depth [] rest
          return (list ++ statements, rest)
        else none
      | .head head body => do
        let (body, rest) ←
          if body.isEmpty then do readBody fuel (← bodyDepth? depth rest) [] rest
          else some (body, rest)
        let s ← head.statement? decorators body
        let (statements, rest) ← readBody fuel depth [] rest
        return (s :: statements, rest)
    | _ => none

/-! ## Places -/

/-- What a block may stand behind, by the word it begins with; none if it stands by itself. -/
def predecessors? (word : String) : Option (List String) :=
  if word = "elif" then some ["if", "elif"]
  else if word = "else" then some ["if", "elif", "for", "while", "except"]
  else if word = "except" then some ["try", "except"]
  else if word = "finally" then some ["try", "except", "else"]
  else none

/-- The word that a statement begins with if it is a block. -/
def Statement.word? : Statement → Option String
  | .block word _ => some word
  | _ => none

/-- Whether the blocks among statements stand behind what they belong to. -/
def areChained : Option String → List Statement → Bool
  | before, [] => before != some "try"
  | before, s :: rest =>
    (match s.word?.bind predecessors? with
      | some words => before.any words.contains
      | none => before != some "try")
      && areChained s.word? rest

/-- What a statement stands in. -/
structure Surroundings where
  inFunction : Bool
  inLoop : Bool
  inClass : Bool

/-- Whether a statement may stand in a place. -/
def Place.isAllowed (around : Surroundings) : Place → Bool
  | .anywhere => true
  | .function => around.inFunction
  | .loop => around.inLoop
  | .outermost => !around.inFunction && !around.inClass

/-- The module of what changes the script that takes it. -/
def featuresModule : String := "__future__"

/-- What changes the script that takes it. -/
def features : List String := [
  "nested_scopes", "generators", "division", "absolute_import", "with_statement", "print_function",
  "unicode_literals", "barry_as_FLUFL", "generator_stop", "annotations"]

/-- Whether a statement takes nothing but what changes the script. -/
def Statement.isFeature : Statement → Bool
  | .useNames module names =>
    decide (module = featuresModule) && names.all fun p => features.contains p.1
  | _ => false

/-- The statements behind those that must stand at the beginning: the text that describes the
script, and what changes it. -/
def bodyOf : List Statement → List Statement
  | .evaluate (.constant (.text _)) :: rest => rest.dropWhile Statement.isFeature
  | statements => statements.dropWhile Statement.isFeature

mutual

/-- Whether a statement stands where it may. -/
def Statement.isPlaced (around : Surroundings) : Statement → Bool
  | .foreign place => place.isAllowed around
  | .useNames module _ => decide (module ≠ featuresModule)
  | .useAll module =>
    decide (module ≠ featuresModule) && Place.outermost.isAllowed around
  | .block word body =>
    let inner : Surroundings :=
      if word = "class" then ⟨false, false, true⟩
      else { around with inLoop := around.inLoop || ["for", "while"].contains word }
    arePlaced inner body && areChained none body
  | .declareClass _ _ _ body => arePlaced ⟨false, false, true⟩ body && areChained none body
  | .declareFunction _ _ body => arePlaced ⟨true, false, false⟩ body && areChained none body
  | _ => true

/-- Whether statements stand where they may. -/
def arePlaced (around : Surroundings) : List Statement → Bool
  | [] => true
  | s :: rest => s.isPlaced around && arePlaced around rest

end

/-- The statements of a script; none if it is not well formed. -/
def statements? (text : String) : Option (List Statement) := do
  let text := dropOrderMark text
  let found ← if text.toList.contains '\x00' then none else readLines [] (scriptLines text)
  let (statements, rest) ← readBody (found.length + 1) .outermost [] found
  let isPlaced := arePlaced ⟨false, false, false⟩ (bodyOf statements)
  if rest.isEmpty && isPlaced && areChained none statements then return statements else none

end SheetCompiler.Script
