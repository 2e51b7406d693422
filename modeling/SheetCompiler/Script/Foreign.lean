import SheetCompiler.Script.Token

/-!
# Lines of other scripts

A script that was not generated may hold lines of many more kinds. Such a line does nothing that
matters here but fail when it is run, so all that is asked of it is whether it is well formed: a
script with a line that is not is never begun. The functions below skip the parts of a line, and
give what follows them.
-/

namespace SheetCompiler.Script

/-! ## Items and parameters -/

/-- What an expression is for an assignment: a name, a place in something, several of them, or a
value that nothing can be assigned to. -/
inductive Shape
  | name
  | place
  | several
  | value
deriving DecidableEq

/-- What follows an expression, and its shape. -/
structure Skipped where
  rest : List Token
  shape : Shape

/-- An item between brackets: a value, one that stands for many or for a map, a named one, a member
of a map, a range of an index, or values or members that are made one by one. -/
inductive Item
  | value (shape : Shape)
  | starred (shape : Shape)
  | spread
  | named (name : String)
  | member
  | range
  | each
  | eachMember

/-- What brackets are for. -/
inductive Bracket
  | call
  | group
  | list
  | index
  | braces
deriving DecidableEq

/-- The mark that closes brackets. -/
def Bracket.close : Bracket → Char
  | .call | .group => ')'
  | .list | .index => ']'
  | .braces => '\x7d'

/-- Whether an item is a value or stands for many. -/
def Item.isEntry : Item → Bool
  | .value _ | .starred _ => true
  | _ => false

/-- Whether something can be assigned to an item. -/
def Item.isTarget : Item → Bool
  | .value shape | .starred shape => decide (shape ≠ .value)
  | _ => false

/-- Whether an item stands for many. -/
def Item.isStarred : Item → Bool
  | .starred _ => true
  | _ => false

/-- Whether an item is a range of an index. -/
def Item.isRange : Item → Bool
  | .range => true
  | _ => false

/-- Whether an item is a member of a map or stands for the members of one. -/
def Item.isMember : Item → Bool
  | .member | .spread => true
  | _ => false

/-- The shape of items that stand by themselves or between brackets. -/
def shapeOf : List Item → Bool → Shape
  | [.value shape], false => shape
  | items, _ =>
    if items.all Item.isTarget && decide ((items.filter Item.isStarred).length ≤ 1) then .several
    else .value

/-- Whether no name stands twice among names. -/
def areDistinct : List String → Bool
  | [] => true
  | name :: rest => !rest.contains name && areDistinct rest

/-- The names of named items. -/
def namesOf (items : List Item) : List String := items.filterMap fun item =>
  match item with
  | .named name => some name
  | _ => none

/-- Whether arguments stand in order: a plain one stands behind no named one, and neither it nor one
that stands for many behind a map. -/
def areInOrder : Bool → Bool → List Item → Bool
  | _, _, [] => true
  | isNamed, isSpread, item :: rest =>
    match item with
    | .value _ => !isNamed && !isSpread && areInOrder isNamed isSpread rest
    | .starred _ => !isSpread && areInOrder isNamed isSpread rest
    | .named _ => areInOrder true isSpread rest
    | .spread => areInOrder isNamed true rest
    | _ => false

/-- Whether brackets may hold items, with a comma behind one or not. -/
def Bracket.admits (b : Bracket) (items : List Item) (hasComma : Bool) : Bool :=
  match b, items with
  | .call, [.each] | .group, [.each] | .list, [.each] | .braces, [.each] | .braces, [.eachMember] =>
    !hasComma
  | .call, _ => areInOrder false false items && areDistinct (namesOf items)
  | .group, [.starred _] => hasComma
  | .group, _ | .list, _ => items.all Item.isEntry
  | .index, _ => !items.isEmpty && items.all fun item => item.isEntry || item.isRange
  | .braces, _ => items.all Item.isEntry || items.all Item.isMember

/-- A parameter: a plain one that may be given a value beforehand, one that takes many, one that
takes a map, or the mark behind those that are known by their place. -/
inductive Parameter
  | plain (name : String) (isGiven : Bool)
  | many (name : Option String)
  | map (name : String)
  | slash

/-- Whether a parameter is a plain one. -/
def Parameter.isPlain : Parameter → Bool
  | .plain _ _ => true
  | _ => false

/-- Whether a parameter is given a value beforehand. -/
def Parameter.isGiven : Parameter → Bool
  | .plain _ isGiven => isGiven
  | _ => false

/-- Whether a parameter takes many, or begins those that are known by their names only. -/
def Parameter.isMany : Parameter → Bool
  | .many _ => true
  | _ => false

/-- Whether a parameter is the mark behind those that are known by their place. -/
def Parameter.isSlash : Parameter → Bool
  | .slash => true
  | _ => false

/-- The name of a parameter. -/
def Parameter.name? : Parameter → Option String
  | .plain name _ | .map name => some name
  | .many name => name
  | .slash => none

/-- Whether parameters may stand behind others. -/
def mayFollow (before : List Parameter) : List Parameter → Bool
  | [] => true
  | p :: rest =>
    let behindMany := before.any Parameter.isMany
    (match p with
      | .plain _ isGiven => isGiven || behindMany || !before.any Parameter.isGiven
      | .slash => !before.isEmpty && !behindMany && !before.any Parameter.isSlash
      | .many name => !behindMany && (name.isSome || rest.head?.any Parameter.isPlain)
      | .map _ => rest.isEmpty)
      && mayFollow (before ++ [p]) rest

/-- Whether a name can be given a value. -/
def isBindable (name : String) : Bool := decide (name ≠ "__debug__")

/-- Whether something can have parameters. -/
def areParameters (parameters : List Parameter) : Bool :=
  let names := parameters.filterMap Parameter.name?
  mayFollow [] parameters && areDistinct names && names.all isBindable

/-! ## Single tokens -/

/-- Skips a certain mark. -/
def skipMark (c : Char) : List Token → Option (List Token)
  | .mark d :: ts => if c = d then some ts else none
  | _ => none

/-- Skips a certain word. -/
def skipWord (w : String) : List Token → Option (List Token)
  | .word v :: ts => if w = v then some ts else none
  | _ => none

/-- Whether a word is the first of tokens. -/
def beginsWith (w : String) (ts : List Token) : Bool := (skipWord w ts).isSome

/-- The marks that stand between two operands. -/
def operatorMarks : List Char := ['+', '-', '*', '/', '%', '@', '&', '|', '^', '<', '>']

/-- The signs that stand between two operands. -/
def operatorSigns : List String := ["==", "!=", "<=", ">=", "**", "//", "<<", ">>"]

/-- The signs that change what they are assigned to. -/
def changingSigns : List String := [
  "**=", "//=", "<<=", ">>=", "+=", "-=", "*=", "/=", "%=", "@=", "&=", "|=", "^="]

/-- Skips an operator between two operands, and tells whether what follows it may be denied. -/
def skipOperator : List Token → Option (List Token × Bool)
  | .word "not" :: .word "in" :: ts | .word "is" :: .word "not" :: ts | .word "is" :: ts
  | .word "in" :: ts => some (ts, false)
  | .word "and" :: ts | .word "or" :: ts => some (ts, true)
  | .sign text :: ts => if operatorSigns.contains text then some (ts, false) else none
  | .mark c :: ts => if operatorMarks.contains c then some (ts, false) else none
  | _ => none

/-- Skips texts that stand beside one another. -/
def skipTexts : List Token → List Token
  | .constant (.text _) :: ts | .formatted :: ts => skipTexts ts
  | ts => ts

/-- Skips bytes that stand beside one another. -/
def skipBytes : List Token → List Token
  | .other true :: ts => skipBytes ts
  | ts => ts

/-! ## Expressions -/

mutual

/-- Skips an expression. The fuel bounds its depth. -/
def skipExpr : Nat → List Token → Option Skipped
  | 0, _ => none
  | fuel + 1, .word "lambda" :: ts => do
    let (parameters, ts) ← skipParameters fuel ':' ts
    let body ← skipExpr fuel ts
    if areParameters parameters then return ⟨body.rest, .value⟩ else none
  | fuel + 1, ts => do
    let first ← skipOperands fuel true ts
    match skipWord "if" first.rest with
    | none => return first
    | some ts =>
      let condition ← skipOperands fuel true ts
      let other ← skipExpr fuel (← skipWord "else" condition.rest)
      return ⟨other.rest, .value⟩

/-- Skips operands with operators between them, the first of which may be denied or not. -/
def skipOperands : Nat → Bool → List Token → Option Skipped
  | 0, _, _ => none
  | fuel + 1, mayDeny, .word "not" :: ts => do
    let operand ← if mayDeny then skipOperands fuel true ts else none
    return ⟨operand.rest, .value⟩
  | fuel + 1, _, .mark '-' :: ts | fuel + 1, _, .mark '+' :: ts | fuel + 1, _, .mark '~' :: ts => do
    let operand ← skipOperands fuel false ts
    return ⟨operand.rest, .value⟩
  | fuel + 1, _, ts => do
    let first ← skipPrimary fuel ts
    match skipOperator first.rest with
    | none => return first
    | some (ts, mayDeny) =>
      let more ← skipOperands fuel mayDeny ts
      return ⟨more.rest, .value⟩

/-- Skips an operand. -/
def skipPrimary : Nat → List Token → Option Skipped
  | 0, _ => none
  | fuel + 1, .name text :: ts => skipTails fuel ⟨ts, if isBindable text then .name else .value⟩
  | fuel + 1, .constant (.text _) :: ts | fuel + 1, .formatted :: ts =>
    skipTails fuel ⟨skipTexts ts, .value⟩
  | fuel + 1, .other true :: ts => skipTails fuel ⟨skipBytes ts, .value⟩
  | fuel + 1, .constant _ :: ts | fuel + 1, .other false :: ts | fuel + 1, .sign "..." :: ts =>
    skipTails fuel ⟨ts, .value⟩
  | fuel + 1, .mark '(' :: ts => do skipTails fuel (← skipBracket fuel .group ts)
  | fuel + 1, .mark '[' :: ts => do skipTails fuel (← skipBracket fuel .list ts)
  | fuel + 1, .mark '\x7b' :: ts => do skipTails fuel (← skipBracket fuel .braces ts)
  | _ + 1, _ => none

/-- Skips what stands behind an operand: names, arguments and indices. -/
def skipTails : Nat → Skipped → Option Skipped
  | 0, _ => none
  | fuel + 1, found =>
    match found.rest with
    | .mark '.' :: .name text :: ts =>
      skipTails fuel ⟨ts, if isBindable text then .place else .value⟩
    | .mark '.' :: _ => none
    | .mark '(' :: ts => do skipTails fuel ⟨(← skipBracket fuel .call ts).rest, .value⟩
    | .mark '[' :: ts => do skipTails fuel ⟨(← skipBracket fuel .index ts).rest, .place⟩
    | _ => some found

/-- Skips the items of brackets and the mark that closes them. -/
def skipBracket : Nat → Bracket → List Token → Option Skipped
  | 0, _, _ => none
  | fuel + 1, b, ts => do
    let (items, hasComma, rest) ← skipItems fuel b ts
    let shape := if b = .braces then .value else shapeOf items (hasComma || decide (b = .list))
    if b.admits items hasComma then return ⟨rest, shape⟩ else none

/-- Skips items and the mark that closes their brackets, and tells whether there was a comma. -/
def skipItems : Nat → Bracket → List Token → Option (List Item × Bool × List Token)
  | 0, _, _ => none
  | fuel + 1, b, ts =>
    match skipMark b.close ts with
    | some rest => some ([], false, rest)
    | none => do
      let (item, rest) ← skipItem fuel b ts
      match skipMark ',' rest with
      | some rest =>
        let (more, _, rest) ← skipItems fuel b rest
        return (item :: more, true, rest)
      | none => return ([item], false, ← skipMark b.close rest)

/-- Skips an item. -/
def skipItem : Nat → Bracket → List Token → Option (Item × List Token)
  | 0, _, _ => none
  | fuel + 1, b, ts =>
    let each (rest : List Token) (one : Item) : Item := if beginsWith "for" rest then .each else one
    match ts with
    | .mark '*' :: rest => do
      let found ← skipOperands fuel false rest
      return (.starred found.shape, found.rest)
    | .sign "**" :: rest => do return (.spread, (← skipOperands fuel false rest).rest)
    | .mark ':' :: _ => do return (.range, ← skipRange fuel 2 ts)
    | .name text :: .mark '=' :: rest => do
      let found ← skipExpr fuel rest
      if isBindable text then return (.named text, found.rest) else none
    | .name text :: .sign ":=" :: rest => do
      let found ← skipExpr fuel rest
      if isBindable text then
        return (each found.rest (.value .value), ← skipClauses fuel found.rest)
      else none
    | _ => do
      let found ← skipExpr fuel ts
      match found.rest with
      | .mark ':' :: rest =>
        if b = .braces then do
          let value ← skipExpr fuel rest
          let item : Item := if beginsWith "for" value.rest then .eachMember else .member
          return (item, ← skipClauses fuel value.rest)
        else return (.range, ← skipRange fuel 2 found.rest)
      | rest => return (each rest (.value found.shape), ← skipClauses fuel rest)

/-- Skips what stands behind the beginning of a range, which has so many colons at most. -/
def skipRange : Nat → Nat → List Token → Option (List Token)
  | 0, _, _ => none
  | fuel + 1, colons, ts =>
    match ts, colons with
    | .mark ':' :: rest, colons + 1 =>
      match rest with
      | .mark ':' :: _ | .mark ',' :: _ | .mark ']' :: _ => skipRange fuel colons rest
      | _ => do skipRange fuel colons (← skipExpr fuel rest).rest
    | ts, _ => some ts

/-- Skips the clauses of an item that stands for many. -/
def skipClauses : Nat → List Token → Option (List Token)
  | 0, _ => none
  | fuel + 1, .word "for" :: rest => do
    let rest ← skipWord "in" (← skipTargets fuel rest)
    skipConditions fuel (← skipOperands fuel true rest).rest
  | _ + 1, ts => some ts

/-- Skips the conditions behind a clause, and the clauses behind them. -/
def skipConditions : Nat → List Token → Option (List Token)
  | 0, _ => none
  | fuel + 1, .word "if" :: rest => do skipConditions fuel (← skipOperands fuel true rest).rest
  | fuel + 1, ts => skipClauses fuel ts

/-- Skips what a value can be assigned to, with commas between. -/
def skipTargets : Nat → List Token → Option (List Token)
  | 0, _ => none
  | fuel + 1, ts => do
    let behind := skipMark '*' ts
    let target ← skipPrimary fuel (behind.getD ts)
    if target.shape = .value then none
    else
      match skipMark ',' target.rest with
      | some rest => return (skipTargets fuel rest).getD rest
      | none => if behind.isSome then none else return target.rest

/-- Skips parameters and the mark that closes them. -/
def skipParameters : Nat → Char → List Token → Option (List Parameter × List Token)
  | 0, _, _ => none
  | fuel + 1, close, ts =>
    match skipMark close ts with
    | some rest => some ([], rest)
    | none => do
      let (parameter, rest) ← skipParameter fuel close ts
      match skipMark ',' rest with
      | some rest =>
        let (more, rest) ← skipParameters fuel close rest
        return (parameter :: more, rest)
      | none => return ([parameter], ← skipMark close rest)

/-- Skips a parameter. -/
def skipParameter : Nat → Char → List Token → Option (Parameter × List Token)
  | 0, _, _ => none
  | fuel + 1, close, ts =>
    match ts with
    | .mark '/' :: rest => some (.slash, rest)
    | .mark '*' :: .name text :: rest => do
      return (.many (some text), ← skipTypeName fuel close rest)
    | .mark '*' :: rest => some (.many none, rest)
    | .sign "**" :: .name text :: rest => do return (.map text, ← skipTypeName fuel close rest)
    | .name text :: rest => do
      let rest ← skipTypeName fuel close rest
      match skipMark '=' rest with
      | some rest => return (.plain text true, (← skipExpr fuel rest).rest)
      | none => return (.plain text false, rest)
    | _ => none

/-- Skips the type of a parameter, if it may have one. -/
def skipTypeName : Nat → Char → List Token → Option (List Token)
  | 0, _, _ => none
  | fuel + 1, close, ts =>
    match skipMark ':' ts with
    | some rest => if close = ')' then do return (← skipExpr fuel rest).rest else some ts
    | none => some ts

end

/-- The fuel for tokens. -/
def fuelFor (ts : List Token) : Nat := 4 * ts.length + 8

/-- Skips an expression. -/
def skipOne (ts : List Token) : Option Skipped := skipExpr (fuelFor ts) ts

/-- Skips an expression or one that stands for many. -/
def skipEntry (ts : List Token) : Option (Item × List Token) :=
  match skipMark '*' ts with
  | some rest =>
    (skipOperands (fuelFor rest) false rest).map fun found => (.starred found.shape, found.rest)
  | none => (skipOne ts).map fun found => (.value found.shape, found.rest)

/-- Skips expressions with commas between, and tells whether there was a comma. The fuel bounds
their number. -/
def skipEntries : Nat → List Token → Option (List Item × Bool × List Token)
  | 0, _ => none
  | fuel + 1, ts => do
    let (item, rest) ← skipEntry ts
    match skipMark ',' rest with
    | none => return ([item], false, rest)
    | some rest =>
      match skipEntries fuel rest with
      | some (more, _, rest) => return (item :: more, true, rest)
      | none => return ([item], true, rest)

/-- Skips expressions with commas between. One that stands for many does not stand by itself. -/
def skipValues (ts : List Token) : Option Skipped := do
  let (items, hasComma, rest) ← skipEntries ts.length ts
  match items, hasComma with
  | [.starred _], false => none
  | _, _ => return ⟨rest, shapeOf items hasComma⟩

/-! ## Statements -/

/-- Where a statement may stand: some only in the body of a function, of a loop, or of none. -/
inductive Place
  | anywhere
  | function
  | loop
  | outermost
deriving DecidableEq

/-- Skips a name with points in it. -/
def skipPath : List Token → Option (List Token)
  | .name _ :: .mark '.' :: ts => skipPath ts
  | .name _ :: ts => some ts
  | _ => none

/-- Skips a name that can be given a value. -/
def skipName : List Token → Option (List Token)
  | .name text :: ts => if isBindable text then some ts else none
  | _ => none

/-- Skips another name for what is imported. -/
def skipAlias (ts : List Token) : Option (List Token) :=
  match skipWord "as" ts with
  | some rest => skipName rest
  | none => some ts

/-- Skips things with commas between, each by a function. The fuel bounds their number. -/
def skipAll (skip : List Token → Option (List Token)) : Nat → List Token → Option (List Token)
  | 0, _ => none
  | fuel + 1, ts => do
    let rest ← skip ts
    match skipMark ',' rest with
    | some rest => skipAll skip fuel rest
    | none => return rest

/-- Skips the points in front of a module's name. -/
def skipPoints : List Token → List Token
  | .mark '.' :: ts | .sign "..." :: ts => skipPoints ts
  | ts => ts

/-- The place of an import of what stands behind a module's name. -/
def takenPlace? (ts : List Token) : Option Place :=
  let one (ts : List Token) : Option (List Token) := (skipName ts).bind skipAlias
  match ts with
  | [.mark '*'] => some .outermost
  | .mark '(' :: rest => do
    let rest ← skipAll one rest.length rest
    match (skipMark ',' rest).getD rest with
    | [.mark ')'] => return .anywhere
    | _ => none
  | _ =>
    match skipAll one ts.length ts with
    | some [] => some .anywhere
    | _ => none

/-- Skips values that are assigned, one target after the other. The fuel bounds the targets. -/
def skipAssigned : Nat → Skipped → Option (List Token)
  | 0, _ => none
  | fuel + 1, found =>
    match skipMark '=' found.rest with
    | some rest =>
      if found.shape = .value then none else do skipAssigned fuel (← skipValues rest)
    | none => some found.rest

/-- Skips an expression whose value is used or assigned. -/
def skipAssignment (ts : List Token) : Option (List Token) := do
  let found ← skipValues ts
  match found.rest with
  | .sign text :: rest =>
    if changingSigns.contains text && [Shape.name, .place].contains found.shape then
      return (← skipValues rest).rest
    else none
  | .mark ':' :: rest =>
    if [Shape.name, .place].contains found.shape then
      let found ← skipOne rest
      match skipMark '=' found.rest with
      | some rest => return (← skipValues rest).rest
      | none => return found.rest
    else none
  | _ => skipAssigned ts.length found

/-- Skips a statement of one line, and tells where it may stand. None may change the names around a
function: those of the script are no such names. -/
def skipStatement : List Token → Option (List Token × Place)
  | .word "pass" :: rest => some (rest, .anywhere)
  | .word "break" :: rest | .word "continue" :: rest => some (rest, .loop)
  | .word "yield" :: .word "from" :: rest => do return ((← skipOne rest).rest, .function)
  | .word "return" :: rest | .word "yield" :: rest =>
    some (((skipValues rest).map Skipped.rest).getD rest, .function)
  | .word "raise" :: rest =>
    match skipOne rest with
    | none => some (rest, .anywhere)
    | some cause =>
      match skipWord "from" cause.rest with
      | none => some (cause.rest, .anywhere)
      | some rest => (skipOne rest).map fun found => (found.rest, .anywhere)
  | .word "assert" :: rest => do
    let condition ← skipOne rest
    match skipMark ',' condition.rest with
    | none => return (condition.rest, .anywhere)
    | some rest => return ((← skipOne rest).rest, .anywhere)
  | .word "del" :: rest => do return (← skipTargets (fuelFor rest) rest, .anywhere)
  | .word "global" :: rest => do return (← skipAll skipName rest.length rest, .anywhere)
  | .word "import" :: rest => do
    return (← skipAll (fun ts => (skipPath ts).bind skipAlias) rest.length rest, .anywhere)
  | .word "from" :: .name "__future__" :: _ => none
  | .word "from" :: rest => do
    let behind := skipPoints rest
    let taken ← skipWord "import" ((skipPath behind).getD behind)
    if taken.length + 1 < rest.length then return ([], ← takenPlace? taken) else none
  | ts => do return (← skipAssignment ts, .anywhere)

/-- The place of a statement of one line; none if it is not well formed. -/
def place? (ts : List Token) : Option Place :=
  match skipStatement ts with
  | some ([], place) => some place
  | _ => none

/-! ## Heads of blocks -/

/-- Skips something with another name for it. -/
def skipHeld (ts : List Token) : Option (List Token) := do
  let found ← skipOne ts
  match skipWord "as" found.rest with
  | none => return found.rest
  | some rest =>
    let target ← skipPrimary (fuelFor rest) rest
    if target.shape = .value then none else return target.rest

/-- Skips the parameters of a function and the type of what it gives. -/
def skipSignature (ts : List Token) : Option (List Token) := do
  let (parameters, rest) ← skipParameters (fuelFor ts) ')' (← skipMark '(' ts)
  if areParameters parameters then
    match rest with
    | .sign "->" :: rest => return (← skipOne rest).rest
    | _ => return rest
  else none

/-- Skips the head of a block up to its colon, by the word it begins with. -/
def skipHead (word : String) (ts : List Token) : Option (List Token) :=
  if ["else", "try", "finally"].contains word then some ts
  else if ["if", "elif", "while"].contains word then (skipOne ts).map Skipped.rest
  else if word = "for" then do
    return (← skipValues (← skipWord "in" (← skipTargets (fuelFor ts) ts))).rest
  else if word = "except" then
    match skipOne ts with
    | some found => skipAlias found.rest
    | none => some ts
  else if word = "with" then skipAll skipHeld ts.length ts
  else if word = "class" then do
    let rest ← skipName ts
    match skipMark '(' rest with
    | some rest => return (← skipBracket (fuelFor rest) .call rest).rest
    | none => return rest
  else none

/-- The words that blocks begin with. -/
def blockWords : List String := [
  "if", "elif", "else", "while", "for", "try", "except", "finally", "with", "class"]

/-- The word that a block begins with, and what follows its colon. -/
def blockHead? : List Token → Option (String × List Token)
  | .word word :: rest =>
    if blockWords.contains word then do return (word, ← skipMark ':' (← skipHead word rest))
    else none
  | _ => none

/-- The name of a function, and what follows the colon of its head. -/
def functionHead? : List Token → Option (String × List Token)
  | .word "async" :: .word "def" :: .name name :: ts | .word "def" :: .name name :: ts => do
    let body ← skipMark ':' (← skipSignature ts)
    if isBindable name then return (name, body) else none
  | _ => none

end SheetCompiler.Script
