import SheetCompiler.Pairs
import SheetCompiler.Text.Basic
import SheetCompiler.Text.Digit
import SheetCompiler.Text.Quoted

/-!
# Command-line grammars

A grammar names the options of a command and what stands in which place behind them. `Grammar.parse`
reads arguments from left to right: options may stand anywhere before a double dash, may be
abbreviated, and may carry their value behind an equals sign; everything else fills the places in
order. What fits nowhere is left over.
-/

namespace SheetCompiler.CommandLine

open SheetCompiler.Text

/-- An option: its names, whether it takes a value, and the values allowed if not every one is. -/
structure OptionSpec where
  names : List String
  takesValue : Bool
  choices : List String

/-- How many arguments fill a place. A `command` takes an argument and everything behind it. -/
inductive Arity
  | one
  | many
  | any
  | command
deriving DecidableEq

/-- A place: its name, how many arguments fill it, and the first arguments allowed if not every one
is. -/
structure Place where
  name : String
  arity : Arity
  choices : List String

/-- The options and places of a command. -/
structure Grammar where
  program : String
  options : List OptionSpec
  places : List Place

/-- Why a command line is not understood, with the program that says so. -/
structure UsageError where
  program : String
  message : String
deriving DecidableEq

/-- How an error is shown. -/
def UsageError.text (e : UsageError) : String := e.program ++ ": error: " ++ e.message

/-- Why reading ends early: an error, or a wish for help. -/
inductive Stop
  | usage (error : UsageError)
  | help

/-- What was read: the values of options by their first name, the arguments of places by name, and
what was left over. A double dash that stands for a value is taken away, so an option has one value
or none. -/
structure Reading where
  options : Pairs (List String)
  places : Pairs (List String)
  extras : List String

/-! ## Telling options from arguments -/

/-- An argument that looks like an option: the option it names, if there is one, and a value that it
carries. The value stands behind an equals sign or right behind a single letter. -/
structure OptionUse where
  spec : Option OptionSpec
  name : String
  value : Option String

/-- What an argument is. -/
inductive Kind
  | option (use : OptionUse)
  | argument
  | separator

/-- Splits an argument at its first equals sign. -/
def splitEquals (text : String) : String × Option String :=
  let name := text.toList.takeWhile (· ≠ '=')
  match text.toList.drop name.length with
  | _ :: value => (String.ofList name, some (String.ofList value))
  | [] => (text, none)

/-- Whether what stands behind a minus is a number: digits, or a point with digits behind it. -/
def isMagnitude (cs : List Char) : Bool :=
  match cs.dropWhile isDecimal with
  | [] => !cs.isEmpty
  | '.' :: part => !part.isEmpty && part.all isDecimal
  | _ => false

/-- Whether an argument is a negative number, with or without a line feed at its end. -/
def isNegativeNumber : List Char → Bool
  | '-' :: cs => isMagnitude (if cs.getLast? = some '\n' then cs.dropLast else cs)
  | _ => false

namespace Grammar

/-- The names of the options, each with its option. -/
def optionNames (g : Grammar) : List (String × OptionSpec) :=
  g.options.flatMap fun o => o.names.map fun name => (name, o)

/-- The option of a name. -/
def option? (g : Grammar) (name : String) : Option OptionSpec := g.optionNames.lookup name

/-- The options that an argument may abbreviate. One with two dashes is compared up to its equals
sign; one with a single dash may carry a value behind its letter. -/
def abbreviated (g : Grammar) (text : String) : List OptionUse :=
  let (name, value) := splitEquals text
  if startsWith "--" text then
    g.optionNames.filterMap fun (full, o) =>
      if startsWith name full then some ⟨some o, full, value⟩ else none
  else
    let letter := String.ofList (text.toList.take 2)
    g.optionNames.filterMap fun (full, o) =>
      if full = letter then some ⟨some o, full, some (String.ofList (text.toList.drop 2))⟩
      else if startsWith text full then some ⟨some o, full, none⟩
      else none

/-- Fails with a message of the program. -/
def fail {α : Type} (g : Grammar) (message : String) : Except Stop α :=
  .error (.usage ⟨g.program, message⟩)

/-- What an argument in front of a double dash is. -/
def kindOf (g : Grammar) (text : String) : Except Stop Kind :=
  if !startsWith "-" text then .ok .argument
  else
    match g.option? text with
    | some o => .ok (.option ⟨some o, text, none⟩)
    | none =>
      if text = "-" then .ok .argument
      else
        let (name, value) := splitEquals text
        match value.isSome, g.option? name with
        | true, some o => .ok (.option ⟨some o, name, value⟩)
        | _, _ =>
          match g.abbreviated text with
          | [use] => .ok (.option use)
          | [] =>
            -- no option is a number or has a blank in it
            if isNegativeNumber text.toList || text.toList.contains ' ' then .ok .argument
            else .ok (.option ⟨none, text, none⟩)
          | uses =>
            g.fail ("ambiguous option: " ++ text ++ " could match "
              ++ join ", " (uses.map OptionUse.name))

/-- The arguments with what they are; behind a double dash all are arguments. -/
def classify (g : Grammar) : List String → Except Stop (List (String × Kind))
  | [] => .ok []
  | text :: rest =>
    if text = "--" then
      .ok ((text, .separator) :: rest.map fun more => (more, .argument))
    else do
      let kind ← g.kindOf text
      return (text, kind) :: (← g.classify rest)

end Grammar

/-! ## Filling places -/

/-- Whether an argument is no option. -/
def Kind.isPlain : Kind → Bool
  | .option _ => false
  | _ => true

/-- Whether an argument is a double dash that separates. -/
def Kind.isSeparator : Kind → Bool
  | .separator => true
  | _ => false

/-- How many arguments fill a place, if enough are there. -/
def Arity.count? (arity : Arity) (args : List (String × Kind)) : Option Nat :=
  let lead := (args.takeWhile fun a => a.2.isSeparator).length
  let plain := (args.takeWhile fun a => a.2.isPlain).length
  match arity with
  | .any => some plain
  | .many => if lead < plain then some plain else none
  | .one =>
    if lead < plain then
      some (lead + 1 + ((args.drop (lead + 1)).takeWhile fun a => a.2.isSeparator).length)
    else none
  | .command => if lead < plain then some args.length else none

/-- The places that can be filled, one after the other, each with its number of arguments. -/
def fillable : List Place → List (String × Kind) → List (Place × Nat)
  | [], _ => []
  | place :: rest, args =>
    match place.arity.count? args with
    | some n => (place, n) :: fillable rest (args.drop n)
    | none => []

/-- The values of a place: its arguments without the double dash, which only a command keeps. -/
def Place.values (place : Place) (args : List String) : List String :=
  if place.arity = .command then args else args.erase "--"

/-- How a choice that is not allowed is answered. -/
def invalidChoice (name value : String) (choices : List String) : String :=
  "argument " ++ name ++ ": invalid choice: " ++ quoted value ++ " (choose from "
    ++ join ", " (choices.map quoted) ++ ")"

/-- How an option is called in messages. -/
def OptionSpec.label (o : OptionSpec) : String := join "/" o.names

namespace Grammar

/-- What is left to read, and what has been read. -/
structure Progress where
  args : List (String × Kind)
  places : List Place
  reading : Reading

/-- Fills places with arguments. -/
def fill (g : Grammar) : List (Place × Nat) → Progress → Except Stop Progress
  | [], p => .ok p
  | (place, n) :: rest, p =>
    let values := place.values ((p.args.take n).map Prod.fst)
    match place.choices.isEmpty, values.head? with
    | false, some first =>
      if place.choices.contains first then
        g.fill rest { p with
          args := p.args.drop n
          places := p.places.drop 1
          reading := { p.reading with places := p.reading.places ++ [(place.name, values)] } }
      else g.fail (invalidChoice place.name first place.choices)
    | _, _ =>
      g.fill rest { p with
        args := p.args.drop n
        places := p.places.drop 1
        reading := { p.reading with places := p.reading.places ++ [(place.name, values)] } }

/-- Takes the value of an option. A double dash is no value and is not held against the choices. -/
def takeValue (g : Grammar) (o : OptionSpec) (value : String) (p : Progress) :
    Except Stop Progress :=
  let values := [value].erase "--"
  if o.choices.isEmpty || values.all o.choices.contains then
    .ok { p with reading :=
      { p.reading with options := p.reading.options.put (o.names.headD "") values } }
  else g.fail (invalidChoice o.label value o.choices)

/-- Refuses a value that an option does not take. -/
def ignore (g : Grammar) (o : OptionSpec) (value : String) : Except Stop Progress :=
  g.fail ("argument " ++ o.label ++ ": ignored explicit argument " ++ quoted value)

/-- Refuses an option whose value is missing. -/
def expectOne (g : Grammar) (o : OptionSpec) : Except Stop Progress :=
  g.fail ("argument " ++ o.label ++ ": expected one argument")

/-- Takes the letters behind a letter that asks for help: each must be an option of its own, and the
last one may need the argument behind them. -/
def takeLetters (g : Grammar) (o : OptionSpec) (hasNext : Bool) :
    List Char → Except Stop Progress
  | [] => .error .help
  | c :: cs =>
    match g.option? (String.ofList ['-', c]) with
    | none => g.ignore o (String.ofList (c :: cs))
    | some other =>
      if other.takesValue then
        if cs.isEmpty && !hasNext then g.expectOne other else .error .help
      else g.takeLetters other hasNext cs

/-- Takes an option, with the argument behind it if it needs one. An option without a value asks
for help. -/
def takeOption (g : Grammar) (text : String) (use : OptionUse) (p : Progress) :
    Except Stop Progress :=
  match use.spec with
  | none => .ok { p with reading := { p.reading with extras := p.reading.extras ++ [text] } }
  | some o =>
    if o.takesValue then
      match use.value, p.args with
      | some value, _ => g.takeValue o value p
      | none, (value, .argument) :: rest => g.takeValue o value { p with args := rest }
      | none, _ => g.expectOne o
    else
      match use.value with
      | none => .error .help
      | some value =>
        if value = "" ∨ startsWith "--" use.name then g.ignore o value
        else
          let hasNext := match p.args with
            | (_, .argument) :: _ => true
            | _ => false
          g.takeLetters o hasNext value.toList

/-- Fills the places and takes the options up to the last option. The fuel bounds the steps. -/
def readOptions (g : Grammar) : Nat → Progress → Except Stop Progress
  | 0, p => .ok p
  | fuel + 1, p =>
    match p.args with
    | (text, .option use) :: rest => do
      g.readOptions fuel (← g.takeOption text use { p with args := rest })
    | [] => .ok p
    | _ =>
      -- what stands behind the last option is left for the places still open
      if p.args.all fun a => a.2.isPlain then .ok p
      else
        match fillable p.places p.args with
        | [] =>
          let plain := (p.args.takeWhile fun a => a.2.isPlain).map Prod.fst
          g.readOptions fuel { p with
            args := p.args.drop plain.length
            reading := { p.reading with extras := p.reading.extras ++ plain } }
        | places => do g.readOptions fuel (← g.fill places p)

/-- Reads arguments by a grammar. -/
def parse (g : Grammar) (args : List String) : Except Stop Reading := do
  let args ← g.classify args
  let p ← g.readOptions (2 * args.length + 1) ⟨args, g.places, ⟨[], [], []⟩⟩
  let p ← g.fill (fillable p.places p.args) p
  if p.places.isEmpty then
    return { p.reading with extras := p.reading.extras ++ p.args.map Prod.fst }
  else
    g.fail ("the following arguments are required: " ++ join ", " (p.places.map Place.name))

end Grammar

end SheetCompiler.CommandLine
