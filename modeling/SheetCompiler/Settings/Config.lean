import SheetCompiler.Json.Literal
import SheetCompiler.Path
import SheetCompiler.Settings.Basic
import SheetCompiler.Settings.Scalar
import SheetCompiler.Text.Lines

/-!
# Configuration files

A configuration file is a list of lines `key: value`, with comments and blank lines between them. A
value stands plain, between single quotes or between double quotes; a plain one may name nothing, a
truth value, a number or a date. Of a repeated key the last value counts. What a file does not say
is taken from the defaults.
-/

namespace SheetCompiler

open SheetCompiler.Text SheetCompiler.Number

/-- The values of a configuration by key, and the keys that are no texts. Nobody asks for the values
of the latter. -/
structure Config where
  values : Pairs Json
  others : List Json

namespace Config

/-! ## Quoted values -/

/-- Reads a text behind its opening single quote; a quote inside is written twice. -/
def readSingle : List Char → Option (List Char × List Char)
  | '\x27' :: '\x27' :: cs => (readSingle cs).map fun (text, rest) => ('\x27' :: text, rest)
  | '\x27' :: cs => some ([], cs)
  | c :: cs => (readSingle cs).map fun (text, rest) => (c :: text, rest)
  | [] => none

/-- The characters that single letters stand for behind a backslash. -/
def escapes : List (Char × Char) := [
  ('0', '\x00'), ('a', '\x07'), ('b', '\x08'), ('t', '\t'), ('n', '\n'), ('v', '\x0b'),
  ('f', '\x0c'), ('r', '\r'), ('e', '\x1b'), (' ', ' '), ('"', '"'), ('/', '/'), ('\\', '\\'),
  ('N', '\u0085'), ('_', '\u00a0'), ('L', '\u2028'), ('P', '\u2029')]

/-- How many hexadecimal digits follow a letter behind a backslash. -/
def escapeWidths : List (Char × Nat) := [('x', 2), ('u', 4), ('U', 8)]

/-- Reads a text behind its opening double quote. The fuel bounds its length. -/
def readDouble : Nat → List Char → Option (List Char × List Char)
  | 0, _ => none
  | _ + 1, [] => none
  | _ + 1, '"' :: cs => some ([], cs)
  | fuel + 1, '\\' :: c :: cs =>
    match escapes.lookup c, escapeWidths.lookup c with
    | some d, _ => (readDouble fuel cs).map fun (text, rest) => (d :: text, rest)
    | none, some width =>
      (readHex width cs).bind fun (n, cs) =>
        (readDouble fuel cs).map fun (text, rest) => (Char.ofNat n :: text, rest)
    | none, none => none
  | fuel + 1, c :: cs => (readDouble fuel cs).map fun (text, rest) => (c :: text, rest)

/-- Reads a text between quotes. -/
def readQuoted : List Char → Option (List Char × List Char)
  | '\x27' :: body => readSingle body
  | '"' :: body => readDouble body.length body
  | _ => none

/-! ## Lines -/

/-- Whether a character is a blank within a line. -/
def isSpace (c : Char) : Bool := decide (c = ' ') || decide (c = '\t')

/-- The text before a comment: a number sign at the beginning or behind a blank. -/
def dropComment : Bool → List Char → List Char
  | _, [] => []
  | behindBlank, c :: cs =>
    if c = '#' ∧ behindBlank then [] else c :: dropComment (isSpace c) cs

/-- A text without the blanks at its end. -/
def trimEnd (cs : List Char) : List Char := (cs.reverse.dropWhile isSpace).reverse

/-- What a text between two marks of a line stands for. -/
def valueOf (cs : List Char) : Except Failure Json :=
  let cs := cs.dropWhile isSpace
  match readQuoted cs with
  | some (body, _) => .ok (.text (String.ofList body))
  | none => Scalar.ofPlain (String.ofList (trimEnd (dropComment true cs)))

/-- Splits a line behind its key: at the first colon with a blank or nothing behind it. -/
def splitKey? : List Char → Option (List Char × List Char)
  | [] => none
  | [':'] => some ([], [])
  | ':' :: c :: cs =>
    if isSpace c then some ([], c :: cs)
    else (splitKey? (c :: cs)).map fun (key, rest) => (':' :: key, rest)
  | c :: cs => (splitKey? cs).map fun (key, rest) => (c :: key, rest)

/-- The text in front of the value of a line, and the value; a key between quotes may hold
colons. -/
def splitLine? (line : List Char) : Option (List Char × List Char) :=
  match readQuoted line with
  | some (body, rest) =>
    let quotedKey := line.take (line.length - rest.length)
    if body.length < line.length then
      (splitKey? rest).bind fun (between, value) =>
        if between.all isSpace then some (quotedKey, value) else none
    else none
  | none => splitKey? line

/-- Adds the key and the value of a line to a configuration. -/
def addLine (config : Config) (line : List Char) : Except Failure Config :=
  match splitLine? line with
  | none => .ok config
  | some (key, rest) => do
    let key ← valueOf key
    let value ← valueOf rest
    match key with
    | .text name => return { config with values := config.values.put name value }
    | key => return { config with others := config.others ++ [key] }

/-- Whether a line says something: it is neither blank nor a comment nor a mark between
documents. -/
def isContent (line : List Char) : Bool :=
  match line with
  | [] | '#' :: _ | ['-', '-', '-'] | ['.', '.', '.'] => false
  | _ => true

/-- The texts for values that hold nothing. -/
def emptyWords : List String := ["\x7b\x7d", "[]"]

/-- What a file says that is a single value. It must say nothing. -/
def ofSingle (line : List Char) : Except Failure Config := do
  match ← valueOf line with
  | .text text =>
    if text = "" ∨ emptyWords.contains text then return ⟨[], []⟩ else throw .entries
  | value => if value.isVoid then return ⟨[], []⟩ else throw .shape

/-- The mark that a file of texts may begin with. -/
def orderMark : Char := '\ufeff'

/-- The code points of the characters that a file may hold. -/
def permitted : Ranges := [
  (0x09, 0x0a), (0x20, 0x7e), (0x85, 0x85), (0xa0, 0xd7ff), (0xe000, 0xfffd), (0x10000, 0x10ffff)]

/-- The first character that a file may not hold, and how many stand in front of it. -/
def forbidden? (text : String) : Option (Char × Nat) :=
  (lineFeeds text.toList).zipIdx.find? fun (c, _) => !permitted.contains c.toNat

/-- The characters that end a line of a file besides the line ends of other texts. -/
def furtherEnds : List Char := ['\u0085', '\u2028', '\u2029']

/-- The lines that a line without quotes is made of. -/
def innerLines (line : List Char) : List (List Char) :=
  if line.contains '\x27' || line.contains '"' then [line]
  else splitOn '\n' (line.map fun c => if furtherEnds.contains c then '\n' else c)

/-- The lines of a file that say something, without the blanks in front of them. -/
def contents (text : String) : List (List Char) :=
  let cs := text.toList
  let cs := if cs.head? = some orderMark then cs.drop 1 else cs
  let found := (lines (String.ofList cs)).flatMap innerLines
  (found.map fun line => line.dropWhile isSpace).filter isContent

/-- The values that a file gives. -/
def ofText (text : String) : Except Failure Config :=
  let found := contents text
  match found with
  | [] => .ok ⟨[], []⟩
  | first :: _ =>
    if found.any fun line => (splitLine? line).isSome then found.foldlM addLine ⟨[], []⟩
    else ofSingle first

/-! ## Defaults and settings -/

/-- What holds where a file says nothing. -/
def defaults : Pairs Json := [
  ("dist_dir", .text "ExcelDatabase/Dist"), ("data_dir", .text "ExcelDatabase/Resources"),
  ("manifest_path", .null), ("template_dir", .null), ("log_level", .text "INFO")]

/-- The configuration of given values over the defaults. -/
def ofValues (values : Pairs Json) : Config := ⟨Pairs.putAll defaults values, []⟩

/-- A configuration over the defaults. -/
def overDefaults (config : Config) : Config :=
  { ofValues config.values with others := config.others }

/-- The value of a key; nothing if the configuration has no such key. -/
def value (config : Config) (key : String) : Json := (config.values.get? key).getD .null

/-- The values by key. They have an order if every key is a text, and dates cannot be shown. -/
def listing (config : Config) : Except Failure (Pairs Json) :=
  if config.others.isEmpty then .ok config.values else .error .shape

/-- The settings of a configuration. A manifest that is not named lies among the scripts, whose
directory must be named then. -/
def settings (config : Config) : Except Failure Settings :=
  let given (key : String) : Option Json :=
    if (config.value key).isVoid then none else some (config.value key)
  let manifest : Option Json := match given "manifest_path", (config.value "dist_dir").text? with
    | some path, _ => some path
    | none, some scripts => some (.text (Path.join scripts Settings.manifestName))
    | none, none => none
  match manifest with
  | some manifest =>
    .ok ⟨config.value "dist_dir", config.value "data_dir", manifest, given "template_dir"⟩
  | none => .error .shape

end Config

end SheetCompiler
