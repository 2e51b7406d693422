import SheetCompiler.Text.Basic

/-!
# Paths

Paths are texts whose components are separated by slashes. These functions look at the text alone;
what a path leads to is a matter of the file tree.
-/

namespace SheetCompiler.Path

open SheetCompiler.Text

/-- What stands behind the last slash. -/
def base (path : String) : String :=
  String.ofList (path.toList.reverse.takeWhile (· ≠ '/')).reverse

/-- The characters up to and with the last slash. -/
def beforeBase (cs : List Char) : List Char := (cs.reverse.dropWhile (· ≠ '/')).reverse

/-- The text without the slashes at its end, unless it is nothing but slashes. -/
def dropSlashes (cs : List Char) : List Char :=
  if cs.all (· = '/') then cs else (cs.reverse.dropWhile (· = '/')).reverse

/-- The directory of a path; empty for a single component. -/
def parent (path : String) : String := String.ofList (dropSlashes (beforeBase path.toList))

/-- The directory in which the file of a path lies. -/
def directory (path : String) : String := if parent path = "" then "." else parent path

/-- The stem and the extension of a file name. The extension begins at the last point; points at
the beginning of the name do not count. -/
def splitExtension (name : String) : String × String :=
  let reversed := name.toList.reverse
  match reversed.dropWhile (· ≠ '.') with
  | '.' :: before =>
    if before.all (· = '.') then (name, "")
    else
      (String.ofList before.reverse,
        String.ofList ('.' :: (reversed.takeWhile (· ≠ '.')).reverse))
  | _ => (name, "")

/-- One path below another; a path from the root stays itself. -/
def join (directory path : String) : String :=
  if startsWith "/" path then path
  else if directory = "" ∨ endsWith "/" directory then directory ++ path
  else directory ++ "/" ++ path

/-- The components of a path. -/
def components (path : String) : List String := (pieces '/' path).filter fun c => c ≠ ""

/-- The last component of a path, whatever slashes follow it. -/
def last (path : String) : String := base (String.ofList (dropSlashes path.toList))

/-- Whether a path can only be that of a directory. -/
def demandsDirectory (path : String) : Bool :=
  endsWith "/" path || endsWith "/." path || path = "."

/-- The paths of the directories above what follows: `read` is what stands before, in reverse. -/
def aboveFrom (read : List Char) : List Char → List (List Char)
  | [] => []
  | c :: cs =>
    let more := aboveFrom (c :: read) cs
    match c, read with
    | '/', d :: _ => if d ≠ '/' ∧ cs.any (· ≠ '/') then read.reverse :: more else more
    | _, _ => more

/-- The paths of the directories above a path, the outermost first. -/
def above (path : String) : List String := (aboveFrom [] path.toList).map String.ofList

/-- Adds a component to a path given by its components in reverse; one point leads nowhere and two
points lead back. -/
def stepLexically (done : List String) (c : String) : List String :=
  if c = "." then done
  else if c = ".." then
    match done with
    | [] => [".."]
    | d :: rest => if d = ".." then c :: done else rest
  else c :: done

/-- The path without empty components, points and steps back; empty for the working directory. -/
def lexical (path : String) : String :=
  Text.join "/" ((components path).foldl stepLexically []).reverse

end SheetCompiler.Path
