import SheetCompiler.CommandLine.Run
import SheetCompiler.FileTree.Bundle

/-!
# The program

Runs a command line on the files of a bundle in the working directory, prints what the command
prints and logs, and writes the bundle back.
-/

open SheetCompiler

/-- The name of the bundle. -/
def bundleName : String := "project.json"

/-- Prints what a run leaves behind and gives the code of the process. -/
def printReport (report : CommandLine.Report) : IO UInt32 := do
  for line in report.printed do IO.println line
  for line in report.logged do IO.eprintln line
  let complaints := (report.usage.map CommandLine.UsageError.text).toList
    ++ (report.failure.map Failure.message).toList
  for line in complaints do IO.eprintln line
  return ((report.code.map Nat.toUInt32).getD 1)

/-- Runs a command line on the bundle in the working directory. -/
def main (args : List String) : IO UInt32 := do
  let text ← (IO.FS.readFile bundleName).catchExceptions fun _ => return "\x7b\x7d"
  match FileTree.ofBundleText? text with
  | none =>
    IO.eprintln (bundleName ++ " is no bundle")
    return 1
  | some files =>
    let (report, project) := CommandLine.run readConfig args
      (.ofFiles (.ofDirectories "Dist" "Resources") files "Resources")
    IO.FS.writeFile bundleName project.files.toBundle.print
    printReport report
