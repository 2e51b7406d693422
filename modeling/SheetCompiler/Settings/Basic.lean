import SheetCompiler.Json.Literal
import SheetCompiler.Path

/-!
# Settings

Where generated scripts, data files, the manifest and the templates lie. Scripts lie in one
directory for each kind of table, data files side by side in another directory.
-/

namespace SheetCompiler

open SheetCompiler.Text

/-- The places of the files of a project. A place is the text of a path; settings may hold another
value in its stead, and what asks for that place fails. Without a directory of templates the shipped
ones are used. -/
structure Settings where
  scripts : Json
  data : Json
  manifest : Json
  templates : Option Json

namespace Settings

/-- The name of the manifest's file in the directory of scripts. -/
def manifestName : String := "ParseResult.json"

/-- The settings of two directories, with the manifest among the scripts. -/
def ofDirectories (scripts data : String) : Settings :=
  ⟨.text scripts, .text data, .text (Path.join scripts manifestName), none⟩

/-- The place of the script of a table, in the directory of its kind. -/
def scriptPath? (s : Settings) (kind table : String) : Option String :=
  s.scripts.text?.map fun directory => Path.join (Path.join directory kind) (table ++ ".py")

/-- The place of the data file of a table. -/
def dataPath? (s : Settings) (table : String) : Option String :=
  s.data.text?.map fun directory => Path.join directory (table ++ ".json")

/-- How settings read in a message. -/
def display (s : Settings) : String :=
  "Settings(dist_dir=" ++ s.scripts.literal ++ ", data_dir=" ++ s.data.literal ++ ", manifest_path="
    ++ s.manifest.literal ++ ")"

end Settings

end SheetCompiler
