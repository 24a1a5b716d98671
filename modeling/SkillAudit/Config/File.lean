import SkillAudit.Config.Json
import SkillAudit.Config.Prepare
import SkillAudit.Config.Toml
import SkillAudit.FileTree
import SkillAudit.Text.Utf8
/-!
# SkillAudit.Config.File

Files of settings. A file is JSON if its extension says so and TOML otherwise. A package may hold
one of two files; the first that can be used is, and without any the defaults hold.
-/

namespace SkillAudit

variable {α : Type} [Quantity α]

namespace Config

/-- The files of settings that a package may hold, in the order in which they are tried. -/
def fileNames : List String := ["skillcheck.toml", ".skillcheckrc.json"]

/-- Whether a path is that of a JSON file: its last name ends in a dot and the word, in any case,
    behind something else. -/
def isJsonPath (path : String) : Bool :=
  match Text.cutLast? '.' (FilePath.fileName path).toList with
  | some (stem, extension) => !stem.isEmpty && extension.map Char.toLower == "json".toList
  | none => false

/-- Reads settings from the text of the file at a path. -/
def ofText (path text : String) : Except (ConfigError α) (Config α) :=
  if isJsonPath path then
    match (Json.ofText? text).bind fun v => (Setting.ofJson v).config? true with
    | some c => .ok c
    | none => .error (.invalidJson path)
  else
    match (Toml.Value.ofText? text).bind fun v => (Setting.ofToml? v).bind (·.config? false) with
    | some c => .ok c
    | none => .error (.invalidToml path)

/-- Reads and prepares the settings of the file at a path. -/
def load (top : FileTree) (path : String) : Except (ConfigError α) (Config α) :=
  match (top.read? path).bind Utf8.decode? with
  | none => .error (.unreadable path)
  | some text => do (← ofText path (String.ofList text)).prepare

/-- The settings that a package holds, or the defaults. -/
def discover (top : FileTree) (root : String) : Config α :=
  (fileNames.findSome? fun name => (load top (FileTree.join root name)).toOption).getD .default

end Config

end SkillAudit
