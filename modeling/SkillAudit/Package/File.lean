import SkillAudit.PathMap
import SkillAudit.Text.Line
/-!
# SkillAudit.Package.File

The files of a package: what each is for, and how much it counts.
-/

namespace SkillAudit

/-- How much a file counts. -/
inductive Tier where
  | critical
  | important
  | optional
deriving DecidableEq, Repr, Inhabited

namespace Tier

/-- The name of a tier. -/
def name : Tier → String
  | critical => "critical"
  | important => "important"
  | optional => "optional"

/-- Every tier. -/
def all : List Tier := [critical, important, optional]

/-- The tier of a name written exactly. -/
def ofExactName? (s : String) : Option Tier := all.find? fun t => t.name == s

/-- Reads a name in any case, with white space around it; what is no name gives the message about
    it. -/
def ofName (text : String) : Except String Tier :=
  let word := String.ofList (Text.lower (Text.trim text.toList))
  match ofExactName? word with
  | some t => .ok t
  | none => .error s!"Unknown priority tier '{word}'. Valid: critical, important, optional"

end Tier

/-- The tiers given to files by path. -/
abbrev Priorities := PathMap Tier

namespace Priorities

/-- Gives a file a tier, in place of the one it has. -/
def insert (path : String) (tier : Tier) (p : Priorities) : Priorities := p.put path tier

/-- Gives several files their tiers, the later ones winning. -/
def insertAll (entries : List (String × Tier)) (p : Priorities) : Priorities := p.putAll entries

/-- The tier of a file. -/
def tier? (p : Priorities) (path : String) : Option Tier :=
  (p.find? fun e => e.1 == path).map (·.2)

end Priorities

/-- What a file is for, decided by where it is. -/
inductive Role where
  | manifest
  | script
  | reference
  | asset
deriving DecidableEq, Repr, Inhabited

namespace Role

/-- The name of a role. -/
def name : Role → String
  | manifest => "manifest"
  | script => "script"
  | reference => "reference"
  | asset => "asset"

/-- The role of the file at a path. -/
def ofPath (manifestPath path : String) : Role :=
  if path = manifestPath then manifest
  else if path.startsWith "scripts/" then script
  else if path.startsWith "references/" then reference
  else asset

/-- The tier of a file that is given none. -/
def tier : Role → Tier
  | manifest => .critical
  | reference => .important
  | script => .optional
  | asset => .optional

end Role

/-! ## Paths within a package -/

namespace FilePath

/-- The last name of a path. -/
def fileName (path : String) : String :=
  match Text.cutLast? '/' path.toList with
  | some (_, name) => String.ofList name
  | none => path

/-- The folder of a path, empty at the root of the package. -/
def folder (path : String) : String :=
  match Text.cutLast? '/' path.toList with
  | some (dir, _) => String.ofList dir
  | none => ""

/-- What follows the last dot of the last name; a name that starts with a dot has no extension. -/
def extension? (path : String) : Option String :=
  let name := (fileName path).toList
  if name.head? = some '.' then none
  else (Text.cutLast? '.' name).map fun p => String.ofList p.2

end FilePath

/-- A file of a package. -/
structure PackageFile where
  /-- The path within the package. -/
  path : String
  /-- Its length in bytes. -/
  size : Nat
  role : Role
  tier : Tier
  /-- None for a file that is no text. -/
  text : Option String
deriving Repr

namespace PackageFile

/-- How many lines it has; none when it is no text. -/
def lineCount (f : PackageFile) : Nat :=
  match f.text with
  | some t => (Text.lines t.toList).length
  | none => 0

end PackageFile

end SkillAudit
