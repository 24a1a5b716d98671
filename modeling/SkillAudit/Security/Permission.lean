import SkillAudit.Package.Basic
import SkillAudit.Security.Rule
/-!
# SkillAudit.Security.Permission

The permissions that the front matter declares. A declaration is a list of entries, each a name
with or without a scope in parentheses; the entries of one text are separated by commas or white
space.
-/

namespace SkillAudit

namespace Permission

open Text

/-- The entries of a piece between commas: itself if it has a scope, else its words. -/
def entriesOfPiece (piece : List Char) : List (List Char) :=
  let piece := trim piece
  if piece.contains '(' then [piece] else words piece

/-- The entries of a declared text. -/
def entriesOf (text : String) : List String :=
  ((splitOn ',' text.toList).flatMap entriesOfPiece).map String.ofList

/-- Whether an entry permits too much: everything, everything of a kind, or a powerful tool without
    a scope. -/
def isBroad (entry : String) : Bool :=
  (entry.contains '*' && !entry.contains '(') ||
    String.ofList (lower entry.toList) == "all" ||
    ["Bash", "Write", "Bash(*)", "Write(*)"].contains entry

/-- The keys under which permissions are declared. -/
def keys : List String := ["allowed-tools", "allowed_tools", "tools", "permissions"]

/-- The finding about the broad entries of a key, if there are any. -/
def finding? (p : Package) (key : String) : Option Finding :=
  match ((p.frontMatter.textsAt [key]).flatMap entriesOf).filter isBroad with
  | [] => none
  | broad =>
    let rule := SecurityRule.broadPermission
    let granted := String.intercalate ", " broad
    some {
      rule := rule.id
      category := .security
      severity := rule.severity
      message := s!"{rule.title}: '{key}' grants {granted}"
      location := some ⟨p.manifestPath, p.frontMatter.lineOf? key⟩
      suggestion := some rule.suggestion }

/-- The findings about the permissions that a package declares. -/
def findings (p : Package) : List Finding := keys.filterMap (finding? p)

end Permission

end SkillAudit
