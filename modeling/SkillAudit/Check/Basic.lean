import SkillAudit.Config.Basic
import SkillAudit.Package.Basic
/-!
# SkillAudit.Check.Basic

Checks: rules about a package as a whole. A check makes remarks, and every remark becomes a finding
under the name and the category of its check.
-/

namespace SkillAudit

/-- What a check has to say about a file. -/
structure Remark where
  severity : Severity
  message : String
  file : String
  line : Option Nat
  suggestion : String
deriving DecidableEq, Repr

/-- A rule about packages. -/
structure Check (α : Type) where
  /-- The name, which is also the rule of its findings. -/
  name : String
  /-- What it finds, in words. -/
  description : String
  category : Category
  run : Package → Config α → List Remark

namespace Check

variable {α : Type}

/-- The finding of a remark. -/
def finding (c : Check α) (r : Remark) : Finding where
  rule := c.name
  category := c.category
  severity := r.severity
  message := r.message
  location := some ⟨r.file, r.line⟩
  suggestion := some r.suggestion

/-- The findings of a check. -/
def findings (c : Check α) (p : Package) (config : Config α) : List Finding :=
  (c.run p config).map c.finding

/-- The findings of several checks, in their order. -/
def findingsOf (checks : List (Check α)) (p : Package) (config : Config α) : List Finding :=
  checks.flatMap fun c => c.findings p config

end Check

namespace Package

/-- How many lines the body has. -/
def bodyLineCount (p : Package) : Nat := p.bodyLines.length

/-- A remark about the manifest as a whole. -/
def remark (p : Package) (severity : Severity) (message suggestion : String) : Remark :=
  ⟨severity, message, p.manifestPath, none, suggestion⟩

/-- A remark about the value of a key of the front matter. -/
def remarkOn (p : Package) (key : String) (severity : Severity) (message suggestion : String) :
    Remark :=
  ⟨severity, message, p.manifestPath, p.frontMatter.lineOf? key, suggestion⟩

end Package

end SkillAudit
