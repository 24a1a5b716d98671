import SkillAudit.Budget
import SkillAudit.Check.Catalog
import SkillAudit.Config.File
import SkillAudit.Package.Load
import SkillAudit.Reference.Graph
import SkillAudit.Score.Quality
import SkillAudit.Security.Scan
/-!
# SkillAudit.Validation

The validation of a package: it is read once, every analyzer looks at it on its own, and their
findings are put in order and scored together. Only reading it can fail, or its settings.
-/

namespace SkillAudit

variable {α : Type} [Quantity α]

/-! ## Analysis -/

/-- What the analyzers find in a package. -/
structure Analysis (α : Type) where
  references : ReferenceGraph
  tokens : TokenReport α
  security : SecurityReport
  budget : BudgetReport α
  /-- The findings of the checks. -/
  checks : List Finding
deriving DecidableEq, Repr

namespace Analysis

/-- Runs every analyzer on a package. -/
def of (config : Config α) (p : Package) : Analysis α where
  references := .ofPackage p config.references
  tokens := .ofPackage p config.tokens
  security := .ofPackage p config.security
  budget := .ofPackage p config.budget
  checks := Check.findingsOf Check.all p config

/-- All findings, analyzer by analyzer. -/
def findings (a : Analysis α) : List Finding :=
  a.references.findings ++ a.security.findings ++ a.budget.findings ++ a.checks

end Analysis

/-! ## Reports -/

/-- The result of a validation. -/
structure Report (α : Type) where
  packageName : String
  /-- The findings in the order of reports. -/
  findings : List Finding
  summary : Summary
  tokens : TokenReport α
  budget : List (BudgetResult α)
  references : ReferenceGraph
  score : Quality α
deriving DecidableEq, Repr

/-- How a run ends. -/
inductive Verdict where
  /-- Everything passes. -/
  | passed
  /-- Something does not. -/
  | failed
  /-- Something could not be examined. -/
  | invalid
deriving DecidableEq, Repr

namespace Verdict

/-- The code with which a program ends. -/
def exitCode : Verdict → Nat
  | passed => 0
  | failed => 1
  | invalid => 2

/-- The graver of two verdicts. -/
def worse (a b : Verdict) : Verdict := if a.exitCode < b.exitCode then b else a

end Verdict

namespace Report

/-- Reports on a package. -/
def of (config : Config α) (p : Package) : Report α :=
  let analysis := Analysis.of config p
  let findings := Finding.sort analysis.findings
  { packageName := p.name
    findings := findings
    summary := Summary.of findings
    tokens := analysis.tokens
    budget := analysis.budget.results
    references := analysis.references
    score := Quality.of config p findings }

/-- Whether the package passes. -/
def verdict (r : Report α) : Verdict := if r.score.passed then .passed else .failed

end Report

/-! ## Requests -/

/-- Why a package cannot be validated. -/
inductive ValidationError (α : Type) where
  | config (error : ConfigError α)
  | load (error : LoadError)
deriving DecidableEq, Repr

namespace ValidationError

/-- The kind of an error in responses. -/
def kind : ValidationError α → String
  | config _ => "ConfigError"
  | load e => e.kind

/-- The error in words. -/
def message : ValidationError α → String
  | config e => e.message
  | load e => e.message

end ValidationError

/-- A package to validate. -/
structure Request (α : Type) where
  root : String
  /-- The settings; without them those that the package holds are used. -/
  config : Option (Config α)
  overrides : Overrides α

/-- What a validation answers. -/
abbrev Response (α : Type) := Except (ValidationError α) (Report α)

namespace Request

/-- The settings of a validation. -/
def settings (top : FileTree) (r : Request α) : Except (ConfigError α) (Config α) :=
  (r.overrides.apply (r.config.getD (Config.discover top r.root))).prepare

/-- Validates a package. -/
def run (top : FileTree) (r : Request α) : Response α :=
  match r.settings top with
  | .error e => .error (.config e)
  | .ok config =>
    match Package.load top r.root config.budget.priorities with
    | .error e => .error (.load e)
    | .ok p => .ok (.of config p)

/-- Validates several packages. -/
def runAll (top : FileTree) (rs : List (Request α)) : List (Response α) := rs.map (·.run top)

end Request

namespace Response

/-- The report, if there is one. -/
def report? : Response α → Option (Report α)
  | .ok report => some report
  | .error _ => none

/-- How a validation ends. -/
def verdict : Response α → Verdict
  | .ok report => report.verdict
  | .error _ => .invalid

/-- How several validations end: as the gravest of them does. -/
def verdictOfAll (responses : List (Response α)) : Verdict :=
  responses.foldl (fun v r => v.worse (verdict r)) .passed

end Response

end SkillAudit
