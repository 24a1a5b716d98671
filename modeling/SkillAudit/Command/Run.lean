import SkillAudit.Command.Parse
import SkillAudit.Report.Render
/-!
# SkillAudit.Command.Run

Running commands on a file tree: what a command prints, what it writes, and how it ends.
-/

namespace SkillAudit

variable {α : Type} [Quantity α]

/-- Why a command cannot be run. -/
inductive CommandError (α : Type) where
  /-- The file of settings that is asked for cannot be used. -/
  | badConfig (path : String) (error : ConfigError α)
  /-- A file cannot be written. -/
  | unwritable (path : String)
  /-- A file is there already. -/
  | present (path : String)

/-- The error in words. -/
def CommandError.message : CommandError α → String
  | badConfig path e => s!"Invalid config {path}: {e.message}"
  | unwritable path => s!"Failed to write {path}"
  | present path => s!"{path} already exists (use --force to overwrite)"

/-- What a command leaves behind. -/
structure Outcome where
  verdict : Verdict
  /-- What it prints. -/
  printed : String
  /-- What it says about what it did. -/
  notice : String
  /-- The file it writes, if it writes one. -/
  written : Option (String × String)

namespace Outcome

/-- A command that only prints. -/
def printing (verdict : Verdict) (text : String) : Outcome := ⟨verdict, text, "", none⟩

end Outcome

namespace Command

/-- The settings that a command line asks for, if it does. -/
def explicitConfig (top : FileTree) (path : Option String) :
    Except (CommandError α) (Option (Config α)) :=
  match path with
  | none => .ok none
  | some path =>
    match Config.load top path with
    | .ok c => .ok (some c)
    | .error e => .error (.badConfig path e)

/-- The file that a report goes to: in a folder one of its own name. -/
def outputPath (top : FileTree) (path : String) (format : ReportFormat) (stem : String) : String :=
  if top.hasFolder path then FileTree.join path s!"{stem}-report.{format.extension}" else path

/-- Says that something was done to a file. -/
def notice (colours : Bool) (what path : String) : String :=
  (Paint.of .green).apply colours "✓" ++ " " ++ what ++ " " ++
    (Paint.of .cyan).apply colours path ++ "\n"

/-- Writes a file and says so. -/
def writing (top : FileTree) (path text : String) (outcome : Outcome) :
    Except (CommandError α) Outcome :=
  match top.write? path (Utf8.encode text) with
  | some _ => .ok { outcome with written := some (path, text) }
  | none => .error (.unwritable path)

/-! ## Validating -/

/-- The requests of a command line. -/
def requests (config : Option (Config α)) (paths : List String) (a : Arguments) :
    List (Request α) :=
  let overrides : Overrides α := ⟨a.volume, a.failUnder.bind Quantity.ofNumeral?, a.priorities⟩
  paths.map fun path => ⟨path, config, overrides⟩

/-- The report on the responses to a command line, with the stem of its file. -/
def renderAll (colours : Bool) (format : ReportFormat) : List (Response α) → String × String
  | [r] =>
    let stem := match r with
      | .ok report => report.packageName
      | .error _ => "skillcheck"
    (format.response colours r, stem)
  | rs => (format.batch colours rs, "skillcheck")

/-- Validates packages. -/
def runValidate (top : FileTree) (colours : Bool) (paths : List String) (a : Arguments) :
    Except (CommandError α) Outcome := do
  let config : Option (Config α) ← explicitConfig top a.config
  let responses := Request.runAll top (requests config paths a)
  let (text, stem) := renderAll colours a.format responses
  let verdict := Response.verdictOfAll responses
  match a.output with
  | none => return .printing verdict text
  | some output =>
    let path := outputPath top output a.format stem
    writing top path text ⟨verdict, "", notice colours "Report written to" path, none⟩

/-! ## Tokens and security alone -/

/-- The package at a path with its settings, unless it cannot be read. -/
def loadFor (top : FileTree) (path : String) (a : Arguments) :
    Except (CommandError α) (Except LoadError (Package × Config α)) := do
  let explicit : Option (Config α) ← explicitConfig top a.config
  let config := explicit.getD (Config.discover top path)
  return (Package.load top path config.budget.priorities).map fun p => (p, config)

/-- The answer to a package that cannot be read. -/
def refusal (colours : Bool) (a : Arguments) (e : LoadError) : Outcome :=
  .printing .invalid (a.format.response colours (.error (.load e) : Response α))

/-- The tokens of a package, at the volume that is asked for. -/
def tokensAt (volume : Option Nat) (p : Package) (config : Config α) : TokenReport α :=
  .ofPackage p { config.tokens with monthlyVolume := volume.getD config.tokens.monthlyVolume }

/-- Tells the tokens of a package. -/
def runTokens (top : FileTree) (colours : Bool) (path : String) (a : Arguments) :
    Except (CommandError α) Outcome := do
  let loaded : Except LoadError (Package × Config α) ← loadFor top path a
  match loaded with
  | .error e => return refusal (α := α) colours a e
  | .ok (p, config) =>
    return .printing .passed (a.format.tokens colours p.name (tokensAt a.volume p config))

/-- The findings of at least some severity, in the order of reports. -/
def atLeast (severity : Option Severity) (findings : List Finding) : List Finding :=
  Finding.sort (match severity with
    | some s => findings.filter fun f => s.rank ≤ f.severity.rank
    | none => findings)

/-- How a scan ends that shows some findings. -/
def scanVerdict (shown : List Finding) : Verdict :=
  if (Summary.of shown).hasBlocking then .failed else .passed

/-- Tells the security findings of a package. -/
def runScan (top : FileTree) (colours : Bool) (path : String) (a : Arguments) :
    Except (CommandError α) Outcome := do
  let loaded : Except LoadError (Package × Config α) ← loadFor top path a
  match loaded with
  | .error e => return refusal (α := α) colours a e
  | .ok (p, config) =>
    let shown := atLeast a.severity (SecurityReport.ofPackage p config.security).findings
    return .printing (scanVerdict shown) (a.format.findings colours p.name shown)

/-! ## Settings -/

/-- Prints the default settings, or writes them to a file. -/
def runInit (top : FileTree) (colours : Bool) (output : Option String) (force : Bool) :
    Except (CommandError α) Outcome :=
  match output with
  | none => .ok (.printing .passed defaultToml)
  | some path =>
    if (top.lookup? path).isSome && !force then .error (.present path)
    else
      let hint := "  Place it next to SKILL.md; every key is optional.\n"
      writing top path defaultToml ⟨.passed, "", notice colours "Created" path ++ hint, none⟩

/-! ## Commands -/

/-- Runs a command. -/
def run (top : FileTree) (colours : Bool) : Command → Except (CommandError α) Outcome
  | validate paths a => runValidate top colours paths a
  | tokens path a => runTokens top colours path a
  | scan path a => runScan top colours path a
  | init output force => runInit top colours output force

end Command

end SkillAudit
