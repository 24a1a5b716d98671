import SkillAudit.Report.Paint
import SkillAudit.Validation
/-!
# SkillAudit.Report.Text

Reports for a terminal, with colours or without.
-/

namespace SkillAudit.TextReport

open Quantity (ofNat fraction)

variable {α : Type} [Quantity α] (colours : Bool)

/-! ## Colours -/

/-- The colour of a grade. -/
def gradePaint : Grade → Paint
  | .a => .of .green
  | .b => .brightOf .green
  | .c => .of .yellow
  | .d => .brightOf .red
  | .f => .of .red

/-- The colour of a severity. -/
def severityPaint : Severity → Paint
  | .critical => .of .red
  | .high => .brightOf .red
  | .medium => .of .yellow
  | .low => .of .blue
  | .info => .faint

/-- The colour of a status. -/
def statusPaint : BudgetStatus → Paint
  | .violation => .of .red
  | _ => .of .yellow

/-- The mark of a severity in lists. -/
def severityMark : Severity → String
  | .critical => "[C]"
  | .high => "[H]"
  | .medium => "[M]"
  | .low => "[L]"
  | .info => "[I]"

/-- A heading of a section. -/
def heading (text : String) : String := Paint.heavy.apply colours text

/-- A remark of less weight. -/
def note (text : String) : String := Paint.faint.apply colours text

/-- The first lines of a report. -/
def title (text : String) : String :=
  "\n" ++ heading colours text ++ "\n" ++
    note colours (String.ofList (List.replicate 38 '─')) ++ "\n"

/-! ## Findings -/

/-- How many findings a report lists. -/
def maxListed : Nat := 25

/-- The end of a path that is too long to be shown. -/
def shortPath (path : String) : String :=
  if 30 < path.length then "..." ++ String.ofList (path.toList.drop (path.length - 27)) else path

/-- Where a finding is. -/
def place (f : Finding) : String :=
  match f.location with
  | none => ""
  | some ⟨file, none⟩ => shortPath file
  | some ⟨file, some line⟩ => s!"{shortPath file}:{line}"

/-- The part of a message that is shown. -/
def shortMessage (message : String) : String :=
  if 60 < message.length then String.ofList (message.toList.take 60) ++ "..." else message

/-- The line of a finding. -/
def findingLine (number : Nat) (f : Finding) : String :=
  "  " ++ note colours (padLeft 3 (toString number)) ++ "  " ++
    (severityPaint f.severity).apply colours (severityMark f.severity) ++ "  " ++
    padRight 63 (shortMessage f.message) ++ "  " ++ note colours (place f) ++ "\n"

/-- The numbers of the severities that occur, information aside. -/
def summaryParts (s : Summary) : List String :=
  [(Severity.critical, s.critical), (.high, s.high), (.medium, s.medium), (.low, s.low)].filterMap
    fun (severity, count) =>
      if 0 < count then
        some ((severityPaint severity).apply colours s!"{count} {severity.name}")
      else none

/-- The table of findings. -/
def findingsTable (findings : List Finding) (summary : Summary) : String :=
  let parts := summaryParts colours summary
  let listed := (findings.take maxListed).mapIdx fun i f => findingLine colours (i + 1) f
  let more := findings.length - maxListed
  heading colours "FINDINGS" ++ s!" ({summary.total} total)\n" ++
    (if parts.isEmpty then "" else "  " ++ String.intercalate " | " parts ++ "\n\n") ++
    String.join listed ++
    (if 0 < more then "\n  " ++ note colours s!"...and {more} more" ++ "\n" else "") ++ "\n"

/-- The findings of a security scan. -/
def findings (packageName : String) (fs : List Finding) : String :=
  title colours s!"skillcheck scan: {packageName}" ++ findingsTable colours fs (Summary.of fs) ++
    if fs.isEmpty then note colours "No security patterns matched." ++ "\n" else ""

/-! ## Scores -/

/-- The points of an area, coloured by their share. -/
def points (earned possible : α) : String :=
  let share := if Quantity.lt (ofNat 0) possible then earned / possible else ofNat 1
  let paint :=
    if Quantity.le (fraction 8 1) share then Paint.of .green
    else if Quantity.le (fraction 6 1) share then Paint.of .yellow
    else Paint.of .red
  paint.apply colours (Quantity.fixed 1 earned) ++ "/" ++ Quantity.fixed 0 possible

/-- The scores of the areas on one line. -/
def areaLine (score : Quality α) : String :=
  let parts := (Area.all.filterMap score.area?).map fun s =>
    capitalized s.area.name ++ ": " ++ points colours s.earned s.possible
  "  " ++ String.intercalate "  " parts ++ "\n"

/-- The line about the wording. -/
def voiceLine (v : Voice α) : String :=
  let percent := percent v.ratio
  "  " ++ note colours
    s!"Imperative voice: {v.imperative}/{v.sentences} sentences ({percent}%)" ++ "\n"

/-- The total with the grade and the verdict. -/
def scoreLine (score : Quality α) : String :=
  let verdict :=
    if score.passed then (Paint.of .green).withBold.apply colours "PASS"
    else (Paint.of .red).withBold.apply colours "FAIL"
  "Score: " ++ heading colours (Quantity.fixed 2 score.total ++ "/100") ++ "  Grade: " ++
    (gradePaint score.grade).withBold.apply colours score.grade.name ++ "  " ++ verdict ++ "\n"

/-- What is said under a report. -/
def tip : Grade → String
  | .a => "Excellent! This package is ready to ship."
  | .b => "Good shape. Address remaining findings for an A."
  | _ => "Run with --format json for every finding and suggestion."

/-! ## Tokens and budgets -/

/-- The tokens of a package in a report. -/
def tokenLines (t : TokenReport α) : String :=
  let cost := Quantity.fixed 2 t.costs.typical.monthly
  heading colours "TOKENS" ++ "\n" ++
    s!"  idle {t.scenarios.idle}  typical {t.scenarios.typical}  worst {t.scenarios.worst}" ++
    s!"  ({t.references.length} reference file(s))\n" ++
    "  " ++ note colours s!"~${cost}/month typical at {t.costs.monthlyVolume} uses" ++ "\n"

/-- The line of a file that does not keep to its budget. -/
def budgetLine (r : BudgetResult α) : String :=
  "  " ++ (statusPaint r.status).apply colours (padRight 9 r.status.name) ++ "  " ++
    padRight 40 r.file ++ s!"  {r.lines} lines, ~{r.tokens} tokens ({r.tier.name})\n"

/-- The files that do not keep to their budgets. -/
def budgetTable (results : List (BudgetResult α)) : String :=
  match results.filter fun r => r.status != .ok with
  | [] => ""
  | flagged =>
    heading colours "BUDGET" ++ "\n" ++ String.join (flagged.map (budgetLine colours)) ++ "\n"

/-! ## Responses -/

/-- A report. -/
def report (r : Report α) : String :=
  title colours s!"skillcheck: {r.packageName}" ++ scoreLine colours r.score ++ "\n" ++
    heading colours "SCORES" ++ "\n" ++ areaLine colours r.score ++
    voiceLine colours r.score.voice ++ "\n" ++ tokenLines colours r.tokens ++ "\n" ++
    budgetTable colours r.budget ++ findingsTable colours r.findings r.summary ++
    note colours (tip r.score.grade) ++ "\n"

/-- An error. -/
def error (e : ValidationError α) : String :=
  "\n" ++ (Paint.of .red).withBold.apply colours "error" ++ s!" {e.kind}: {e.message}\n"

/-- The response to a validation. -/
def response (r : Response α) : String :=
  match r with
  | .ok r => report colours r
  | .error e => error colours e

/-- How many of several validations passed and how many could not be made. -/
structure Tally where
  total : Nat
  passed : Nat
  errors : Nat
deriving DecidableEq, Repr

/-- Counts responses. -/
def Tally.of (rs : List (Response α)) : Tally where
  total := rs.length
  passed := rs.countP fun r => (Response.report? r).any (·.score.passed)
  errors := rs.countP fun r => (Response.report? r).isNone

/-- How many validations failed. -/
def Tally.failed (t : Tally) : Nat := t.total - t.passed - t.errors

/-- The line under the responses to several validations. -/
def tallyLine (t : Tally) : String :=
  "\n" ++ heading colours "BATCH" ++
    s!" {t.total} packages: {t.passed} passed, {t.failed} failed, " ++
    s!"{t.errors} could not be loaded\n"

/-- The responses to several validations. -/
def batch (rs : List (Response α)) : String :=
  String.join (rs.map (response colours)) ++ tallyLine colours (Tally.of rs)

/-! ## Tokens alone -/

/-- The line of a count in the table of tiers. -/
def tierLine (name : String) (count : Nat) : String :=
  "  " ++ padRight 12 name ++ padLeft 7 (toString count) ++ "\n"

/-- A row of the table of costs. -/
def costRow (cells : String × String × String × String × String) : String :=
  let (name, input, output, perUse, monthly) := cells
  "  " ++ padRight 15 name ++ " " ++ padLeft 7 input ++ " " ++ padLeft 10 output ++ " " ++
    padLeft 12 perUse ++ " " ++ padLeft 12 monthly ++ "\n"

/-- The row of a use. -/
def costLine (name : String) (c : Cost α) : String :=
  costRow (name, toString c.tokens, toString c.outputTokens, "$" ++ Quantity.fixed 6 c.perUse,
    "$" ++ Quantity.fixed 2 c.monthly)

/-- The tiers of a package. -/
def tiers (t : TokenReport α) : String :=
  heading colours "TIERS" ++ "\n" ++ tierLine "metadata" t.metadata ++ tierLine "body" t.body ++
    tierLine "references" t.referencesTotal ++
    String.join (t.references.map fun r =>
      "    " ++ padRight 38 r.1 ++ " " ++ padLeft 7 (toString r.2) ++ "\n") ++
    match t.scripts with
    | [] => ""
    | (_, output) :: _ =>
      let text := s!"{t.scripts.length} script(s), ~{output} output tokens each when run"
      "  " ++ note colours text ++ "\n"

/-- The costs of a package. -/
def costs (c : CostTable α) : String :=
  "\n" ++ heading colours "SCENARIOS" ++ s!" ({c.monthlyVolume} uses/month)\n" ++
    costRow ("scenario", "input", "output", "per use", "monthly") ++ costLine "idle" c.idle ++
    costLine "typical" c.typical ++ costLine "with reference" c.withReference ++
    costLine "worst" c.worst

/-- The tokens of a package. -/
def tokens (packageName : String) (t : TokenReport α) : String :=
  title colours s!"skillcheck tokens: {packageName}" ++ tiers colours t ++ costs colours t.costs ++
    (if t.recommendations.isEmpty then ""
    else "\n" ++ heading colours "RECOMMENDATIONS" ++ "\n" ++
      String.join (t.recommendations.map fun r => "  - " ++ r ++ "\n")) ++
    "\n" ++ note colours "Estimates use ~4 characters per token; treat them as approximate." ++ "\n"

end SkillAudit.TextReport
