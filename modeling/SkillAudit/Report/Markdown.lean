import SkillAudit.Report.Paint
import SkillAudit.Validation
/-!
# SkillAudit.Report.Markdown

Reports in markdown, for pages and comments.
-/

namespace SkillAudit.MarkdownReport

open Quantity (ofNat fraction)

variable {α : Type} [Quantity α]

/-! ## Scores -/

/-- The sign of a grade. -/
def gradeSign : Grade → String
  | .a => "🏆"
  | .b => "⭐"
  | .c => "⚠️"
  | .d => "❌"
  | .f => "💀"

/-- The heading of a report. -/
def header (r : Report α) : String :=
  let total := Quantity.fixed 2 r.score.total
  let verdict := if r.score.passed then "Passed" else "Failed"
  s!"# {gradeSign r.score.grade} {r.packageName}\n\n" ++
    s!"**Grade: {r.score.grade.name}** | **Score: {total}/100** | **{verdict}**\n"

/-- What is said about the share of the points that an area earns. -/
def judgement (earned possible : α) : String :=
  let share := if Quantity.lt (ofNat 0) possible then earned / possible else ofNat 1
  if Quantity.le (fraction 8 1) share then "✅ Good"
  else if Quantity.le (fraction 6 1) share then "⚠️ Fair"
  else "❌ Poor"

/-- The row of an area. -/
def areaRow (s : AreaScore α) : String :=
  let earned := Quantity.fixed 2 s.earned
  let possible := Quantity.fixed 0 s.possible
  let judged := judgement s.earned s.possible
  s!"| {capitalized s.area.name} | {earned} | {possible} | {judged} |\n"

/-- The table of the areas. -/
def areas (score : Quality α) : String :=
  "## Category Scores\n\n| Category | Earned | Possible | Status |\n" ++
    "|----------|--------|----------|--------|\n" ++
    String.join ((Area.all.filterMap score.area?).map areaRow)

/-! ## Tokens -/

/-- The row of a use. -/
def costRow (name : String) (tokens : Nat) (c : Cost α) : String :=
  let monthly := Quantity.fixed 2 c.monthly
  s!"| {name} | {tokens} | ${monthly} |\n"

/-- The table of the uses. -/
def scenarios (t : TokenReport α) : String :=
  "## Token Budget\n\n| Scenario | Tokens | Monthly cost |\n" ++
    "|----------|--------|--------------|\n" ++
    costRow "Idle" t.scenarios.idle t.costs.idle ++
    costRow "Typical" t.scenarios.typical t.costs.typical ++
    costRow "With reference" t.scenarios.withReference t.costs.withReference ++
    costRow "Worst" t.scenarios.worst t.costs.worst

/-- The tokens of a package. -/
def tokens (packageName : String) (t : TokenReport α) : String :=
  s!"# Token estimate: {packageName}\n\n" ++
    s!"| Tier | Tokens |\n|------|--------|\n| Metadata | {t.metadata} |\n" ++
    s!"| Body | {t.body} |\n| References | {t.referencesTotal} |\n\n" ++ scenarios t ++
    if t.recommendations.isEmpty then ""
    else
      "\n## Recommendations\n\n" ++ String.join (t.recommendations.map fun r => "- " ++ r ++ "\n")

/-! ## Findings -/

/-- The sign of a severity. -/
def severitySign : Severity → String
  | .critical => "🔴"
  | .high => "🟠"
  | .medium => "🟡"
  | .low => "🔵"
  | .info => "ℹ️"

/-- The table of the severities. -/
def summary (s : Summary) : String :=
  let row (severity : Severity) (count : Nat) : String :=
    s!"| {capitalized severity.name} | {count} | {severitySign severity} |\n"
  "## Findings Summary\n\n| Severity | Count | Emoji |\n|----------|-------|-------|\n" ++
    row .critical s.critical ++ row .high s.high ++ row .medium s.medium ++ row .low s.low ++
    row .info s.info ++ s!"| **Total** | **{s.total}** | |\n"

/-- Where a finding is. -/
def place (f : Finding) : String :=
  match f.location with
  | none => ""
  | some ⟨file, none⟩ => s!" in `{file}`"
  | some ⟨file, some line⟩ => s!" at `{file}:{line}`"

/-- The item of a finding. -/
def item (f : Finding) : String :=
  s!"- **{f.message}** `{f.rule}`" ++ place f ++ "\n" ++
    match f.suggestion with
    | some s => s!"  > 💡 {s}\n"
    | none => ""

/-- How many findings of a severity are listed. -/
def maxListed : Nat := 10

/-- The findings of a severity. -/
def section? (findings : List Finding) (severity : Severity) : Option String :=
  match findings.filter fun f => f.severity = severity with
  | [] => none
  | group =>
    let hidden := group.length - maxListed
    some (
      s!"### {severitySign severity} {capitalized severity.name} Findings ({group.length})\n\n" ++
        String.join ((group.take maxListed).map item) ++
        if 0 < hidden then s!"*...and {hidden} more {severity.name} findings*\n\n" else "")

/-- The findings by severity. -/
def details (findings : List Finding) : String :=
  "## Detailed Findings\n\n" ++
    if findings.isEmpty then "✅ No issues found.\n"
    else String.join (Severity.descending.filterMap (section? findings))

/-- The findings of a security scan. -/
def findings (packageName : String) (fs : List Finding) : String :=
  s!"# Security scan: {packageName}\n\n" ++ summary (Summary.of fs) ++ "\n" ++ details fs

/-! ## Responses -/

/-- A report. -/
def report (r : Report α) : String :=
  String.intercalate "\n"
    [header r, areas r.score, scenarios r.tokens, summary r.summary, details r.findings]

/-- The response to a validation. -/
def response (r : Response α) : String :=
  match r with
  | .ok r => report r
  | .error e => s!"# ❌ Validation failed\n\n**{e.kind}**: {e.message}\n"

/-- The responses to several validations. -/
def batch (rs : List (Response α)) : String :=
  String.intercalate "\n---\n\n" (rs.map response)

end SkillAudit.MarkdownReport
