import SkillAudit.Json.Printer
import SkillAudit.Validation
/-!
# SkillAudit.Report.Json

Reports as JSON. The names of the members are what other programs rely on.
-/

namespace SkillAudit

variable {α : Type} [Quantity α]

/-! ## Parts of reports -/

/-- A finding as JSON; a missing suggestion is left out. -/
def Finding.toJson (f : Finding) : Json :=
  .obj ([
    ("id", .str f.id),
    ("rule", .str f.rule),
    ("category", .str f.category.name),
    ("severity", .str f.severity.name),
    ("message", .str f.message),
    ("file", .ofOption .str f.file?),
    ("line", .ofOption .ofNat f.line?)] ++
    (f.suggestion.map fun s => ("suggestion", .str s)).toList)

/-- Findings as JSON. -/
def Finding.listToJson (findings : List Finding) : Json := .arr (findings.map (·.toJson))

/-- A summary as JSON. -/
def Summary.toJson (s : Summary) : Json :=
  .obj [
    ("critical", .ofNat s.critical),
    ("high", .ofNat s.high),
    ("medium", .ofNat s.medium),
    ("low", .ofNat s.low),
    ("info", .ofNat s.info),
    ("total", .ofNat s.total)]

/-- A cost as JSON. -/
def Cost.toJson (c : Cost α) : Json :=
  .obj [
    ("tokens", .ofNat c.tokens),
    ("output_tokens", .ofNat c.outputTokens),
    ("cost_per_use", .ofQuantity c.perUse),
    ("monthly_cost", .ofQuantity c.monthly)]

/-- A table of costs as JSON. -/
def CostTable.toJson (t : CostTable α) : Json :=
  .obj [
    ("monthly_volume", .ofNat t.monthlyVolume),
    ("idle", t.idle.toJson),
    ("typical", t.typical.toJson),
    ("with_reference", t.withReference.toJson),
    ("worst", t.worst.toJson)]

/-- Counts by path as JSON. -/
def countsToJson (counts : List (String × Nat)) : Json :=
  .obj (counts.map fun c => (c.1, .ofNat c.2))

/-- The tokens of a package as JSON. -/
def TokenReport.toJson (t : TokenReport α) : Json :=
  .obj [
    ("metadata", .ofNat t.metadata),
    ("body", .ofNat t.body),
    ("references", countsToJson t.references),
    ("references_total", .ofNat t.referencesTotal),
    ("scenarios", .obj [
      ("idle", .ofNat t.scenarios.idle),
      ("typical", .ofNat t.scenarios.typical),
      ("worst", .ofNat t.scenarios.worst)]),
    ("with_reference", .ofNat t.scenarios.withReference),
    ("costs", t.costs.toJson),
    ("scripts", countsToJson t.scripts),
    ("recommendations", .ofStrings t.recommendations)]

/-- The budget of a file as JSON. -/
def BudgetResult.toJson (r : BudgetResult α) : Json :=
  .obj [
    ("file", .str r.file),
    ("tier", .str r.tier.name),
    ("lines", .ofNat r.lines),
    ("tokens", .ofNat r.tokens),
    ("min_lines", .ofOption .ofNat r.minLines),
    ("token_ceiling", .ofNat r.tokenCeiling),
    ("warning_fraction", .ofQuantity r.warningFraction),
    ("status", .str r.status.name)]

/-- The numbers and files of a reference graph as JSON. -/
def ReferenceGraph.toJson (g : ReferenceGraph) : Json :=
  .obj [
    ("edges", .ofNat g.edges.length),
    ("broken", .ofNat g.brokenCount),
    ("orphans", .ofStrings g.orphans),
    ("entrypoints", .ofStrings g.entrypoints)]

/-- The score of an area as JSON. -/
def AreaScore.toJson (s : AreaScore α) : Json :=
  .obj [
    ("name", .str s.area.name),
    ("earned", .ofQuantity s.earned),
    ("possible", .ofQuantity s.possible),
    ("deductions", .ofQuantity s.deductions),
    ("findings", .ofStrings s.findings)]

/-- The wording of a text as JSON. -/
def Voice.toJson (v : Voice α) : Json :=
  .obj [
    ("sentences", .ofNat v.sentences),
    ("imperative", .ofNat v.imperative),
    ("ratio", .ofQuantity v.ratio),
    ("band", .str v.band.name)]

/-- A score as JSON. -/
def Quality.toJson (q : Quality α) : Json :=
  .obj [
    ("total", .ofQuantity q.total),
    ("grade", .str q.grade.name),
    ("passed", .bool q.passed),
    ("categories", .obj (q.areas.map fun s => (s.area.name, s.toJson))),
    ("voice", q.voice.toJson)]

/-! ## Reports -/

/-- A report as JSON. -/
def Report.toJson (r : Report α) : Json :=
  .obj [
    ("status", .str "success"),
    ("package_name", .str r.packageName),
    ("findings", Finding.listToJson r.findings),
    ("summary", r.summary.toJson),
    ("token_estimate", r.tokens.toJson),
    ("budget", .arr (r.budget.map (·.toJson))),
    ("references", r.references.toJson),
    ("score", r.score.toJson),
    ("exit_code", .ofNat r.verdict.exitCode)]

/-- An error as JSON. -/
def ValidationError.toJson (e : ValidationError α) : Json :=
  .obj [
    ("status", .str "error"),
    ("error_type", .str e.kind),
    ("message", .str e.message)]

/-- A response as JSON. -/
def Response.toJson (response : Response α) : Json :=
  match response with
  | .ok report => report.toJson
  | .error e => e.toJson

namespace JsonReport

/-- The response to a validation. -/
def response (r : Response α) : String := (Response.toJson r).pretty

/-- The responses to several validations. -/
def batch (rs : List (Response α)) : String := (Json.arr (rs.map Response.toJson)).pretty

/-- The tokens of a package. -/
def tokens (packageName : String) (t : TokenReport α) : String :=
  (Json.obj [
    ("status", .str "success"),
    ("package_name", .str packageName),
    ("token_estimate", t.toJson)]).sortMembers.pretty

/-- The findings of a security scan. -/
def findings (packageName : String) (fs : List Finding) : String :=
  (Json.obj [
    ("status", .str "success"),
    ("package_name", .str packageName),
    ("findings", Finding.listToJson fs),
    ("summary", (Summary.of fs).toJson)]).sortMembers.pretty

end JsonReport

end SkillAudit
