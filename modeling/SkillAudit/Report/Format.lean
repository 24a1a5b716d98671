import SkillAudit.Text.Char
/-!
# SkillAudit.Report.Format

The formats of reports.
-/

namespace SkillAudit

/-- How a report is written. -/
inductive ReportFormat where
  /-- For a terminal. -/
  | text
  /-- For machines. -/
  | json
  | markdown
deriving DecidableEq, Repr

namespace ReportFormat

/-- The name of a format. -/
def name : ReportFormat → String
  | text => "text"
  | json => "json"
  | markdown => "markdown"

/-- The extension of files in a format. -/
def extension : ReportFormat → String
  | text => "txt"
  | json => "json"
  | markdown => "md"

/-- The names by which a format is asked for. -/
def names : ReportFormat → List String
  | text => ["text", "txt", "terminal"]
  | json => ["json"]
  | markdown => ["markdown", "md"]

/-- Reads a name in any case; what is no name gives the message about it. -/
def ofName (s : String) : Except String ReportFormat :=
  let word := String.ofList (Text.lower s.toList)
  match [text, json, markdown].find? fun f => f.names.contains word with
  | some f => .ok f
  | none => .error s!"Unknown format '{s}'. Valid formats: text, json, markdown"

end ReportFormat

end SkillAudit
