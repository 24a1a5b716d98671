import SkillAudit.Report.Format
import SkillAudit.Report.Json
import SkillAudit.Report.Markdown
import SkillAudit.Report.Text
/-!
# SkillAudit.Report.Render

Reports in any format.
-/

namespace SkillAudit.ReportFormat

variable {α : Type} [Quantity α]

/-- The response to a validation. -/
def response (format : ReportFormat) (colours : Bool) (r : Response α) : String :=
  match format with
  | text => TextReport.response colours r
  | json => JsonReport.response r
  | markdown => MarkdownReport.response r

/-- The responses to several validations. -/
def batch (format : ReportFormat) (colours : Bool) (rs : List (Response α)) : String :=
  match format with
  | text => TextReport.batch colours rs
  | json => JsonReport.batch rs
  | markdown => MarkdownReport.batch rs

/-- The tokens of a package. -/
def tokens (format : ReportFormat) (colours : Bool) (packageName : String) (t : TokenReport α) :
    String :=
  match format with
  | text => TextReport.tokens colours packageName t
  | json => JsonReport.tokens packageName t
  | markdown => MarkdownReport.tokens packageName t

/-- The findings of a security scan. -/
def findings (format : ReportFormat) (colours : Bool) (packageName : String)
    (fs : List Finding) : String :=
  match format with
  | text => TextReport.findings colours packageName fs
  | json => JsonReport.findings packageName fs
  | markdown => MarkdownReport.findings packageName fs

end SkillAudit.ReportFormat
