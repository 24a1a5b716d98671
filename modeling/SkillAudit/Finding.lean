import SkillAudit.Digest.Sha256
import SkillAudit.Text.Char
/-!
# SkillAudit.Finding

Findings: what the analyzers report. A finding is a value that nothing changes once an analyzer
has made it; its identifier is a function of its rule, place and message, so that equal packages
give equal reports.
-/

namespace SkillAudit

/-! ## Severity -/

/-- How grave a finding is, in increasing order. -/
inductive Severity where
  | info
  | low
  | medium
  | high
  | critical
deriving DecidableEq, Repr, Inhabited

namespace Severity

/-- The place in the order, from zero. -/
def rank : Severity → Nat
  | info => 0
  | low => 1
  | medium => 2
  | high => 3
  | critical => 4

/-- The severities from the gravest down. -/
def descending : List Severity := [critical, high, medium, low, info]

/-- The name of a severity. -/
def name : Severity → String
  | info => "info"
  | low => "low"
  | medium => "medium"
  | high => "high"
  | critical => "critical"

/-- Whether one finding of this severity fails a run whatever its score. -/
def isBlocking (s : Severity) : Bool := high.rank ≤ s.rank

/-- Reads a name in any case; what is no name gives the message about it. -/
def ofName (text : String) : Except String Severity :=
  let word := String.ofList (Text.lower text.toList)
  match descending.find? fun s => s.name == word with
  | some s => .ok s
  | none =>
    .error s!"Unknown severity '{word}'. Valid: critical, high, medium, low, info"

end Severity

/-! ## Categories -/

/-- The domain of analysis that a finding comes from. -/
inductive Category where
  | structural
  | reference
  | content
  | security
  | budget
  | style
deriving DecidableEq, Repr, Inhabited

namespace Category

/-- The name of a category. -/
def name : Category → String
  | .structural => "structure"
  | .reference => "reference"
  | .content => "content"
  | .security => "security"
  | .budget => "budget"
  | .style => "style"

/-- Every category. -/
def all : List Category := [.structural, .reference, .content, .security, .budget, .style]

end Category

/-! ## Findings -/

/-- Where a finding is: a file of the package, and a line of it if there is one. -/
structure Location where
  file : String
  line : Option Nat
deriving DecidableEq, Repr

/-- A reported issue. -/
structure Finding where
  /-- The rule or check that produced it. -/
  rule : String
  category : Category
  severity : Severity
  message : String
  location : Option Location
  suggestion : Option String
deriving DecidableEq, Repr

namespace Finding

/-- The identifier of a finding: the first 16 hexadecimal digits of the digest of its rule, file,
    line and message. -/
def idOf (rule file : String) (line : Nat) (message : String) : String :=
  let key := rule ++ "\n" ++ file ++ "\n" ++ toString line ++ "\n" ++ message
  String.ofList ((Sha256.hex (Sha256.digest key.toUTF8.toList)).take 16)

/-- The file of a finding, if it has one. -/
def file? (f : Finding) : Option String := f.location.map (·.file)

/-- The line of a finding, if it has one. -/
def line? (f : Finding) : Option Nat := f.location.bind (·.line)

/-- The identifier; a missing file counts as empty and a missing line as zero. -/
def id (f : Finding) : String :=
  idOf f.rule (f.file?.getD "") (f.line?.getD 0) f.message

/-! ## The order of reports -/

/-- A missing value stands before every other. -/
def compareOption {α : Type} (compare : α → α → Ordering) : Option α → Option α → Ordering
  | none, none => .eq
  | none, some _ => .lt
  | some _, none => .gt
  | some a, some b => compare a b

/-- The order of reports: the gravest first, then by file, line, rule and message. -/
def reportOrder (a b : Finding) : Ordering :=
  (compare b.severity.rank a.severity.rank)
    |>.then (compareOption compare a.file? b.file?)
    |>.then (compareOption compare a.line? b.line?)
    |>.then (compare a.rule b.rule)
    |>.then (compare a.message b.message)

/-- Findings in the order of reports; those that the order does not tell apart keep theirs. -/
def sort (findings : List Finding) : List Finding :=
  findings.mergeSort fun a b => reportOrder a b != .gt

end Finding

/-! ## Summary -/

/-- How many findings there are of each severity. -/
structure Summary where
  critical : Nat
  high : Nat
  medium : Nat
  low : Nat
  info : Nat
  total : Nat
deriving DecidableEq, Repr

namespace Summary

/-- Counts findings. -/
def of (findings : List Finding) : Summary :=
  let number (s : Severity) : Nat := findings.countP fun f => f.severity == s
  { critical := number .critical
    high := number .high
    medium := number .medium
    low := number .low
    info := number .info
    total := findings.length }

/-- Whether a finding among those counted fails a run. -/
def hasBlocking (s : Summary) : Bool := 0 < s.critical || 0 < s.high

end Summary

end SkillAudit
