import SkillAudit.Config.Basic
import SkillAudit.Finding
import SkillAudit.Tokens.Estimate
/-!
# SkillAudit.Budget

Whether files keep to the limits of their tiers. A file with fewer lines than its tier asks for, or
more tokens than it allows, violates its budget; one that comes close to the ceiling is warned
about. All files together may be held to a number of tokens that the front matter declares.
-/

namespace SkillAudit

open Quantity (ofNat)

variable {α : Type} [Quantity α]

/-- How a file keeps to its budget. -/
inductive BudgetStatus where
  | ok
  | warning
  | violation
deriving DecidableEq, Repr

/-- The name of a status. -/
def BudgetStatus.name : BudgetStatus → String
  | ok => "ok"
  | warning => "warning"
  | violation => "violation"

/-- What a file has, and what its tier allows. -/
structure BudgetResult (α : Type) where
  file : String
  tier : Tier
  lines : Nat
  tokens : Nat
  /-- None when the tier has no minimum. -/
  minLines : Option Nat
  tokenCeiling : Nat
  warningFraction : α
  status : BudgetStatus
deriving DecidableEq, Repr

namespace BudgetConfig

/-- The fewest lines of a tier, if it has a minimum. -/
def minimum? (c : BudgetConfig α) (tier : Tier) : Option Nat :=
  if 0 < c.minLines.get tier then some (c.minLines.get tier) else none

/-- Whether so many lines are too few. -/
def tooShort (c : BudgetConfig α) (tier : Tier) (lines : Nat) : Bool :=
  (c.minimum? tier).any (lines < ·)

/-- Whether so many tokens come close to the ceiling, or lie above it. -/
def nearCeiling (c : BudgetConfig α) (tier : Tier) (tokens : Nat) : Bool :=
  Quantity.lt (ofNat (c.tokenCeilings.get tier) * c.warningFraction) (ofNat tokens)

/-- The status of a file. -/
def status (c : BudgetConfig α) (tier : Tier) (lines tokens : Nat) : BudgetStatus :=
  if c.tooShort tier lines || c.tokenCeilings.get tier < tokens then .violation
  else if c.nearCeiling tier tokens then .warning
  else .ok

/-- Compares a file with its budget. -/
def evaluate (c : BudgetConfig α) (file : String) (tier : Tier) (lines tokens : Nat) :
    BudgetResult α where
  file := file
  tier := tier
  lines := lines
  tokens := tokens
  minLines := c.minimum? tier
  tokenCeiling := c.tokenCeilings.get tier
  warningFraction := c.warningFraction
  status := c.status tier lines tokens

end BudgetConfig

/-! ## Findings -/

/-- The text of a share in whole percent. -/
def percent (share : α) : String :=
  Quantity.fixed 0 (share * ofNat 100)

namespace BudgetResult

/-- What is wrong about the lines of a file. -/
def shortage (r : BudgetResult α) : List String :=
  match r.minLines with
  | some least =>
    if r.lines < least then
      [s!"{r.lines} lines is under the {r.tier.name} minimum of {least}"]
    else []
  | none => []

/-- What is wrong about the tokens of a file. -/
def excess (r : BudgetResult α) : List String :=
  let tier := r.tier.name
  if r.tokenCeiling < r.tokens then
    [s!"~{r.tokens} tokens exceeds the {tier} ceiling of {r.tokenCeiling}"]
  else if r.status = .warning then
    let share := percent r.warningFraction
    [s!"~{r.tokens} tokens is over {share}% of the {tier} ceiling of {r.tokenCeiling}"]
  else []

/-- A finding about the budget of a file. -/
def finding (r : BudgetResult α) (rule : String) (severity : Severity) : Finding where
  rule := rule
  category := .budget
  severity := severity
  message := String.intercalate "; " (r.shortage ++ r.excess)
  location := some ⟨r.file, none⟩
  suggestion := none

/-- The finding about a file that does not keep to its budget. -/
def finding? (r : BudgetResult α) : Option Finding :=
  match r.status with
  | .ok => none
  | .warning => some (r.finding "budget-warning" .low)
  | .violation => some (r.finding "budget-violation" .medium)

end BudgetResult

/-! ## Packages -/

/-- How the files of a package keep to their budgets. -/
structure BudgetReport (α : Type) where
  results : List (BudgetResult α)
  /-- The tokens of the files, weighted by tier. -/
  paidTokens : α
  /-- The number of tokens that the front matter declares. -/
  tokenTarget : Option α
  findings : List Finding
deriving DecidableEq, Repr

namespace Package

/-- The tokens of a file; those of the manifest are counted by its two parts. -/
def tokensOf (p : Package) (f : PackageFile) : Nat :=
  match f.role with
  | .manifest => Tokens.ofText p.frontMatter.raw + Tokens.ofText p.body
  | _ => (f.text.map Tokens.ofText).getD 0

/-- The files that have a budget: all text but assets. -/
def budgetedFiles (p : Package) : List PackageFile :=
  p.files.filter fun f => f.role != .asset && f.text.isSome

end Package

namespace BudgetReport

/-- Where the front matter declares a number of tokens. -/
def targetKeys : List (List String) :=
  [["token_budget"], ["token_target"], ["metadata", "token_budget"]]

/-- The number of tokens that the front matter declares: the first one that is a number, if it is
    positive. -/
def target? (p : Package) : Option α :=
  ((targetKeys.findSome? p.frontMatter.numeralAt?).bind Quantity.ofNumeral?).filter
    (Quantity.lt (ofNat 0))

/-- The paid tokens of results: a sum from the left, of the tokens times the weight of the tier. -/
def paid (config : BudgetConfig α) (results : List (BudgetResult α)) : α :=
  results.foldl (fun sum r => sum + config.paidWeights.get r.tier * ofNat r.tokens) (ofNat 0)

/-- The finding about paid tokens that exceed the share of a declared number. -/
def targetFinding? (p : Package) (config : BudgetConfig α) (paidTokens target : α) :
    Option Finding :=
  if Quantity.lt (target * config.aggregateFraction) paidTokens then
    let paid := Quantity.fixed 0 paidTokens
    let share := percent config.aggregateFraction
    let declared := Quantity.fixed 0 target
    some {
      rule := "reference-budget-exceeded"
      category := .budget
      severity := .medium
      message := s!"Reference budget exceeds recommended ceiling: ~{paid} paid tokens is over " ++
        s!"{share}% of the declared target of {declared}"
      location := some ⟨p.manifestPath, none⟩
      suggestion := some "Move detail into references/ files that are loaded on demand" }
  else none

/-- The limit that the lines of a manifest exceed, with the severity of that. -/
def exceededLimit? (config : BudgetConfig α) (lines : Nat) : Option (Severity × Nat) :=
  if config.manifestMaxLines < lines then some (.high, config.manifestMaxLines)
  else if config.manifestWarnLines < lines then some (.medium, config.manifestWarnLines)
  else none

/-- The finding about a manifest with too many lines. -/
def lengthFinding? (p : Package) (config : BudgetConfig α) : Option Finding :=
  (exceededLimit? config p.manifestLines).map fun (severity, limit) => {
    rule := "manifest-too-long"
    category := .budget
    severity := severity
    message := s!"{p.manifestPath} has {p.manifestLines} lines (limit {limit})"
    location := some ⟨p.manifestPath, none⟩
    suggestion := some "Split detailed sections into references/" }

/-- The budgets of a package, and what is wrong with them. -/
def ofPackage (p : Package) (config : BudgetConfig α) : BudgetReport α :=
  let results := p.budgetedFiles.map fun f =>
    config.evaluate f.path f.tier f.lineCount (p.tokensOf f)
  let paidTokens := paid config results
  let target : Option α := target? p
  { results := results
    paidTokens := paidTokens
    tokenTarget := target
    findings := results.filterMap (·.finding?) ++
      (target.bind (targetFinding? p config paidTokens)).toList ++
      (lengthFinding? p config).toList }

end BudgetReport

end SkillAudit
