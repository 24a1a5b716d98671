import SkillAudit.Config.Setting
import SkillAudit.Json.Reader
/-!
# SkillAudit.Config.Json

Settings in JSON, read and written.
-/

namespace SkillAudit

variable {α : Type} [Quantity α]

mutual

/-- A JSON value as a setting. -/
def Setting.ofJson : Json → Setting α
  | .null => .null
  | .bool b => .bool b
  | .int n => .int n
  | .decimal d =>
    match Json.quantityOfDecimal? d with
    | some x => .number x
    | none => .useless
  | .str s => .text s
  | .halfPair => .useless
  | .arr items => .list (Setting.ofJsonItems items)
  | .obj members => .table (Setting.ofJsonMembers members)

/-- The items of an array as settings. -/
def Setting.ofJsonItems : List Json → List (Setting α)
  | [] => []
  | v :: rest => Setting.ofJson v :: Setting.ofJsonItems rest

/-- The members of an object as settings. -/
def Setting.ofJsonMembers : List (String × Json) → List (String × Setting α)
  | [] => []
  | (name, v) :: rest => (name, Setting.ofJson v) :: Setting.ofJsonMembers rest

end

/-! ## Writing -/

namespace Weights

/-- Weights as JSON. -/
def toJson (w : Weights α) : Json :=
  .obj (Area.all.map fun a => (a.name, .ofQuantity (w.get a)))

end Weights

/-- Something for every tier as JSON. -/
def PerTier.toJson {β : Type} (f : β → Json) (t : PerTier β) : Json :=
  .obj (Tier.all.map fun tier => (tier.name, f (t.get tier)))

namespace Config

/-- The settings of scoring as JSON. -/
def scoringJson (c : ScoringConfig α) : Json :=
  .obj [
    ("weights", c.weights.toJson),
    ("penalties", .obj (Severity.descending.map fun s => (s.name, .ofQuantity (c.penalties.get s)))),
    ("pass_threshold", .ofQuantity c.passThreshold),
    ("grade_bands", .obj [
      ("a", .ofQuantity c.gradeBands.a), ("b", .ofQuantity c.gradeBands.b),
      ("c", .ofQuantity c.gradeBands.c), ("d", .ofQuantity c.gradeBands.d)])]

/-- The settings of style as JSON. -/
def styleJson (c : StyleConfig α) : Json :=
  .obj [
    ("verbs", .ofStrings c.verbs),
    ("full_threshold", .ofQuantity c.fullThreshold),
    ("partial_threshold", .ofQuantity c.partialThreshold),
    ("weak_phrases", .ofStrings c.weakPhrases),
    ("weak_phrase_limit", .ofNat c.weakPhraseLimit)]

/-- The settings of budgets as JSON. -/
def budgetJson (c : BudgetConfig α) : Json :=
  .obj [
    ("min_lines", c.minLines.toJson .ofNat),
    ("token_ceilings", c.tokenCeilings.toJson .ofNat),
    ("warning_fraction", .ofQuantity c.warningFraction),
    ("aggregate_fraction", .ofQuantity c.aggregateFraction),
    ("paid_weights", c.paidWeights.toJson .ofQuantity),
    ("priorities", .obj (c.priorities.map fun e => (e.1, .str e.2.name))),
    ("manifest_warn_lines", .ofNat c.manifestWarnLines),
    ("manifest_max_lines", .ofNat c.manifestMaxLines)]

/-- The settings of costs as JSON. -/
def tokensJson (c : TokenConfig α) : Json :=
  .obj [
    ("monthly_volume", .ofNat c.monthlyVolume),
    ("input_rate", .ofQuantity c.inputRate),
    ("output_rate", .ofQuantity c.outputRate),
    ("output_ratio", .ofQuantity c.outputRatio),
    ("output_tokens", .ofOption .ofNat c.outputTokens)]

/-- All settings as JSON. -/
def toJson (c : Config α) : Json :=
  .obj [
    ("scoring", scoringJson c.scoring),
    ("style", styleJson c.style),
    ("budget", budgetJson c.budget),
    ("tokens", tokensJson c.tokens),
    ("security", .obj [("disabled_rules", .ofStrings c.security.disabledRules)]),
    ("references", .obj [("entrypoints", .ofStrings c.references.entrypoints)])]

end Config

end SkillAudit
