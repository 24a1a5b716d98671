import SkillAudit.Config.Basic
/-!
# SkillAudit.Config.Setting

Settings as a file gives them, before they are given their meaning: values, lists and tables. A
setting that is missing takes its default and one that is unknown is ignored, but one of the wrong
kind makes the whole file unusable. A group of settings may also be a list, in a fixed order.
-/

namespace SkillAudit

open Quantity (ofNat)

/-- A value in a file of settings. -/
inductive Setting (α : Type) where
  | null
  | bool (b : Bool)
  | int (n : Int)
  | number (x : α)
  | text (s : String)
  /-- A value that no setting can take. -/
  | useless
  | list (items : List (Setting α))
  | table (entries : List (String × Setting α))

namespace Setting

variable {α : Type} [Quantity α] {β : Type}

/-- The number of a setting; whole numbers are numbers too. -/
def number? : Setting α → Option α
  | int n => some (if n < 0 then -ofNat n.natAbs else ofNat n.natAbs)
  | number x => some x
  | _ => none

/-- The count of a setting, of at most 64 bits. -/
def count? : Setting α → Option Nat
  | int n => if 0 ≤ n ∧ n.toNat ≤ Reading.largestCount then some n.toNat else none
  | _ => none

/-- The count of a setting that may be null. -/
def countOrNull? : Setting α → Option (Option Nat)
  | null => some none
  | v => v.count?.map some

/-- The text of a setting. -/
def text? : Setting α → Option String
  | text s => some s
  | _ => none

/-- The texts of a setting. -/
def texts? : Setting α → Option (List String)
  | list items => items.mapM text?
  | _ => none

/-- Whether a setting stands beside the name of a choice without adding anything to it: null in
    an `exact` reading, and a table or a list with nothing in it in any other. -/
def isNothing (exact : Bool) : Setting α → Bool
  | null => exact
  | table [] => !exact
  | list [] => !exact
  | _ => false

/-- The tier of a setting: its name, or a table with its name alone and nothing beside it. -/
def tier? (exact : Bool) : Setting α → Option Tier
  | text s => Tier.ofExactName? s
  | table [(name, v)] => if v.isNothing exact then Tier.ofExactName? name else none
  | _ => none

/-- The tiers of a setting that gives them by path. -/
def priorities? (exact : Bool) : Setting α → Option Priorities
  | table entries => do
    let tiers ← entries.mapM fun e => do return (e.1, ← e.2.tier? exact)
    return Priorities.insertAll tiers []
  | _ => none

/-! ## Groups -/

/-- The settings of a group by their place among `names`. In a table no known name may occur twice;
    a list gives them in order, and `exact` lists are not longer than the group. -/
def group? (exact : Bool) (names : List String) : Setting α → Option (List (Option (Setting α)))
  | table entries =>
    if names.any fun n => 1 < entries.countP fun e => e.1 == n then none
    else some (names.map fun n => (entries.find? fun e => e.1 == n).map (·.2))
  | list items =>
    if exact && names.length < items.length then none
    else some ((List.range names.length).map fun i => items[i]?)
  | _ => none

/-- The setting at a place of a group, read with `read?`, or its default. -/
def at? (settings : List (Option (Setting α))) (i : Nat) (read? : Setting α → Option β)
    (default : β) : Option β :=
  match settings[i]? with
  | some (some v) => read? v
  | _ => some default

/-! ## The groups of a configuration -/

variable (exact : Bool)

/-- Reads weights. -/
def weights? (v : Setting α) : Option (Weights α) := do
  let s ← v.group? exact ["structure", "content", "efficiency", "security", "style"]
  let d : Weights α := .default
  return ⟨← at? s 0 number? d.structural, ← at? s 1 number? d.content,
    ← at? s 2 number? d.efficiency, ← at? s 3 number? d.security, ← at? s 4 number? d.style⟩

/-- Reads penalties. -/
def penalties? (v : Setting α) : Option (Penalties α) := do
  let s ← v.group? exact ["critical", "high", "medium", "low", "info"]
  let d : Penalties α := .default
  return ⟨← at? s 0 number? d.critical, ← at? s 1 number? d.high, ← at? s 2 number? d.medium,
    ← at? s 3 number? d.low, ← at? s 4 number? d.info⟩

/-- Reads grade bands. -/
def gradeBands? (v : Setting α) : Option (GradeBands α) := do
  let s ← v.group? exact ["a", "b", "c", "d"]
  let d : GradeBands α := .default
  return ⟨← at? s 0 number? d.a, ← at? s 1 number? d.b, ← at? s 2 number? d.c,
    ← at? s 3 number? d.d⟩

/-- Reads the settings of scoring. -/
def scoring? (v : Setting α) : Option (ScoringConfig α) := do
  let s ← v.group? exact ["weights", "penalties", "pass_threshold", "grade_bands"]
  let d : ScoringConfig α := .default
  return ⟨← at? s 0 (weights? exact) d.weights, ← at? s 1 (penalties? exact) d.penalties,
    ← at? s 2 number? d.passThreshold, ← at? s 3 (gradeBands? exact) d.gradeBands⟩

/-- Reads the settings of style. -/
def style? (v : Setting α) : Option (StyleConfig α) := do
  let s ← v.group? exact
    ["verbs", "full_threshold", "partial_threshold", "weak_phrases", "weak_phrase_limit"]
  let d : StyleConfig α := .default
  return ⟨← at? s 0 texts? d.verbs, ← at? s 1 number? d.fullThreshold,
    ← at? s 2 number? d.partialThreshold, ← at? s 3 texts? d.weakPhrases,
    ← at? s 4 count? d.weakPhraseLimit⟩

/-- Reads something for every tier. -/
def perTier? (read? : Setting α → Option β) (d : PerTier β) (v : Setting α) :
    Option (PerTier β) := do
  let s ← v.group? exact ["critical", "important", "optional"]
  return ⟨← at? s 0 read? d.critical, ← at? s 1 read? d.important, ← at? s 2 read? d.optional⟩

/-- Reads the settings of budgets. -/
def budget? (v : Setting α) : Option (BudgetConfig α) := do
  let s ← v.group? exact ["min_lines", "token_ceilings", "warning_fraction", "aggregate_fraction",
    "paid_weights", "priorities", "manifest_warn_lines", "manifest_max_lines"]
  let d : BudgetConfig α := .default
  return {
    minLines := ← at? s 0 (perTier? exact count? d.minLines) d.minLines
    tokenCeilings := ← at? s 1 (perTier? exact count? d.tokenCeilings) d.tokenCeilings
    warningFraction := ← at? s 2 number? d.warningFraction
    aggregateFraction := ← at? s 3 number? d.aggregateFraction
    paidWeights := ← at? s 4 (perTier? exact number? d.paidWeights) d.paidWeights
    priorities := ← at? s 5 (priorities? exact) d.priorities
    manifestWarnLines := ← at? s 6 count? d.manifestWarnLines
    manifestMaxLines := ← at? s 7 count? d.manifestMaxLines }

/-- Reads the settings of costs. -/
def tokens? (v : Setting α) : Option (TokenConfig α) := do
  let s ← v.group? exact
    ["monthly_volume", "input_rate", "output_rate", "output_ratio", "output_tokens"]
  let d : TokenConfig α := .default
  return ⟨← at? s 0 count? d.monthlyVolume, ← at? s 1 number? d.inputRate,
    ← at? s 2 number? d.outputRate, ← at? s 3 number? d.outputRatio,
    ← at? s 4 countOrNull? d.outputTokens⟩

/-- Reads the settings of security. -/
def security? (v : Setting α) : Option SecurityConfig := do
  let s ← v.group? exact ["disabled_rules"]
  return ⟨← at? s 0 texts? []⟩

/-- Reads the settings of references. -/
def references? (v : Setting α) : Option ReferencesConfig := do
  let s ← v.group? exact ["entrypoints"]
  return ⟨← at? s 0 texts? []⟩

/-- Reads all settings. -/
def config? (v : Setting α) : Option (Config α) := do
  let s ← v.group? exact ["scoring", "style", "budget", "tokens", "security", "references"]
  let d : Config α := .default
  return ⟨← at? s 0 (scoring? exact) d.scoring, ← at? s 1 (style? exact) d.style,
    ← at? s 2 (budget? exact) d.budget, ← at? s 3 (tokens? exact) d.tokens,
    ← at? s 4 (security? exact) d.security, ← at? s 5 (references? exact) d.references⟩

end Setting

end SkillAudit
