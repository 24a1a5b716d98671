import SkillAudit.Finding
import SkillAudit.Package.File
import SkillAudit.Number.Quantity
/-!
# SkillAudit.Config.Basic

The settings of a validation. Every setting has a default, and the numbers that scores, shares and
costs are computed from may be of any type of quantities.
-/

namespace SkillAudit

open Quantity (ofNat fraction)

variable {α : Type} [Quantity α]

/-! ## Scoring -/

/-- The five areas that are scored. -/
inductive Area where
  | structural
  | content
  | efficiency
  | security
  | style
deriving DecidableEq, Repr, Inhabited

namespace Area

/-- Every area, in the order of reports for people. -/
def all : List Area := [structural, content, efficiency, security, style]

/-- The areas in the order of their names. -/
def byName : List Area := [content, efficiency, security, structural, style]

/-- The name of an area. -/
def name : Area → String
  | structural => "structure"
  | content => "content"
  | efficiency => "efficiency"
  | security => "security"
  | style => "style"

/-- The area that the findings of a category deduct from. -/
def ofCategory : Category → Area
  | .structural => structural
  | .reference => structural
  | .content => content
  | .budget => efficiency
  | .security => security
  | .style => style

end Area

/-- The points that each area can earn. -/
structure Weights (α : Type) where
  structural : α
  content : α
  efficiency : α
  security : α
  style : α
deriving DecidableEq, Repr

namespace Weights

/-- The weight of an area. -/
def get {β : Type} (w : Weights β) : Area → β
  | .structural => w.structural
  | .content => w.content
  | .efficiency => w.efficiency
  | .security => w.security
  | .style => w.style

/-- The weights that a function gives. -/
def ofFn {β : Type} (f : Area → β) : Weights β :=
  ⟨f .structural, f .content, f .efficiency, f .security, f .style⟩

/-- The default weights. -/
def default : Weights α := ⟨ofNat 20, ofNat 30, ofNat 20, ofNat 15, ofNat 15⟩

end Weights

/-- The points that a finding deducts, by severity. -/
structure Penalties (α : Type) where
  critical : α
  high : α
  medium : α
  low : α
  info : α
deriving DecidableEq, Repr

namespace Penalties

/-- The points of a severity. -/
def get {β : Type} (p : Penalties β) : Severity → β
  | .critical => p.critical
  | .high => p.high
  | .medium => p.medium
  | .low => p.low
  | .info => p.info

/-- The default points. -/
def default : Penalties α := ⟨ofNat 10, ofNat 6, ofNat 4, ofNat 1, ofNat 0⟩

end Penalties

/-- Grades, the best one first. -/
inductive Grade where
  | a
  | b
  | c
  | d
  | f
deriving DecidableEq, Repr, Inhabited

namespace Grade

/-- The letter of a grade. -/
def name : Grade → String
  | a => "A"
  | b => "B"
  | c => "C"
  | d => "D"
  | f => "F"

end Grade

/-- The lowest score of each grade. -/
structure GradeBands (α : Type) where
  a : α
  b : α
  c : α
  d : α
deriving DecidableEq, Repr

namespace GradeBands

/-- The default bands. -/
def default : GradeBands α := ⟨ofNat 90, ofNat 80, ofNat 70, ofNat 60⟩

/-- The grade of a score: the first band that it reaches. -/
def grade (bands : GradeBands α) (score : α) : Grade :=
  if Quantity.le bands.a score then .a
  else if Quantity.le bands.b score then .b
  else if Quantity.le bands.c score then .c
  else if Quantity.le bands.d score then .d
  else .f

end GradeBands

/-- How findings become a score. -/
structure ScoringConfig (α : Type) where
  weights : Weights α
  penalties : Penalties α
  /-- The lowest score that passes. -/
  passThreshold : α
  gradeBands : GradeBands α
deriving DecidableEq, Repr

/-- The default scoring. -/
def ScoringConfig.default : ScoringConfig α :=
  ⟨Weights.default, Penalties.default, ofNat 70, GradeBands.default⟩

/-! ## Style -/

/-- What counts as instructive wording. -/
structure StyleConfig (α : Type) where
  /-- The verbs that make a sentence an instruction. -/
  verbs : List String
  /-- The share of instructions that earns all points of style. -/
  fullThreshold : α
  /-- The share that earns half of them. -/
  partialThreshold : α
  weakPhrases : List String
  /-- How many weak phrases are let pass. -/
  weakPhraseLimit : Nat
deriving DecidableEq, Repr

/-- The verbs that make a sentence an instruction, unless others are given. -/
def imperativeVerbs : List String := [
  "add", "analyze", "apply", "ask", "avoid", "build", "call", "check", "choose", "configure",
  "confirm", "copy", "create", "define", "delete", "describe", "determine", "do", "document",
  "ensure", "extract", "fetch", "find", "fix", "follow", "generate", "identify", "implement",
  "include", "install", "keep", "list", "load", "make", "move", "never", "open", "parse",
  "prefer", "provide", "read", "remove", "replace", "report", "return", "review", "run", "save",
  "search", "select", "set", "show", "skip", "split", "start", "stop", "summarize", "test",
  "update", "use", "validate", "verify", "write"]

/-- The phrases that hedge, unless others are given. -/
def weakPhrases : List String := [
  "you can", "you may", "you should", "you might", "it is possible", "one could", "consider"]

/-- The default wording. -/
def StyleConfig.default : StyleConfig α :=
  ⟨imperativeVerbs, fraction 5 1, fraction 3 1, SkillAudit.weakPhrases, 5⟩

/-! ## Budgets -/

/-- Something given for every tier. -/
structure PerTier (β : Type) where
  critical : β
  important : β
  optional : β
deriving DecidableEq, Repr

/-- What is given for a tier. -/
def PerTier.get {β : Type} (t : PerTier β) : Tier → β
  | .critical => t.critical
  | .important => t.important
  | .optional => t.optional

/-- How large files may be. -/
structure BudgetConfig (α : Type) where
  /-- The fewest lines a file should have; zero stands for no minimum. -/
  minLines : PerTier Nat
  /-- The most tokens a file may have. -/
  tokenCeilings : PerTier Nat
  /-- The share of the ceiling above which a warning is due. -/
  warningFraction : α
  /-- The share of the declared target that the paid tokens may take. -/
  aggregateFraction : α
  /-- How much of the tokens of a tier is paid. -/
  paidWeights : PerTier α
  /-- The tiers given to files. -/
  priorities : Priorities
  /-- The lines of the manifest above which it is long. -/
  manifestWarnLines : Nat
  /-- The lines of the manifest above which it is too long. -/
  manifestMaxLines : Nat
deriving DecidableEq, Repr

/-- The default budgets. -/
def BudgetConfig.default : BudgetConfig α :=
  { minLines := ⟨50, 10, 0⟩
    tokenCeilings := ⟨5000, 3000, 2000⟩
    warningFraction := fraction 8 1
    aggregateFraction := fraction 7 1
    paidWeights := ⟨ofNat 1, ofNat 1, ofNat 0⟩
    priorities := []
    manifestWarnLines := 500
    manifestMaxLines := 800 }

/-! ## Costs, security, references -/

/-- What tokens cost. -/
structure TokenConfig (α : Type) where
  /-- How often the package is used in a month. -/
  monthlyVolume : Nat
  /-- The price of a million tokens read. -/
  inputRate : α
  /-- The price of a million tokens written. -/
  outputRate : α
  /-- How many tokens are written for each one read. -/
  outputRatio : α
  /-- How many tokens are written, if that is known. -/
  outputTokens : Option Nat
deriving DecidableEq, Repr

/-- The default costs. -/
def TokenConfig.default : TokenConfig α := ⟨1000, ofNat 3, ofNat 15, fraction 2 1, none⟩

/-- Which security rules are in force. -/
structure SecurityConfig where
  /-- The identifiers of the rules that are not. -/
  disabledRules : List String
deriving DecidableEq, Repr

/-- Whether a rule is in force. -/
def SecurityConfig.enables (c : SecurityConfig) (rule : String) : Bool :=
  !c.disabledRules.contains rule

/-- Which files need no reference. -/
structure ReferencesConfig where
  entrypoints : List String
deriving DecidableEq, Repr

/-! ## All settings -/

/-- The settings of a validation. -/
structure Config (α : Type) where
  scoring : ScoringConfig α
  style : StyleConfig α
  budget : BudgetConfig α
  tokens : TokenConfig α
  security : SecurityConfig
  references : ReferencesConfig
deriving DecidableEq, Repr

/-- The default settings. -/
def Config.default : Config α :=
  ⟨.default, .default, .default, .default, ⟨[]⟩, ⟨[]⟩⟩

end SkillAudit
