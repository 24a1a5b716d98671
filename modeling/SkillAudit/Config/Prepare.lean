import SkillAudit.Config.Basic
/-!
# SkillAudit.Config.Prepare

Checking settings, and scaling weights so that the areas can earn exactly 100 points. The weights
are rounded to hundredths, and what the rounding leaves over goes to the largest of them.
-/

namespace SkillAudit

open Quantity (ofNat fraction)

variable {α : Type} [Quantity α]

namespace Weights

/-- The sum of the weights. -/
def sum (w : Weights α) : α :=
  w.structural + w.content + w.efficiency + w.security + w.style

/-- Whether every weight is a number that is not negative. -/
def allNonNegative (w : Weights α) : Bool :=
  Area.all.all fun a => Quantity.isFinite (w.get a) && Quantity.le (ofNat 0) (w.get a)

/-- Whether the weights can be used as they are: none is negative, and they sum to 100 up to a
    thousandth. -/
def isValid (w : Weights α) : Bool :=
  w.allNonNegative && Quantity.lt (Quantity.abs (w.sum - ofNat 100)) (fraction 1 3)

/-- The share of an area in 100 points, in hundredths. -/
def share (w : Weights α) (a : Area) : α :=
  Quantity.roundTo 100 (w.get a * (ofNat 100 / w.sum))

/-- The first area with the largest share. -/
def largest (w : Weights α) : Area :=
  (Area.all.drop 1).foldl
    (fun best a => if Quantity.lt (w.share best) (w.share a) then a else best) .structural

/-- The weights scaled to 100 points. Weights without a positive sum are left as they are. -/
def normalize (w : Weights α) : Weights α :=
  if Quantity.le w.sum (ofNat 0) then w
  else
    let rest := Quantity.sum ((Area.all.filter (· != w.largest)).map w.share)
    ofFn fun a => if a = w.largest then Quantity.roundTo 100 (ofNat 100 - rest) else w.share a

end Weights

/-- The shares that must lie between zero and one. -/
inductive ShareSetting where
  | fullThreshold
  | partialThreshold
  | warningFraction
deriving DecidableEq, Repr

namespace ShareSetting

/-- The name of a setting. -/
def name : ShareSetting → String
  | fullThreshold => "style.full_threshold"
  | partialThreshold => "style.partial_threshold"
  | warningFraction => "budget.warning_fraction"

/-- The settings in the order in which they are checked. -/
def all : List ShareSetting := [fullThreshold, partialThreshold, warningFraction]

/-- The value of a setting. -/
def get {β : Type} (c : Config β) : ShareSetting → β
  | fullThreshold => c.style.fullThreshold
  | partialThreshold => c.style.partialThreshold
  | warningFraction => c.budget.warningFraction

end ShareSetting

/-- Why settings cannot be used. -/
inductive ConfigError (α : Type) where
  /-- A weight is negative or no number. -/
  | negativeWeights
  /-- The weights sum to nothing. -/
  | zeroWeights
  /-- A share lies outside zero and one. -/
  | notAShare (setting : ShareSetting) (value : α)
  /-- The threshold for half the points lies above the one for all of them. -/
  | crossedThresholds (partialThreshold fullThreshold : α)
  /-- The file cannot be read as text. -/
  | unreadable (path : String)
  /-- The file is not the JSON of settings. -/
  | invalidJson (path : String)
  /-- The file is not the TOML of settings. -/
  | invalidToml (path : String)
deriving DecidableEq, Repr

/-- The error in words. -/
def ConfigError.message : ConfigError α → String
  | negativeWeights => "scoring.weights must all be non-negative numbers"
  | zeroWeights => "scoring.weights must not all be zero"
  | notAShare setting value =>
    setting.name ++ " must be between 0 and 1 (got " ++ Quantity.plain value ++ ")"
  | crossedThresholds low high =>
    "style.partial_threshold (" ++ Quantity.plain low ++
      ") must not exceed style.full_threshold (" ++ Quantity.plain high ++ ")"
  | unreadable path => "Failed to read config file " ++ path
  | invalidJson path => "Invalid JSON in " ++ path
  | invalidToml path => "Invalid TOML in " ++ path

namespace Config

/-- The first share that is none. -/
def badShare? (c : Config α) : Option ShareSetting :=
  ShareSetting.all.find? fun s =>
    !(Quantity.le (ofNat 0) (s.get c) && Quantity.le (s.get c) (ofNat 1))

/-- Checks the settings and scales the weights if they need it. -/
def prepare (c : Config α) : Except (ConfigError α) (Config α) :=
  if !c.scoring.weights.allNonNegative then .error .negativeWeights
  else if Quantity.le c.scoring.weights.sum (ofNat 0) then .error .zeroWeights
  else
    let weights :=
      if c.scoring.weights.isValid then c.scoring.weights else c.scoring.weights.normalize
    match c.badShare? with
    | some s => .error (.notAShare s (s.get c))
    | none =>
      if Quantity.lt c.style.fullThreshold c.style.partialThreshold then
        .error (.crossedThresholds c.style.partialThreshold c.style.fullThreshold)
      else .ok { c with scoring := { c.scoring with weights := weights } }

end Config

/-- What a caller sets in place of the settings of the package. -/
structure Overrides (α : Type) where
  monthlyVolume : Option Nat
  passThreshold : Option α
  priorities : Priorities

namespace Overrides

/-- Nothing set. -/
def none {β : Type} : Overrides β := ⟨.none, .none, []⟩

/-- The settings with those of the caller put in. -/
def apply {β : Type} (o : Overrides β) (c : Config β) : Config β :=
  { c with
    tokens := { c.tokens with monthlyVolume := o.monthlyVolume.getD c.tokens.monthlyVolume }
    scoring := { c.scoring with passThreshold := o.passThreshold.getD c.scoring.passThreshold }
    budget := { c.budget with priorities := c.budget.priorities.insertAll o.priorities } }

end Overrides

end SkillAudit
