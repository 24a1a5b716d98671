import SkillAudit.Config.Basic
/-!
# SkillAudit.Tokens.Cost

What it costs to use a package. Four uses are told apart, each reading more than the one before:
none at all, the body of the manifest, the body with the smallest reference, and everything.
-/

namespace SkillAudit

open Quantity (ofNat)

/-- The tokens that each use of a package reads. -/
structure Scenarios where
  /-- The front matter alone. -/
  idle : Nat
  /-- The front matter and the body. -/
  typical : Nat
  /-- The same with the smallest reference. -/
  withReference : Nat
  /-- The front matter, the body and every reference. -/
  worst : Nat
deriving DecidableEq, Repr

/-- What one use costs. -/
structure Cost (α : Type) where
  tokens : Nat
  outputTokens : Nat
  perUse : α
  monthly : α
deriving DecidableEq, Repr

/-- What every use costs. -/
structure CostTable (α : Type) where
  monthlyVolume : Nat
  idle : Cost α
  typical : Cost α
  withReference : Cost α
  worst : Cost α
deriving DecidableEq, Repr

variable {α : Type} [Quantity α]

namespace TokenConfig

/-- The tokens that are written for so many read. -/
def outputFor (c : TokenConfig α) (tokens : Nat) : Nat :=
  match c.outputTokens with
  | some n => n
  | none => Quantity.toCount (Quantity.round (ofNat tokens * c.outputRatio))

/-- The price of tokens read and written, before rounding. -/
def price (c : TokenConfig α) (tokens output : Nat) : α :=
  (ofNat tokens * c.inputRate + ofNat output * c.outputRate) / ofNat 1000000

/-- The cost of reading so many tokens, in millionths. -/
def cost (c : TokenConfig α) (tokens : Nat) : Cost α :=
  let output := c.outputFor tokens
  let price := c.price tokens output
  { tokens := tokens
    outputTokens := output
    perUse := Quantity.roundTo 1000000 price
    monthly := Quantity.roundTo 1000000 (price * ofNat c.monthlyVolume) }

/-- The costs of the four uses. -/
def costs (c : TokenConfig α) (s : Scenarios) : CostTable α where
  monthlyVolume := c.monthlyVolume
  idle := c.cost s.idle
  typical := c.cost s.typical
  withReference := c.cost s.withReference
  worst := c.cost s.worst

end TokenConfig

end SkillAudit
