/-!
# SkillAudit.Text.CharSet

Sets of characters, held as the increasing list of code points at which membership changes.
The representation is half the size of a list of ranges and needs one search: a character
belongs to the set exactly when an odd number of bounds lie at or below it.
-/

namespace SkillAudit

/-- A set of characters. The code points from each bound at an even place up to, and without,
    the bound after it belong to the set. -/
structure CharSet where
  bounds : Array Nat

namespace CharSet

/-- The number of bounds at or below `n` among those from `lo` to `hi`, plus `lo`. Every step
    halves the interval, so as many steps as `hi` has binary digits are enough. -/
def rankBetween (s : CharSet) (n : Nat) : Nat → Nat → Nat → Nat
  | 0, lo, _ => lo
  | steps + 1, lo, hi =>
    if lo < hi then
      let mid := (lo + hi) / 2
      if s.bounds.getD mid 0 ≤ n then s.rankBetween n steps (mid + 1) hi
      else s.rankBetween n steps lo mid
    else lo

/-- The number of bounds at or below `n`. -/
def rank (s : CharSet) (n : Nat) : Nat :=
  s.rankBetween n (s.bounds.size.log2 + 1) 0 s.bounds.size

/-- Membership. -/
def contains (s : CharSet) (c : Char) : Bool :=
  s.rank c.toNat % 2 == 1

end CharSet

end SkillAudit
