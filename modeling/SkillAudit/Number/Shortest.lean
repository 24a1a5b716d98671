import SkillAudit.Number.Reading
/-!
# SkillAudit.Number.Shortest

Binary floating point numbers of 64 bits, taken apart exactly, and the shortest decimals that read
back as them. A number stands for every real that rounds to it; among the decimals with the fewest
digits in that interval the one nearest to the number is chosen.
-/

namespace SkillAudit

/-- A finite binary number `mantissa * 2 ^ exponent`. -/
structure Binary where
  negative : Bool
  mantissa : Nat
  exponent : Int
  /-- Whether the gap to the next smaller number is half as wide as the one to the next larger,
      as it is for the powers of two above the smallest. -/
  atPower : Bool

namespace Binary

/-- The parts of a number, unless it is infinite or none. -/
def ofBits? (bits : UInt64) : Option Binary :=
  let n := bits.toNat
  let negative := n / Nat.pow 2 63 == 1
  let biased : Nat := n / Nat.pow 2 52 % 2048
  let part : Nat := n % Nat.pow 2 52
  if biased = 2047 then none
  else if biased = 0 then some ⟨negative, part, -1074, false⟩
  else some ⟨negative, part + Nat.pow 2 52, (biased : Int) - 1075, part == 0 && 1 < biased⟩

/-- The reading of 64 bits. -/
def readingOfBits (bits : UInt64) : Reading :=
  match ofBits? bits with
  | some b =>
    let m : Rat :=
      if 0 ≤ b.exponent then ((b.mantissa * Nat.pow 2 b.exponent.toNat : Nat) : Rat)
      else (b.mantissa : Rat) / (Nat.pow 2 (-b.exponent).toNat : Rat)
    .finite b.negative m
  | none =>
    if bits.toNat % Nat.pow 2 52 = 0 then .infinity (bits.toNat / Nat.pow 2 63 == 1) else .notANumber

/-- The interval of reals that round to the number, over a common denominator: the lower end, the
    number, the upper end and the denominator. -/
def interval (b : Binary) : Nat × Nat × Nat × Nat :=
  let up := Nat.pow 2 b.exponent.toNat
  let down := Nat.pow 2 (-b.exponent).toNat
  let below := if b.atPower then 1 else 2
  ((4 * b.mantissa - below) * up, 4 * b.mantissa * up, (4 * b.mantissa + 2) * up, 4 * down)

/-- The decimal of `digits` digits that is nearest to the number and lies in its interval.
    `top` is the exponent of the first digit of the number. -/
def nearest? (b : Binary) (top : Int) (digits : Nat) : Option Decimal :=
  let (low, value, high, den) := b.interval
  let e : Int := top - (digits : Int) + 1
  let up := Nat.pow 10 e.toNat
  let down := Nat.pow 10 (-e).toNat
  -- a candidate `c` stands for `c * up / down`
  let floor := value * down / (den * up)
  let inside (c : Nat) : Bool :=
    let x := c * up * den
    if b.mantissa % 2 = 0 then low * down ≤ x && x ≤ high * down
    else low * down < x && x < high * down
  let distance (c : Nat) : Nat :=
    let x := c * up * den
    let v := value * down
    if x ≤ v then v - x else x - v
  let pick (c : Nat) : Option Decimal := some ⟨b.negative, c, e⟩
  match inside floor, inside (floor + 1) with
  | false, false => none
  | true, false => pick floor
  | false, true => pick (floor + 1)
  | true, true =>
    if distance floor < distance (floor + 1) then pick floor
    else if distance (floor + 1) < distance floor then pick (floor + 1)
    else if floor % 2 = 0 then pick floor
    else pick (floor + 1)

/-- The exponent of the first decimal digit of the number, by search from above. -/
def topExponent (b : Binary) : Int :=
  let (_, value, _, den) := b.interval
  if den ≤ value then ((toString (value / den)).length : Int) - 1
  else
    -- the quotient is below one: count the steps until ten times it reaches one
    go value den 400 (-1)
where
  /-- Multiplies by ten until the quotient reaches one. -/
  go (value den : Nat) : Nat → Int → Int
    | 0, e => e
    | n + 1, e => if den ≤ value * 10 then e else go (value * 10) den n (e - 1)

/-- The shortest decimal that reads back as the number. -/
def shortest (b : Binary) : Decimal :=
  if b.mantissa = 0 then ⟨b.negative, 0, 0⟩
  else
    let top := b.topExponent
    ((List.range 17).findSome? fun n => b.nearest? top (n + 1)).getD ⟨b.negative, 0, 0⟩
      |>.normalize

end Binary

end SkillAudit
