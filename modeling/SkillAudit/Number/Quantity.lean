import SkillAudit.Number.Shortest
/-!
# SkillAudit.Number.Quantity

The numbers of scores, shares, costs and rates. What is computed from them is written once, over
any type that offers these operations, and there are two: the floating point numbers, with which
the program runs, and the rationals, in which the same definitions are exact.
-/

namespace SkillAudit

/-- A type of numbers to compute scores, shares and costs with. -/
class Quantity (α : Type) extends Add α, Sub α, Mul α, Div α, Neg α where
  /-- The number nearest to a count. -/
  ofNat : Nat → α
  /-- The number nearest to what a text means, if the type has it. -/
  ofNumeral? : Numeral → Option α
  /-- Strictly smaller. -/
  lt : α → α → Bool
  /-- Smaller or equal. -/
  le : α → α → Bool
  /-- The nearest whole number, a half away from zero. -/
  round : α → α
  /-- The exact meaning. -/
  reading : α → Reading
  /-- The shortest decimal that reads back as a finite number. -/
  shortest : α → Decimal

namespace Quantity

variable {α : Type} [Quantity α]

/-- The number nearest to a decimal. -/
def ofDecimal (d : Decimal) : α :=
  (ofNumeral? (.decimal d)).getD (ofNat 0)

/-- The decimal `digits / 10 ^ places`. -/
def fraction (digits places : Nat) : α :=
  ofDecimal ⟨false, digits, -places⟩

/-- The distance from zero. -/
def abs (x : α) : α :=
  if lt x (ofNat 0) then -x else x

/-- The larger of a number and zero, and zero for what is no number. -/
def atLeastZero (x : α) : α :=
  if lt (ofNat 0) x then x else ofNat 0

/-- A number held between zero and `top`. -/
def clampTo (top x : α) : α :=
  if lt x (ofNat 0) then ofNat 0
  else if lt top x then top
  else x

/-- A number rounded to a multiple of `1 / scale`. -/
def roundTo (scale : Nat) (x : α) : α :=
  round (x * ofNat scale) / ofNat scale

/-- The sum, from the left. It starts at the negative zero, which changes no number. -/
def sum (xs : List α) : α :=
  xs.foldl (· + ·) (-ofNat 0)

/-- The count that a number stands for. -/
def toCount (x : α) : Nat :=
  (reading x).count

/-- Whether a number is a rational. -/
def isFinite (x : α) : Bool :=
  (reading x).isFinite

/-- The text with a fixed number of places. -/
def fixed (places : Nat) (x : α) : String :=
  (reading x).fixed places

/-- The text of a number in prose. -/
def plain (x : α) : String :=
  match reading x with
  | .finite _ _ => (shortest x).plain
  | r => r.fixed 0

end Quantity

/-! ## The two types -/

/-- The floating point number nearest to a decimal. Far outside the range of exponents the answer
    is known without computing the power of ten. -/
def Decimal.toFloat (d : Decimal) : Float :=
  let top := d.leadingExponent
  let magnitude : Float :=
    if d.digits = 0 ∨ top < -400 then 0
    else if 400 < top then 1 / 0
    else if 0 ≤ d.exponent then Float.ofScientific d.digits false d.exponent.toNat
    else Float.ofScientific d.digits true (-d.exponent).toNat
  if d.negative then -magnitude else magnitude

instance : Quantity Float where
  ofNat n := Float.ofNat n
  ofNumeral?
    | .notANumber => some (0 / 0)
    | .infinity negative => some (if negative then -(1 / 0) else 1 / 0)
    | .decimal d => some d.toFloat
  lt x y := decide (x < y)
  le x y := decide (x ≤ y)
  round := Float.round
  reading x := Binary.readingOfBits x.toBits
  shortest x := ((Binary.ofBits? x.toBits).map Binary.shortest).getD ⟨false, 0, 0⟩

/-- The nearest whole number, a half away from zero. -/
def Quantity.roundHalfAway (x : Rat) : Rat :=
  if x < 0 then -((-x + 1 / 2).floor : Rat) else ((x + 1 / 2).floor : Rat)

/-- A decimal for a rational: exact where one of at most 30 places exists, else cut there. -/
def Quantity.decimalOfRat (x : Rat) : Decimal :=
  let magnitude := if x < 0 then -x else x
  (⟨x < 0, (magnitude * (Nat.pow 10 30 : Nat)).floor.toNat, -30⟩ : Decimal).normalize

instance : Quantity Rat where
  ofNat n := (n : Rat)
  ofNumeral?
    | .decimal d => some d.toRat
    | _ => none
  lt x y := decide (x < y)
  le x y := decide (x ≤ y)
  round := Quantity.roundHalfAway
  reading := Reading.ofRat
  shortest := Quantity.decimalOfRat

end SkillAudit
