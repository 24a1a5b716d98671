import SkillAudit.Number.Decimal
/-!
# SkillAudit.Number.Reading

What a number of the program is, read exactly: a rational with its sign, an infinity, or no number.
Counts and texts with a fixed number of places depend on this alone.
-/

namespace SkillAudit

/-- The exact meaning of a number. The sign of a finite number is kept apart, so that a zero may
    be negative; its magnitude is not negative. -/
inductive Reading where
  | notANumber
  | infinity (negative : Bool)
  | finite (negative : Bool) (magnitude : Rat)

namespace Reading

/-- The reading of a rational. -/
def ofRat (x : Rat) : Reading :=
  if x < 0 then .finite true (-x) else .finite false x

/-- Whether it is a rational. -/
def isFinite : Reading → Bool
  | finite _ _ => true
  | _ => false

/-- The largest count: counts are held in words of 64 bits. -/
def largestCount : Nat := Nat.pow 2 64 - 1

/-- The count that a number stands for: its whole part, at most the largest count, and nothing
    for a negative number or none. -/
def count : Reading → Nat
  | notANumber => 0
  | infinity negative => if negative then 0 else largestCount
  | finite negative m => if negative then 0 else min m.floor.toNat largestCount

/-- A fraction rounded to the nearest whole number, a half to the even neighbour. -/
def roundHalfEven (x : Rat) : Nat :=
  let n := x.floor.toNat
  let rest := x - (n : Rat)
  if rest < 1 / 2 then n
  else if 1 / 2 < rest then n + 1
  else if n % 2 = 0 then n
  else n + 1

/-- The text with a fixed number of places, rounded from the exact value. -/
def fixed (places : Nat) : Reading → String
  | notANumber => "NaN"
  | infinity negative => if negative then "-inf" else "inf"
  | finite negative m =>
    let scaled := roundHalfEven (m * (Nat.pow 10 places : Rat))
    let sign := if negative then "-" else ""
    let whole := toString (scaled / Nat.pow 10 places)
    if places = 0 then sign ++ whole
    else
      let part := toString (scaled % Nat.pow 10 places)
      sign ++ whole ++ "." ++ Decimal.zeros (places - part.length) ++ part

end Reading

end SkillAudit
