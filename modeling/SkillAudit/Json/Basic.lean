import SkillAudit.Number.Quantity
/-!
# SkillAudit.Json.Basic

JSON values. Numbers are whole numbers or decimals, and the members of an object keep their order
and their repetitions, so that nothing a reader has to judge is lost in the value.
-/

namespace SkillAudit

/-- A JSON value. -/
inductive Json where
  | null
  | bool (b : Bool)
  | int (n : Int)
  | decimal (d : Decimal)
  | str (s : String)
  /-- A string that holds half of a surrogate pair: it is well-formed and stands for no text. -/
  | halfPair
  | arr (items : List Json)
  | obj (members : List (String × Json))
deriving Repr, Inhabited

namespace Json

/-- The value of a member, the last one of that name. -/
def get? (name : String) : Json → Option Json
  | obj members => (members.reverse.find? fun m => m.1 == name).map (·.2)
  | _ => none

/-- A number as a value; infinities and what is no number become null. -/
def ofQuantity {α : Type} [Quantity α] (x : α) : Json :=
  if Quantity.isFinite x then decimal (Quantity.shortest x) else null

/-- A count as a value. -/
def ofNat (n : Nat) : Json := int n

/-- A value that may be missing, as null if it is. -/
def ofOption {β : Type} (f : β → Json) : Option β → Json
  | some b => f b
  | none => null

/-- A list of texts. -/
def ofStrings (xs : List String) : Json := arr (xs.map str)

/-! ## The value of a number

A decimal is scaled as it is read: its digits are taken to the nearest number, which is then
multiplied or divided by a power of ten. -/

/-- Divides by `10 ^ 308` until the exponent that is left is at least -308, or nothing is left of
    the number. -/
def scaleDown {α : Type} [Quantity α] : Nat → α → Int → α
  | 0, x, _ => x
  | n + 1, x, e =>
    if -308 ≤ e then x / Quantity.ofDecimal ⟨false, 1, -e⟩
    else if Quantity.le x (Quantity.ofNat 0) then x
    else scaleDown n (x / Quantity.ofDecimal ⟨false, 1, 308⟩) (e + 308)

/-- The number that a decimal stands for, unless it is too large to be one. -/
def quantityOfDecimal? {α : Type} [Quantity α] (d : Decimal) : Option α :=
  let x : α := Quantity.ofNat d.digits
  let signed (x : α) : α := if d.negative then -x else x
  if d.digits = 0 then some (signed x)
  else if 308 < d.exponent then none
  else if 0 ≤ d.exponent then
    let x := x * Quantity.ofDecimal ⟨false, 1, d.exponent⟩
    if Quantity.isFinite x then some (signed x) else none
  else some (signed (scaleDown ((-d.exponent).toNat + 1) x d.exponent))

/-- The number of a value, whole or not. -/
def toQuantity? {α : Type} [Quantity α] : Json → Option α
  | int n => some (if n < 0 then -Quantity.ofNat n.natAbs else Quantity.ofNat n.natAbs)
  | decimal d => quantityOfDecimal? d
  | _ => none

/-- The count of a value: a whole number of at most 64 bits. -/
def toCount? : Json → Option Nat
  | int n => if 0 ≤ n ∧ n.toNat ≤ Reading.largestCount then some n.toNat else none
  | _ => none

/-- The text of a value. -/
def toText? : Json → Option String
  | str s => some s
  | _ => none

end Json

end SkillAudit
