/-!
# SkillAudit.Number.Decimal

Decimal numbers: a sign, digits and a power of ten. This is what numbers are read into and what
they are written from; the sign is kept apart, so that a zero may be negative.
-/

namespace SkillAudit

/-- The number `digits * 10 ^ exponent`, negative or not. -/
structure Decimal where
  negative : Bool
  digits : Nat
  exponent : Int
deriving DecidableEq, Repr

/-- What a text that stands for a number may mean. -/
inductive Numeral where
  | notANumber
  | infinity (negative : Bool)
  | decimal (d : Decimal)
deriving DecidableEq, Repr

namespace Decimal

/-- A whole number. -/
def ofInt (n : Int) : Decimal := ⟨n < 0, n.natAbs, 0⟩

/-- Zeros, as many as asked for. -/
def zeros (n : Nat) : String := String.ofList (List.replicate n '0')

/-- The digits without zeros at their end, which move into the exponent. -/
def normalize (d : Decimal) : Decimal :=
  if d.digits = 0 then { d with exponent := 0 }
  else go d.digits d
where
  /-- Drops at most `n` zeros. -/
  go : Nat → Decimal → Decimal
    | 0, d => d
    | n + 1, d =>
      if d.digits % 10 = 0 then go n { d with digits := d.digits / 10, exponent := d.exponent + 1 }
      else d

/-- The value. -/
def toRat (d : Decimal) : Rat :=
  let magnitude : Rat :=
    if 0 ≤ d.exponent then ((d.digits * Nat.pow 10 d.exponent.toNat : Nat) : Rat)
    else (d.digits : Rat) / (Nat.pow 10 (-d.exponent).toNat : Rat)
  if d.negative then -magnitude else magnitude

/-! ## Writing -/

/-- The decimal exponent of the first digit. -/
def leadingExponent (d : Decimal) : Int :=
  (toString d.digits).length + d.exponent - 1

/-- Digits and point, without an exponent; `whole` is what follows a number without a fraction. -/
def positional (whole : String) (d : Decimal) : String :=
  let sign := if d.negative then "-" else ""
  let ds := toString d.digits
  if 0 ≤ d.exponent then sign ++ ds ++ zeros d.exponent.toNat ++ whole
  else
    let places := (-d.exponent).toNat
    if places < ds.length then
      let before := ds.toList.take (ds.length - places)
      let behind := ds.toList.drop (ds.length - places)
      sign ++ String.ofList before ++ "." ++ String.ofList behind
    else sign ++ "0." ++ zeros (places - ds.length) ++ ds

/-- Mantissa and exponent; `plus` is the sign of an exponent that is not negative. -/
def scientific (plus : String) (d : Decimal) : String :=
  let sign := if d.negative then "-" else ""
  let mantissa :=
    match (toString d.digits).toList with
    | [] => ""
    | [c] => String.ofList [c]
    | c :: rest => String.ofList (c :: '.' :: rest)
  let e := d.leadingExponent
  sign ++ mantissa ++ "e" ++ (if 0 ≤ e then plus else "-") ++ toString e.natAbs

/-- The text of a number in prose: positional, and bare when it is whole. -/
def plain (d : Decimal) : String :=
  positional "" d.normalize

/-- The text of a number that shows it is no count: positional as long as the exponent of the first
    digit lies between -5 and 15, with an exponent otherwise, and never without point or
    exponent. -/
def marked (plus : String) (d : Decimal) : String :=
  let d := d.normalize
  if d.digits = 0 then positional ".0" d
  else if -5 ≤ d.leadingExponent ∧ d.leadingExponent ≤ 15 then positional ".0" d
  else scientific plus d

/-- The text of a number in a report for machines. -/
def machine (d : Decimal) : String := marked "+" d

/-! ## Reading -/

/-- A run of ASCII digits as a number, after the digits `acc`, with how many there are. -/
def readDigits (acc count : Nat) : List Char → Nat × Nat × List Char
  | [] => (acc, count, [])
  | c :: rest =>
    if c.isDigit then readDigits (acc * 10 + (c.toNat - 48)) (count + 1) rest
    else (acc, count, c :: rest)

/-- An exponent, if one stands here and is well-formed. -/
def readExponent? : List Char → Option (Int × List Char)
  | e :: rest =>
    if e = 'e' ∨ e = 'E' then
      let (negative, ds) := match rest with
        | '-' :: r => (true, r)
        | '+' :: r => (false, r)
        | r => (false, r)
      match readDigits 0 0 ds with
      | (_, 0, _) => none
      | (n, _, r) => some (if negative then -(n : Int) else n, r)
    else some (0, e :: rest)
  | [] => some (0, [])

/-- Reads digits with an optional point among, before or behind them, and an optional exponent. -/
def ofUnsigned? (negative : Bool) (s : List Char) : Option Decimal :=
  let (whole, wholeCount, rest) := readDigits 0 0 s
  let (all, allCount, rest) := match rest with
    | '.' :: r => readDigits whole wholeCount r
    | r => (whole, wholeCount, r)
  if allCount = 0 then none
  else
    match readExponent? rest with
    | some (e, []) => some ⟨negative, all, e - (allCount - wholeCount : Nat)⟩
    | _ => none

end Decimal

namespace Numeral

/-- Reads a number in any of the usual spellings: an optional sign, then a decimal, or a word for
    infinity or for no number, in any case. -/
def ofText? (s : List Char) : Option Numeral :=
  let (negative, rest) := match s with
    | '-' :: r => (true, r)
    | '+' :: r => (false, r)
    | r => (false, r)
  let word := String.ofList (rest.map Char.toLower)
  if word = "inf" ∨ word = "infinity" then some (.infinity negative)
  else if word = "nan" then some .notANumber
  else (Decimal.ofUnsigned? negative rest).map .decimal

end Numeral

end SkillAudit
