import SkillAudit.Yaml.Token
import SkillAudit.Yaml.Value
import SkillAudit.Number.Reading
import SkillAudit.Text.Quoted
/-!
# SkillAudit.Yaml.Resolve

What a scalar means. A plain one may be null, a boolean, a number or text; a quoted or block one is
text. The tags of the core types ask for their type.
-/

namespace SkillAudit.Yaml.Resolve

/-! ## Numbers -/

/-- The value of a digit in a base of at most sixteen. -/
def digit? (base : Nat) (c : Char) : Option Nat :=
  match hexValue? c with
  | some n => if n < base then some n else none
  | none => none

/-- The number that digits stand for in a base; at least one digit. -/
def natural? (base : Nat) (s : List Char) : Option Nat :=
  if s.isEmpty then none
  else s.foldl (fun acc c => do return (← acc) * base + (← digit? base c)) (some 0)

/-- Whether a text is digits with a leading zero, which is no number. -/
def isPaddedNumber (s : List Char) : Bool :=
  let s := match s with
    | '-' :: r => r
    | '+' :: r => r
    | r => r
  1 < s.length && s.head? == some '0' && s.all Char.isDigit

/-- A number in one of the other bases, marked by two characters. -/
def based? : List Char → Option Nat
  | '0' :: 'x' :: r => natural? 16 r
  | '0' :: 'o' :: r => natural? 8 r
  | '0' :: 'b' :: r => natural? 2 r
  | _ => none

/-- The whole number that a text stands for, of any size. -/
def integer? (s : List Char) : Option Int :=
  match s with
  | '-' :: r =>
    match based? r with
    | some n => some (-(n : Int))
    | none => if isPaddedNumber s then none else (natural? 10 r).map fun n => -(n : Int)
  | _ =>
    let r := match s with
      | '+' :: r => r
      | r => r
    match based? r with
    | some n => some n
    | none => if isPaddedNumber s then none else (natural? 10 r).map fun n => (n : Int)

/-- Whether a decimal is within the range of floating point numbers of 64 bits. -/
def isInRange (d : Decimal) : Bool :=
  let top := d.leadingExponent
  d.digits == 0 || top < 308 ||
    (top == 308 && decide ({ d with negative := false : Decimal }.toRat <
      ((Nat.pow 2 1024 - Nat.pow 2 970 : Nat) : Rat)))

/-- The floating point number that a text stands for. -/
def float? (s : List Char) : Option Numeral :=
  let word := String.ofList s
  if [".inf", ".Inf", ".INF", "+.inf", "+.Inf", "+.INF"].contains word then
    some (.infinity false)
  else if ["-.inf", "-.Inf", "-.INF"].contains word then some (.infinity true)
  else if [".nan", ".NaN", ".NAN"].contains word then some .notANumber
  else
    let (negative, r) := match s with
      | '-' :: r => (true, r)
      | '+' :: r => (false, r)
      | r => (false, r)
    match Decimal.ofUnsigned? negative r with
    | some d => if isInRange d then some (.decimal d.normalize) else none
    | none => none

/-- Null, if a text stands for it. -/
def isNull (s : String) : Bool := ["null", "Null", "NULL", "~"].contains s

/-- The boolean that a text stands for. -/
def bool? (s : String) : Option Bool :=
  if ["true", "True", "TRUE"].contains s then some true
  else if ["false", "False", "FALSE"].contains s then some false
  else none

/-- The value of a whole number; one of more than 64 bits is a problem, and one of more than 128
    bits no whole number at all. -/
def ofInteger? (n : Int) : Option (Except String Value) :=
  if -(Nat.pow 2 63 : Int) ≤ n ∧ n < (Nat.pow 2 64 : Int) then some (.ok (.int n))
  else if 0 ≤ n ∧ n < (Nat.pow 2 128 : Int) then
    some (.error s!"invalid type: integer \x60{n}\x60 as u128, expected any YAML value")
  else if n < 0 ∧ -(Nat.pow 2 127 : Int) ≤ n then
    some (.error s!"invalid type: integer \x60{n}\x60 as i128, expected any YAML value")
  else none

/-! ## Scalars -/

/-- The value of a plain scalar. -/
def plain (s : String) : Except String Value :=
  let cs := s.toList
  if s.isEmpty || isNull s then .ok .null
  else
    match bool? s with
    | some b => .ok (.bool b)
    | none =>
      match (integer? cs).bind ofInteger? with
      | some answer => answer
      | none =>
        if isPaddedNumber cs then .ok (.str s)
        else
          match float? cs with
          | some x => .ok (.float x)
          | none => .ok (.str s)

/-- The tag of a core type. -/
def coreTag (name : String) : String := "tag:yaml.org,2002:" ++ name

/-- The value of a scalar with a tag that is not one of its own, or without a tag. -/
def scalar (tag : Option String) (s : String) (style : ScalarStyle) : Except String Value :=
  let asWritten := if style == .plain then plain s else .ok (.str s)
  let unfit (expected : String) : Except String Value :=
    .error ("invalid value: string " ++ Quoted.quote s ++ ", expected " ++ expected)
  match tag with
  | none => asWritten
  | some t =>
    if t == coreTag "bool" then
      match bool? s with
      | some b => .ok (.bool b)
      | none => unfit "a boolean"
    else if t == coreTag "int" then
      match (integer? s.toList).bind ofInteger? with
      | some answer => answer
      | none => unfit "an integer"
    else if t == coreTag "float" then
      match float? s.toList with
      | some x => .ok (.float x)
      | none => unfit "a float"
    else if t == coreTag "null" then
      if isNull s then .ok .null else unfit "null"
    else if t.startsWith "!" then asWritten
    else .ok (.str s)

/-- The tag of a value of its own: what follows the exclamation mark, or that mark alone. -/
def ownTag? (tag : Option String) : Option String :=
  match tag.map String.toList with
  | some ['!'] => some "!"
  | some ('!' :: r) => some (String.ofList r)
  | _ => none

end SkillAudit.Yaml.Resolve
