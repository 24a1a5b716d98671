import SkillAudit.Number.Decimal
/-!
# SkillAudit.Yaml.Value

The values of YAML texts.
-/

namespace SkillAudit.Yaml

/-- A value. Whole numbers have at most 64 bits. -/
inductive Value where
  | null
  | bool (b : Bool)
  | int (n : Int)
  | float (x : Numeral)
  | str (s : String)
  | seq (items : List Value)
  | map (entries : List (Value × Value))
  /-- A value with a tag of its own, written without its exclamation mark. -/
  | tagged (tag : String) (value : Value)
deriving Repr, BEq, Inhabited

namespace Value

/-- The value behind its tags. -/
def untagged : Value → Value
  | tagged _ v => v.untagged
  | v => v

/-- The text of a value, tagged or not. -/
def text? (v : Value) : Option String :=
  match v.untagged with
  | str s => some s
  | _ => none

/-- The entries of a value, tagged or not. -/
def entries? (v : Value) : Option (List (Value × Value)) :=
  match v.untagged with
  | map entries => some entries
  | _ => none

/-- The value of a key. -/
def find? (key : String) (entries : List (Value × Value)) : Option Value :=
  (entries.find? fun e =>
    match e.1 with
    | str s => s == key
    | _ => false).map (·.2)

/-- The texts of a value: its own, or those of the items of a sequence. -/
def texts : Value → List String
  | str s => [s]
  | seq items => items.filterMap text?
  | _ => []

/-- The number that a value stands for, also when it is written as text. -/
def numeral? : Value → Option Numeral
  | int n => some (.decimal (.ofInt n))
  | float x => some x
  | _ => none

end Value

end SkillAudit.Yaml
