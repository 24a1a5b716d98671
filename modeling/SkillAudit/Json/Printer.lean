import SkillAudit.Json.Basic
/-!
# SkillAudit.Json.Printer

The text of a JSON value, on one line or indented by two spaces a level.
-/

namespace SkillAudit.Json

/-- A hexadecimal digit. -/
def hexDigit (n : Nat) : Char :=
  if n < 10 then Char.ofNat (48 + n) else Char.ofNat (87 + n)

/-- A character of a string: quotation marks, backslashes and controls are escaped, all else
    stands for itself. -/
def escapeChar (c : Char) : List Char :=
  if c = '"' then ['\\', '"']
  else if c = '\\' then ['\\', '\\']
  else if c = '\n' then ['\\', 'n']
  else if c = '\r' then ['\\', 'r']
  else if c = '\t' then ['\\', 't']
  else if c = '\x08' then ['\\', 'b']
  else if c = '\x0c' then ['\\', 'f']
  else if c.toNat < 32 then
    ['\\', 'u', '0', '0', hexDigit (c.toNat / 16), hexDigit (c.toNat % 16)]
  else [c]

/-- A string in quotation marks. -/
def quote (s : String) : String :=
  String.ofList ('"' :: s.toList.flatMap escapeChar ++ ['"'])

/-- The text of a value that holds no others. -/
def atom : Json → String
  | null => "null"
  | bool b => if b then "true" else "false"
  | int n => toString n
  | decimal d => d.machine
  | str s => quote s
  | halfPair => quote "\uFFFD"
  | arr _ => "[]"
  | obj _ => "\x7b\x7d"

mutual

/-- The text on one line. -/
def compact : Json → String
  | arr items => "[" ++ String.intercalate "," (compactItems items) ++ "]"
  | obj members => "\x7b" ++ String.intercalate "," (compactMembers members) ++ "\x7d"
  | v => atom v

/-- The texts of the items of an array. -/
def compactItems : List Json → List String
  | [] => []
  | v :: rest => compact v :: compactItems rest

/-- The texts of the members of an object. -/
def compactMembers : List (String × Json) → List String
  | [] => []
  | (name, v) :: rest => (quote name ++ ":" ++ compact v) :: compactMembers rest

end

/-- A line break and the indent of a level. -/
def newLine (level : Nat) : String :=
  "\n" ++ String.ofList (List.replicate (2 * level) ' ')

mutual

/-- The text over several lines, for a value that stands at a level of indent. -/
def prettyAt (level : Nat) : Json → String
  | arr [] => "[]"
  | obj [] => "\x7b\x7d"
  | arr items =>
    "[" ++ String.intercalate "," (prettyItems (level + 1) items) ++ newLine level ++ "]"
  | obj members =>
    "\x7b" ++ String.intercalate "," (prettyMembers (level + 1) members) ++ newLine level ++ "\x7d"
  | v => atom v

/-- The lines of the items of an array. -/
def prettyItems (level : Nat) : List Json → List String
  | [] => []
  | v :: rest => (newLine level ++ prettyAt level v) :: prettyItems level rest

/-- The lines of the members of an object. -/
def prettyMembers (level : Nat) : List (String × Json) → List String
  | [] => []
  | (name, v) :: rest =>
    (newLine level ++ quote name ++ ": " ++ prettyAt level v) :: prettyMembers level rest

end

/-- The text over several lines. -/
def pretty (v : Json) : String := prettyAt 0 v

mutual

/-- The value with the members of every object in the order of their names. -/
def sortMembers : Json → Json
  | arr items => arr (sortEach items)
  | obj members => obj ((sortEachMember members).mergeSort fun a b => decide (a.1 ≤ b.1))
  | v => v

/-- Sorts the members in every item. -/
def sortEach : List Json → List Json
  | [] => []
  | v :: rest => sortMembers v :: sortEach rest

/-- Sorts the members in every member. -/
def sortEachMember : List (String × Json) → List (String × Json)
  | [] => []
  | (name, v) :: rest => (name, sortMembers v) :: sortEachMember rest

end

end SkillAudit.Json
