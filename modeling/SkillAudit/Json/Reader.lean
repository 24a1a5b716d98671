import SkillAudit.Json.Basic
/-!
# SkillAudit.Json.Reader

Reading JSON text. The grammar is followed to the letter: no comments, no trailing commas, no
leading zeros, and nothing but white space behind the value.
-/

namespace SkillAudit.Json

/-- The white space of JSON. -/
def isSpace (c : Char) : Bool :=
  c == ' ' || c == '\n' || c == '\t' || c == '\r'

/-- The text without white space at its start. -/
def skipSpace (s : List Char) : List Char := s.dropWhile isSpace

/-! ## Numbers -/

/-- The largest number of 64 bits, beyond which the digits of a number are no longer collected. -/
def maxWord : Nat := Nat.pow 2 64 - 1

/-- Reads the digits before the point. While they fit a word they are collected; behind that each
    one only raises the exponent. -/
def wholeDigits (acc : Nat) (full : Bool) (exponent : Int) :
    List Char → Nat × Bool × Int × List Char
  | [] => (acc, full, exponent, [])
  | c :: rest =>
    if c.isDigit then
      let next := acc * 10 + (c.toNat - 48)
      if full || maxWord < next then wholeDigits acc true (exponent + 1) rest
      else wholeDigits next false exponent rest
    else (acc, full, exponent, c :: rest)

/-- Reads the digits behind the point. The first one that does not fit a word is dropped, and all
    behind it. -/
def placeDigits (acc : Nat) (full : Bool) (exponent : Int) : List Char → Nat × Int × List Char
  | [] => (acc, exponent, [])
  | c :: rest =>
    if c.isDigit then
      let next := acc * 10 + (c.toNat - 48)
      if full || maxWord < next then placeDigits acc true exponent rest
      else placeDigits next false (exponent - 1) rest
    else (acc, exponent, c :: rest)

/-- Reads a number behind its sign. -/
def readUnsigned? (negative : Bool) (s : List Char) : Option (Json × List Char) :=
  match s with
  | '0' :: c :: _ => if c.isDigit then none else go
  | _ => go
where
  /-- Reads a number that has no leading zero. -/
  go : Option (Json × List Char) :=
    if !(s.head?.any Char.isDigit) then none
    else
      let (acc, full, exponent, rest) := wholeDigits 0 false 0 s
      let integer : Json :=
        if full then .decimal ⟨negative, acc, exponent⟩
        else if !negative then .int acc
        else if acc = 0 ∨ Nat.pow 2 63 < acc then .decimal ⟨true, acc, 0⟩
        else .int (-(acc : Int))
      let fractional : Option (Bool × Nat × Int × List Char) :=
        match rest with
        | '.' :: c :: r =>
          if c.isDigit then
            let (acc, e, r) := placeDigits acc false exponent (c :: r)
            some (true, acc, e, r)
          else none
        | '.' :: [] => none
        | r => some (false, acc, exponent, r)
      match fractional with
      | none => none
      | some (hasPoint, acc, e, rest) =>
        let hasExponent := rest.head?.any fun c => c == 'e' || c == 'E'
        match Decimal.readExponent? rest with
        | none => none
        | some (shift, rest) =>
          if hasPoint || hasExponent then some (.decimal ⟨negative, acc, e + shift⟩, rest)
          else some (integer, rest)

/-- Reads a number. -/
def readNumber? : List Char → Option (Json × List Char)
  | '-' :: rest => readUnsigned? true rest
  | s => readUnsigned? false s

/-! ## Strings -/

/-- The value of a hexadecimal digit. -/
def hexValue? (c : Char) : Option Nat :=
  if c.isDigit then some (c.toNat - 48)
  else if 'a' ≤ c ∧ c ≤ 'f' then some (c.toNat - 87)
  else if 'A' ≤ c ∧ c ≤ 'F' then some (c.toNat - 55)
  else none

/-- Reads four hexadecimal digits. -/
def readUnit? : List Char → Option (Nat × List Char)
  | a :: b :: c :: d :: rest => do
    let a ← hexValue? a
    let b ← hexValue? b
    let c ← hexValue? c
    let d ← hexValue? d
    return (((a * 16 + b) * 16 + c) * 16 + d, rest)
  | _ => none

/-- The character that an escape of one letter stands for. -/
def escaped? (c : Char) : Option Char :=
  if c = '"' ∨ c = '\\' ∨ c = '/' then some c
  else if c = 'b' then some '\x08'
  else if c = 'f' then some '\x0c'
  else if c = 'n' then some '\n'
  else if c = 'r' then some '\r'
  else if c = 't' then some '\t'
  else none

/-- Reads the character of an escape behind its `\u`: one unit, or a pair of surrogates. An
    unpaired surrogate gives no character, and the reading goes on behind it. -/
def readEscapedUnit? (s : List Char) : Option (Option Char × List Char) :=
  match readUnit? s with
  | none => none
  | some (n, rest) =>
    if 0xDC00 ≤ n ∧ n ≤ 0xDFFF then some (none, rest)
    else if 0xD800 ≤ n ∧ n ≤ 0xDBFF then
      match rest with
      | '\\' :: 'u' :: more =>
        match readUnit? more with
        | some (m, rest') =>
          if 0xDC00 ≤ m ∧ m ≤ 0xDFFF then
            some (some (Char.ofNat ((n - 0xD800) * 0x400 + (m - 0xDC00) + 0x10000)), rest')
          else some (none, rest)
        | none => none
      | _ => some (none, rest)
    else some (some (Char.ofNat n), rest)

/-- Reads a string behind its opening mark, over at most `fuel` characters. `text` holds what was
    read, last character first, and is none once half of a pair was met. -/
def readString? : Nat → Option (List Char) → List Char → Option (Option String × List Char)
  | 0, _, _ => none
  | _ + 1, _, [] => none
  | fuel + 1, text, c :: rest =>
    if c = '"' then some (text.map fun t => String.ofList t.reverse, rest)
    else if c.toNat < 32 then none
    else if c = '\\' then
      match rest with
      | 'u' :: more =>
        match readEscapedUnit? more with
        | none => none
        | some (ch, rest) => readString? fuel (text.bind fun t => ch.map (· :: t)) rest
      | e :: rest =>
        match escaped? e with
        | none => none
        | some ch => readString? fuel (text.map (ch :: ·)) rest
      | [] => none
    else readString? fuel (text.map (c :: ·)) rest

/-! ## Values -/

mutual

/-- Reads a value. `fuel` bounds the depth, the number of items and the length of strings; twice
    the number of characters is enough, since every bracket and every item takes two steps. -/
def readValue? (fuel : Nat) (s : List Char) : Option (Json × List Char) :=
  match fuel with
  | 0 => none
  | fuel + 1 =>
    match skipSpace s with
    | 'n' :: 'u' :: 'l' :: 'l' :: rest => some (.null, rest)
    | 't' :: 'r' :: 'u' :: 'e' :: rest => some (.bool true, rest)
    | 'f' :: 'a' :: 'l' :: 's' :: 'e' :: rest => some (.bool false, rest)
    | '"' :: rest =>
      (readString? fuel (some []) rest).map fun p =>
        (match p.1 with | some t => .str t | none => .halfPair, p.2)
    | '[' :: rest =>
      match skipSpace rest with
      | ']' :: rest => some (.arr [], rest)
      | s => readItems? fuel [] s
    | '\x7b' :: rest =>
      match skipSpace rest with
      | '\x7d' :: rest => some (.obj [], rest)
      | s => readMembers? fuel [] s
    | s => readNumber? s

/-- Reads the items of an array that are left; `read` holds the others, last one first. -/
def readItems? (fuel : Nat) (read : List Json) (s : List Char) : Option (Json × List Char) :=
  match fuel with
  | 0 => none
  | fuel + 1 =>
    match readValue? fuel s with
    | none => none
    | some (v, rest) =>
      match skipSpace rest with
      | ',' :: rest => readItems? fuel (v :: read) rest
      | ']' :: rest => some (.arr (v :: read).reverse, rest)
      | _ => none

/-- Reads the members of an object that are left; `read` holds the others, last one first. -/
def readMembers? (fuel : Nat) (read : List (String × Json)) (s : List Char) :
    Option (Json × List Char) :=
  match fuel with
  | 0 => none
  | fuel + 1 =>
    match skipSpace s with
    | '"' :: rest =>
      match readString? fuel (some []) rest with
      | some (some name, rest) =>
        match skipSpace rest with
        | ':' :: rest =>
          match readValue? fuel rest with
          | none => none
          | some (v, rest) =>
            match skipSpace rest with
            | ',' :: rest => readMembers? fuel ((name, v) :: read) rest
            | '\x7d' :: rest => some (.obj ((name, v) :: read).reverse, rest)
            | _ => none
        | _ => none
      | _ => none
    | _ => none

end

/-- Reads a text that is one value. -/
def ofText? (s : String) : Option Json :=
  let cs := s.toList
  match readValue? (2 * cs.length + 2) cs with
  | some (v, rest) => if (skipSpace rest).isEmpty then some v else none
  | none => none

end SkillAudit.Json
