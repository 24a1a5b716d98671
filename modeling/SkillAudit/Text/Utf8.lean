/-!
# SkillAudit.Text.Utf8

Reading bytes as text. Where the bytes are not UTF-8, every longest piece that begins a character
without completing it, and every byte that begins none, is read as one replacement character.
-/

namespace SkillAudit.Utf8

/-- What stands for bytes that are no text. -/
def replacement : Char := '\uFFFD'

/-- What a leading byte announces: how many bytes follow it, the bits it carries, and the range in
    which the first of the following bytes must lie. -/
structure Lead where
  trailing : Nat
  bits : Nat
  low : Nat
  high : Nat

/-- Reads a leading byte of more than one. -/
def lead? (b : Nat) : Option Lead :=
  if 0xC2 ≤ b ∧ b ≤ 0xDF then some ⟨1, b - 0xC0, 0x80, 0xBF⟩
  else if b = 0xE0 then some ⟨2, 0, 0xA0, 0xBF⟩
  else if b = 0xED then some ⟨2, 0xD, 0x80, 0x9F⟩
  else if 0xE1 ≤ b ∧ b ≤ 0xEF then some ⟨2, b - 0xE0, 0x80, 0xBF⟩
  else if b = 0xF0 then some ⟨3, 0, 0x90, 0xBF⟩
  else if 0xF1 ≤ b ∧ b ≤ 0xF3 then some ⟨3, b - 0xF0, 0x80, 0xBF⟩
  else if b = 0xF4 then some ⟨3, 4, 0x80, 0x8F⟩
  else none

/-- A character of which bytes are still to come. -/
structure Pending where
  missing : Nat
  bits : Nat
  low : Nat
  high : Nat

/-- Reads the bytes that are left. -/
def decodeFrom : Option Pending → List UInt8 → List Char
  | none, [] => []
  | some _, [] => [replacement]
  | some p, b :: rest =>
    let n := b.toNat
    if p.low ≤ n ∧ n ≤ p.high then
      let bits := p.bits * 64 + (n - 0x80)
      if p.missing ≤ 1 then Char.ofNat bits :: decodeFrom none rest
      else decodeFrom (some ⟨p.missing - 1, bits, 0x80, 0xBF⟩) rest
    else replacement :: begin b rest
  | none, b :: rest => begin b rest
where
  /-- Reads a byte that begins a character, and those behind it. -/
  begin (b : UInt8) (rest : List UInt8) : List Char :=
    if b.toNat < 0x80 then Char.ofNat b.toNat :: decodeFrom none rest
    else
      match lead? b.toNat with
      | some l => decodeFrom (some ⟨l.trailing, l.bits, l.low, l.high⟩) rest
      | none => replacement :: decodeFrom none rest

/-- The bytes as text. -/
def decode (bytes : List UInt8) : List Char :=
  decodeFrom none bytes

/-- The bytes of a text. -/
def encode (s : String) : List UInt8 :=
  s.toUTF8.toList

/-- The bytes as text, if they are the bytes of a text. -/
def decode? (bytes : List UInt8) : Option (List Char) :=
  let s := decode bytes
  if encode (String.ofList s) = bytes then some s else none

end SkillAudit.Utf8
