/-!
# SkillAudit.Yaml.Cursor

Places in a YAML text, and the moves of the scanners: over a character, over the end of a line,
over all characters of a class.
-/

namespace SkillAudit.Yaml

/-- A place: how many bytes, how many line ends and how many characters of the line lie before
    it. -/
structure Mark where
  index : Nat
  line : Nat
  column : Nat
deriving DecidableEq, Repr, Inhabited

/-- The first place. -/
def Mark.start : Mark := ⟨0, 0, 0⟩

/-- Whether a place is the start of the text. -/
def Mark.isStart (m : Mark) : Bool := m.line == 0 && m.column == 0

/-- Whether two places have the same line and column. -/
def Mark.sameSpot (a b : Mark) : Bool := a.line == b.line && a.column == b.column

/-- A place in words, counted from one. -/
def Mark.describe (m : Mark) : String := s!"line {m.line + 1} column {m.column + 1}"

/-! ## Classes of characters -/

/-- Space and tab. -/
def isBlank (c : Char) : Bool := c == ' ' || c == '\t'

/-- The characters that end a line. -/
def isBreak (c : Char) : Bool :=
  c == '\n' || c == '\r' || c == '\u0085' || c == '\u2028' || c == '\u2029'

/-- The characters of names: ASCII letters and digits, underscore and hyphen. -/
def isNameChar (c : Char) : Bool := c.isAlphanum || c == '_' || c == '-'

/-- The characters that a text may hold. -/
def isAllowed (c : Char) : Bool :=
  let n := c.toNat
  n == 9 || n == 10 || n == 13 || (0x20 ≤ n && n ≤ 0x7E) || n == 0x85 ||
    (0xA0 ≤ n && n ≤ 0xD7FF) || (0xE000 ≤ n && n ≤ 0xFFFD) || 0x10000 ≤ n

/-- The value of a hexadecimal digit. -/
def hexValue? (c : Char) : Option Nat :=
  if c.isDigit then some (c.toNat - 48)
  else if 'a' ≤ c ∧ c ≤ 'f' then some (c.toNat - 87)
  else if 'A' ≤ c ∧ c ≤ 'F' then some (c.toNat - 55)
  else none

/-! ## Cursors -/

/-- A place with the text behind it. -/
structure Cursor where
  rest : List Char
  mark : Mark
deriving Inhabited

namespace Cursor

/-- The character at an offset from the place. -/
def peek (c : Cursor) (offset : Nat) : Option Char := c.rest[offset]?

/-- Whether a given character stands at an offset. -/
def isAt (c : Cursor) (offset : Nat) (ch : Char) : Bool := c.peek offset == some ch

/-- Whether a character of a class stands at an offset. -/
def has (c : Cursor) (offset : Nat) (p : Char → Bool) : Bool := (c.peek offset).any p

/-- Whether the text, a line or a word ends at an offset. -/
def endsWord (c : Cursor) (offset : Nat) : Bool :=
  (c.peek offset).all fun ch => isBlank ch || isBreak ch

/-- Whether the text or a line ends here. -/
def endsLine (c : Cursor) : Bool := (c.peek 0).all isBreak

/-- The place behind the next character. -/
def skip (c : Cursor) : Cursor :=
  match c.rest with
  | [] => c
  | ch :: rest =>
    ⟨rest, ⟨c.mark.index + ch.utf8Size, c.mark.line, c.mark.column + 1⟩⟩

/-- The place behind the next `n` characters. -/
def skipN : Nat → Cursor → Cursor
  | 0, c => c
  | n + 1, c => skipN n c.skip

/-- Skips the characters of a class. -/
def skipWhile (p : Char → Bool) (c : Cursor) : Cursor :=
  go c.rest c.mark
where
  /-- Skips from a text that is known to stand at a place. -/
  go : List Char → Mark → Cursor
    | [], m => ⟨[], m⟩
    | ch :: rest, m =>
      if p ch then go rest ⟨m.index + ch.utf8Size, m.line, m.column + 1⟩ else ⟨ch :: rest, m⟩

/-- Skips the rest of the line, without its end. -/
def skipToBreak (c : Cursor) : Cursor := c.skipWhile fun ch => !isBreak ch

/-- The place behind the end of a line, and what that end means within a scalar: a line feed,
    or one of the two separators as it is. At no end of a line nothing happens. -/
def readBreak (c : Cursor) : List Char × Cursor :=
  let next (bytes : Nat) : Mark := ⟨c.mark.index + bytes, c.mark.line + 1, 0⟩
  match c.rest with
  | '\r' :: '\n' :: rest => (['\n'], ⟨rest, next 2⟩)
  | ch :: rest =>
    if ch == '\n' || ch == '\r' || ch == '\u0085' then (['\n'], ⟨rest, next ch.utf8Size⟩)
    else if ch == '\u2028' || ch == '\u2029' then ([ch], ⟨rest, next ch.utf8Size⟩)
    else ([], c)
  | [] => ([], c)

/-- The place behind the end of a line. -/
def skipBreak (c : Cursor) : Cursor := c.readBreak.2

/-- Whether three times `ch` stand at the start of a line as a word. -/
def hasDocumentMark (c : Cursor) (ch : Char) : Bool :=
  c.mark.column == 0 && c.isAt 0 ch && c.isAt 1 ch && c.isAt 2 ch && c.endsWord 3

end Cursor

end SkillAudit.Yaml
