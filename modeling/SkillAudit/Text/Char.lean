import SkillAudit.Text.CharSet.Letters
import SkillAudit.Text.CharSet.Casing
/-!
# SkillAudit.Text.Char

The classes of characters that the analyzers ask for, and small letters. All of them follow
Unicode; the ASCII characters are decided without a look into the tables.
-/

namespace SkillAudit.Text

/-- White space: the property `White_Space`. -/
def isBlank (c : Char) : Bool :=
  let n := c.toNat
  n == 32 || (9 ≤ n && n ≤ 13) || n == 0x85 || n == 0xA0 || n == 0x1680 ||
    (0x2000 ≤ n && n ≤ 0x200A) || n == 0x2028 || n == 0x2029 || n == 0x202F || n == 0x205F ||
    n == 0x3000

/-- Letters: the property `Alphabetic`. -/
def isLetter (c : Char) : Bool :=
  if c.toNat < 128 then c.isAlpha else CharSet.alphabetic.contains c

/-- Letters and numbers. -/
def isLetterOrNumber (c : Char) : Bool :=
  if c.toNat < 128 then c.isAlphanum
  else CharSet.alphabetic.contains c || CharSet.numeric.contains c

/-- Decimal digits of any script. -/
def isDecimalDigit (c : Char) : Bool :=
  if c.toNat < 128 then c.isDigit else CharSet.decimalDigit.contains c

/-- The characters of words: letters, decimal digits, marks, connecting punctuation and the
    joining controls. -/
def isWordChar (c : Char) : Bool :=
  if c.toNat < 128 then c.isAlphanum || c == '_'
  else CharSet.alphabetic.contains c || CharSet.decimalDigit.contains c ||
    CharSet.wordJoining.contains c

/-! ## Small letters -/

/-- The small letter of one character, where that is a single character; any other character
    is left as it is. -/
def lowerChar (c : Char) : Char :=
  let n := c.toNat
  if n < 128 then c.toLower
  else
    match capitalRuns.find? fun r => r.first ≤ n && n ≤ r.last && (n - r.first) % r.stride == 0 with
    | some r => Char.ofNat (n + r.shift).toNat
    | none => c

/-- Whether the first character that is not case-ignorable is a cased one. -/
def nextIsCased (s : List Char) : Bool :=
  match s.dropWhile CharSet.caseIgnorable.contains with
  | [] => false
  | c :: _ => CharSet.cased.contains c

/-- Small letters of a text; `before` is what stands in front of it, nearest character first.
    The capital sigma at the end of a word becomes the final small sigma, and the dotted capital
    I becomes an i with a dot above. -/
def lowerFrom (before : List Char) : List Char → List Char
  | [] => []
  | c :: rest =>
    let small :=
      if c == '\u03A3' then
        if nextIsCased before && !nextIsCased rest then ['\u03C2'] else ['\u03C3']
      else if c == '\u0130' then ['i', '\u0307']
      else [lowerChar c]
    small ++ lowerFrom (c :: before) rest

/-- The text in small letters. -/
def lower (s : List Char) : List Char :=
  lowerFrom [] s

end SkillAudit.Text
