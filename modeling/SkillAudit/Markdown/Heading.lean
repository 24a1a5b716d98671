import SkillAudit.Markdown.Fence
/-!
# SkillAudit.Markdown.Heading

Headings and the blocks between them. A heading is a line with at most three spaces of indent,
one to six number signs, and then its end or a space or tab. The blocks of a text are contiguous:
each starts at a heading outside fenced code and reaches to the line before the next one, and
lines before the first heading form a block of their own, of level 0.
-/

namespace SkillAudit

/-- A heading line: its level, and its text without the number signs. -/
structure Heading where
  level : Nat
  text : List Char
deriving DecidableEq, Repr

/-- Reads a heading line. -/
def Heading.ofLine? (line : List Char) : Option Heading :=
  let indent := (line.takeWhile (· == ' ')).length
  let rest := line.dropWhile (· == ' ')
  let level := (rest.takeWhile (· == '#')).length
  let title := rest.dropWhile (· == '#')
  if 3 < indent ∨ level = 0 ∨ 6 < level then none
  else
    match title with
    | [] => some ⟨level, []⟩
    | c :: _ =>
      if c = ' ' ∨ c = '\t' then
        some ⟨level, Text.trimEnd (Text.dropEndWhile (· == '#') (Text.trim title))⟩
      else none

/-- A heading with the lines it owns, or the lines before the first heading. -/
structure Block where
  /-- The text of the heading; empty for the leading block. -/
  heading : String
  /-- 1 to 6, or 0 for the leading block. -/
  level : Nat
  /-- Number of the first line. -/
  startLine : Nat
  /-- Number of the last line. -/
  endLine : Nat
  /-- The lines, each followed by a line feed. -/
  text : String
deriving DecidableEq, Repr

namespace Block

/-- Whether a line starts a block: it is a heading, and no fence is open or opened by it. -/
def headingAt? (state : Option Fence) (line : List Char) : Option Heading :=
  match Fence.place state line with
  | .outside => Heading.ofLine? line
  | _ => none

/-- The lines of a text cut in front of every heading outside fenced code. Every piece but the
    first is headed; the first one has a heading only if the text starts with it. -/
def cut (state : Option Fence) : List (List Char) → List (Option Heading × List (List Char))
  | [] => []
  | line :: rest =>
    let here := headingAt? state line
    match cut (Fence.step state line) rest with
    | [] => [(here, [line])]
    | (none, ls) :: more => (here, line :: ls) :: more
    | (some h, ls) :: more => (here, [line]) :: (some h, ls) :: more

/-- The block of one piece whose first line has the number `first`. -/
def ofPiece (first : Nat) (piece : Option Heading × List (List Char)) : Block where
  heading := (piece.1.map fun h => String.ofList h.text).getD ""
  level := (piece.1.map (·.level)).getD 0
  startLine := first
  endLine := first + piece.2.length - 1
  text := String.ofList (piece.2.flatMap (· ++ ['\n']))

/-- Numbers the pieces from `first` on. -/
def number (first : Nat) : List (Option Heading × List (List Char)) → List Block
  | [] => []
  | piece :: rest => ofPiece first piece :: number (first + piece.2.length) rest

/-- The blocks of a text whose first line has the number `first`. -/
def ofText (first : Nat) (text : String) : List Block :=
  number first (cut none (Text.lines text.toList))

end Block

end SkillAudit
