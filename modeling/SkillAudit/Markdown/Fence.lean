import SkillAudit.Text.Line
/-!
# SkillAudit.Markdown.Fence

Fenced code. A fence opens at a line whose text starts with three or more backticks or tildes and
closes at the next line that starts with at least as many of the same character and holds nothing
else but white space. A fence that never closes reaches to the end of the text.

Every reader of markdown follows the fences with the same step, `Fence.step`, and sorts lines with
the same function, `Fence.place`.
-/

namespace SkillAudit

/-- An open fence: its character and the length of the run that opened it. -/
structure Fence where
  marker : Char
  length : Nat
deriving DecidableEq, Repr

namespace Fence

/-- The run of backticks or tildes that a line starts with, white space aside: the character, the
    length of the run, and what follows it. -/
def run? (line : List Char) : Option (Char × Nat × List Char) :=
  match Text.trimStart line with
  | [] => none
  | c :: rest =>
    if c = '`' ∨ c = '~' then
      some (c, (rest.takeWhile (· == c)).length + 1, rest.dropWhile (· == c))
    else none

/-- Whether a line closes an open fence. -/
def closedBy (fence : Fence) (line : List Char) : Bool :=
  match run? line with
  | some (c, n, rest) => c == fence.marker && fence.length ≤ n && rest.all Text.isBlank
  | none => false

/-- The fence that a line opens, when none is open. -/
def openedBy? (line : List Char) : Option Fence :=
  match run? line with
  | some (c, n, _) => if 3 ≤ n then some ⟨c, n⟩ else none
  | none => none

/-- What is open after a line. -/
def step (state : Option Fence) (line : List Char) : Option Fence :=
  match state with
  | some fence => if fence.closedBy line then none else some fence
  | none => openedBy? line

/-- Where a line stands. -/
inductive Place where
  /-- Outside any fence. -/
  | outside
  /-- The line that opens or closes a fence. -/
  | delimiter
  /-- Between the two. -/
  | inside
deriving DecidableEq, Repr

/-- Where a line stands, from what is open before it. -/
def place (state : Option Fence) (line : List Char) : Place :=
  match state, step state line with
  | some _, some _ => .inside
  | none, none => .outside
  | _, _ => .delimiter

/-- What is open after several lines. -/
def after (state : Option Fence) (lines : List (List Char)) : Option Fence :=
  lines.foldl step state

/-- The lines with their places. -/
def places (state : Option Fence) : List (List Char) → List (Place × List Char)
  | [] => []
  | line :: rest => (place state line, line) :: places (step state line) rest

end Fence

end SkillAudit
