import SkillAudit.Text.Char
/-!
# SkillAudit.Text.Line

Lines and pieces of lines. A text is a list of characters; a line ends at a line feed, and one
carriage return in front of that line feed belongs to the ending. Nothing else ends a line.
-/

namespace SkillAudit.Text

/-! ## Lines -/

/-- The text cut after every line feed; the pieces keep their line feeds. -/
def cutLines : List Char → List (List Char)
  | [] => []
  | c :: rest =>
    if c = '\n' then [c] :: cutLines rest
    else
      match cutLines rest with
      | [] => [[c]]
      | l :: ls => (c :: l) :: ls

/-- Nothing is lost in the cut. -/
theorem flatten_cutLines (s : List Char) : (cutLines s).flatten = s := by
  induction s with
  | nil => rfl
  | cons c rest ih =>
    rw [cutLines]
    split
    · simp [ih]
    · split
      · next h => rw [h] at ih; simp at ih; simp [← ih]
      · next h => rw [h] at ih; simp at ih; simp [← ih]

/-- A line without its ending: a line feed, and one carriage return in front of it. -/
def dropLineEnd (l : List Char) : List Char :=
  match l.reverse with
  | '\n' :: '\r' :: r => r.reverse
  | '\n' :: r => r.reverse
  | _ => l

/-- The lines of a text, without their endings. -/
def lines (s : List Char) : List (List Char) :=
  (cutLines s).map dropLineEnd

/-- The lines with their numbers, the first one being `first`. -/
def numberedLines (first : Nat) (s : List Char) : List (Nat × List Char) :=
  (lines s).mapIdx fun i l => (first + i, l)

/-! ## The ends of a text -/

/-- The text without the characters of a class at its end. -/
def dropEndWhile (p : Char → Bool) (s : List Char) : List Char :=
  (s.reverse.dropWhile p).reverse

/-- The text without the characters of a class at both ends. -/
def stripWhile (p : Char → Bool) (s : List Char) : List Char :=
  dropEndWhile p (s.dropWhile p)

/-- The text without white space at its start. -/
def trimStart (s : List Char) : List Char :=
  s.dropWhile isBlank

/-- The text without white space at its end. -/
def trimEnd (s : List Char) : List Char :=
  dropEndWhile isBlank s

/-- The text without white space at both ends. -/
def trim (s : List Char) : List Char :=
  stripWhile isBlank s

/-- What follows `start` at the beginning of a text. -/
def after? : List Char → List Char → Option (List Char)
  | [], s => some s
  | _ :: _, [] => none
  | a :: start, c :: s => if a = c then after? start s else none

theorem after?_eq_some {start s r : List Char} : after? start s = some r ↔ s = start ++ r := by
  induction start generalizing s with
  | nil => simp [after?]
  | cons a start ih =>
    cases s with
    | nil => simp [after?]
    | cons c s =>
      by_cases h : a = c
      · simp [after?, h, ih]
      · simp [after?, h, Ne.symm h]

/-- Removes `start` from the beginning as often as it stands there. -/
def dropRepeated (start : List Char) (s : List Char) : List Char :=
  go s.length s
where
  /-- At most as many times as the text has characters. -/
  go : Nat → List Char → List Char
    | 0, s => s
    | n + 1, s =>
      match after? start s with
      | some r => if start.isEmpty then s else go n r
      | none => s

/-! ## Pieces -/

/-- The pieces between the occurrences of a separator; at least one. -/
def splitOn (sep : Char) : List Char → List (List Char)
  | [] => [[]]
  | c :: rest =>
    if c = sep then [] :: splitOn sep rest
    else
      match splitOn sep rest with
      | [] => [[c]]
      | p :: ps => (c :: p) :: ps

/-- The parts before and after the first occurrence of a separator. -/
def cutFirst? (sep : Char) : List Char → Option (List Char × List Char)
  | [] => none
  | c :: rest =>
    if c = sep then some ([], rest)
    else (cutFirst? sep rest).map fun p => (c :: p.1, p.2)

/-- The parts before and after the last occurrence of a separator. -/
def cutLast? (sep : Char) : List Char → Option (List Char × List Char)
  | [] => none
  | c :: rest =>
    match cutLast? sep rest with
    | some (a, b) => some (c :: a, b)
    | none => if c = sep then some ([], rest) else none

/-- The words of a text: the longest pieces without white space. -/
def words (s : List Char) : List (List Char) :=
  go s []
where
  /-- `current` is the word being read, last character first. -/
  go : List Char → List Char → List (List Char)
    | [], current => if current.isEmpty then [] else [current.reverse]
    | c :: rest, current =>
      if isBlank c then
        if current.isEmpty then go rest [] else current.reverse :: go rest []
      else go rest (c :: current)

/-! ## Searching -/

/-- The text from the first occurrence of `needle` on, with what stands in front of it. -/
def findFirst? (needle : List Char) : List Char → Option (List Char × List Char)
  | [] => if needle.isEmpty then some ([], []) else none
  | c :: rest =>
    if needle.isPrefixOf (c :: rest) then some ([], c :: rest)
    else (findFirst? needle rest).map fun p => (c :: p.1, p.2)

/-- Whether `needle` occurs in the text. -/
def contains (needle s : List Char) : Bool :=
  (findFirst? needle s).isSome

/-- Reads the text from the left: where `take` accepts, its value and the number of characters
    it covers are used, and reading goes on behind them; any other character is kept.
    The number counts the characters still covered by the last value. -/
def pieces {α : Type} (take : List Char → Option (α × Nat)) : Nat → List Char → List (α ⊕ Char)
  | _, [] => []
  | n + 1, _ :: rest => pieces take n rest
  | 0, c :: rest =>
    match take (c :: rest) with
    | some (a, n) => .inl a :: pieces take (n - 1) rest
    | none => .inr c :: pieces take 0 rest

/-- The values that `take` finds from the left, none overlapping the one before. -/
def findAll {α : Type} (take : List Char → Option (α × Nat)) (s : List Char) : List α :=
  (pieces take 0 s).filterMap fun
    | .inl a => some a
    | .inr _ => none

/-- The text with what `take` finds replaced by the values found. -/
def replaceAll (take : List Char → Option (List Char × Nat)) (s : List Char) : List Char :=
  (pieces take 0 s).flatMap fun
    | .inl a => a
    | .inr c => [c]

/-- Accepts `needle` and gives `value` for it. -/
def literal {α : Type} (needle : List Char) (value : α) (s : List Char) : Option (α × Nat) :=
  if !needle.isEmpty && needle.isPrefixOf s then some (value, needle.length) else none

/-- How often `needle` occurs, counted from the left without overlaps. -/
def count (needle s : List Char) : Nat :=
  (findAll (literal needle ()) s).length

end SkillAudit.Text
