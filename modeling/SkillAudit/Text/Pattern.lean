import SkillAudit.Text.Char
/-!
# SkillAudit.Text.Pattern

Patterns over a text: single characters of a class, the start of the text, word edges, sequence,
choice and repetition. A pattern is asked one question only, whether it occurs somewhere in a
text, so the order in which choices are tried does not show.
-/

namespace SkillAudit

/-- A place in a text: the character in front of it, if there is one, and the text behind it. -/
structure Cursor where
  before : Option Char
  after : List Char

/-- Whether exactly one of the neighbours of a place is a word character. -/
def Cursor.atWordEdge (here : Cursor) : Bool :=
  here.before.any Text.isWordChar != here.after.head?.any Text.isWordChar

/-- A pattern. -/
inductive Pattern where
  /-- The empty text, anywhere. -/
  | empty
  /-- One character of a class. -/
  | one (accepts : Char → Bool)
  /-- The empty text at the start. -/
  | start
  /-- The empty text between a word character and something else. -/
  | wordEdge
  /-- One after the other. -/
  | seq (p q : Pattern)
  /-- One or the other. -/
  | alt (p q : Pattern)
  /-- Any number of times, also none. -/
  | many (p : Pattern)

namespace Pattern

instance : Append Pattern := ⟨seq⟩
instance : OrOp Pattern := ⟨alt⟩

/-! ## Matching -/

/-- Goes on with `k` after zero or more passes of `step`, at most `n`. -/
def repeated (step : (Cursor → Bool) → Cursor → Bool) : Nat → (Cursor → Bool) → Cursor → Bool
  | 0, k, here => k here
  | n + 1, k, here => k here || step (repeated step n k) here

/-- Whether the pattern matches at a place in such a way that `k` holds at the place behind the
    match. A repetition passes over at most as many pieces as there are characters left, since a
    piece without characters leads nowhere new. -/
def matchThen : Pattern → (Cursor → Bool) → Cursor → Bool
  | empty, k, here => k here
  | one accepts, k, here =>
    match here.after with
    | [] => false
    | c :: rest => accepts c && k ⟨some c, rest⟩
  | start, k, here => here.before.isNone && k here
  | wordEdge, k, here => here.atWordEdge && k here
  | seq p q, k, here => p.matchThen (q.matchThen k) here
  | alt p q, k, here => p.matchThen k here || q.matchThen k here
  | many p, k, here => repeated p.matchThen here.after.length k here

/-- Whether the pattern matches at a place or at one behind it. -/
def occursFrom (p : Pattern) (before : Option Char) : List Char → Bool
  | [] => p.matchThen (fun _ => true) ⟨before, []⟩
  | c :: rest =>
    p.matchThen (fun _ => true) ⟨before, c :: rest⟩ || p.occursFrom (some c) rest

/-- Whether the pattern occurs in the text. -/
def occursIn (p : Pattern) (s : List Char) : Bool :=
  p.occursFrom none s

/-! ## Building blocks -/

/-- A fixed character. -/
def char (c : Char) : Pattern := one (· == c)

/-- A fixed text. -/
def text (s : String) : Pattern :=
  s.toList.foldr (fun c p => char c ++ p) empty

/-- Whether `c` is the small ASCII letter `a` up to case. Two characters outside ASCII fold to
    ASCII letters: the Kelvin sign and the long s. -/
def sameLetter (a c : Char) : Bool :=
  c.toLower == a || (a == 'k' && c == '\u212A') || (a == 's' && c == '\u017F')

/-- A fixed text in small letters, matched in any case. -/
def anyCase (s : String) : Pattern :=
  s.toList.foldr (fun a p => one (sameLetter a) ++ p) empty

/-- One of the characters of `s`. -/
def oneOf (s : String) : Pattern := one s.toList.contains

/-- A character that is none of `s`. -/
def noneOf (s : String) : Pattern := one fun c => !s.toList.contains c

/-- Once or not at all. -/
def optional (p : Pattern) : Pattern := p ||| empty

/-- At least once. -/
def some (p : Pattern) : Pattern := p ++ many p

/-- Exactly `n` times. -/
def times : Nat → Pattern → Pattern
  | 0, _ => empty
  | n + 1, p => p ++ times n p

/-- At most `n` times. -/
def upTo : Nat → Pattern → Pattern
  | 0, _ => empty
  | n + 1, p => optional (p ++ upTo n p)

/-- At least `n` times. -/
def atLeast (n : Nat) (p : Pattern) : Pattern := times n p ++ many p

/-- One of several patterns. -/
def anyOf : List Pattern → Pattern
  | [] => one fun _ => false
  | [p] => p
  | p :: ps => p ||| anyOf ps

/-- One white space character. -/
def blank : Pattern := one Text.isBlank

/-- Any amount of white space. -/
def blanks : Pattern := many blank

/-- One character of a word. -/
def wordChar : Pattern := one Text.isWordChar

/-- Any character that does not end a line. -/
def notLineEnd : Pattern := one (· != '\n')

/-- An ASCII letter or digit. -/
def asciiAlnum : Pattern := one Char.isAlphanum

/-- An ASCII digit. -/
def asciiDigit : Pattern := one Char.isDigit

end Pattern

end SkillAudit
