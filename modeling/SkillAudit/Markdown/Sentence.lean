import SkillAudit.Markdown.Heading
/-!
# SkillAudit.Markdown.Sentence

The prose sentences of a markdown text. Fenced code, headings, tables and comments are dropped;
each of them but a comment ends a paragraph, as do a blank line and the start of a list item. A
sentence ends behind a full stop, exclamation mark or question mark that has white space or the
end of the paragraph behind it.
-/

namespace SkillAudit.Sentence

open Text

/-! ## Paragraphs -/

/-- What the text of a list item is, if the line starts one: the text behind a bullet, or behind
    a number with a full stop or parenthesis, and white space. -/
def listItem? (line : List Char) : Option (List Char) :=
  let s := trimStart line
  let behind := match s with
    | [] => none
    | c :: rest =>
      if c = '-' ∨ c = '*' ∨ c = '+' then some rest
      else if isDecimalDigit c then
        match s.dropWhile isDecimalDigit with
        | d :: r => if d = '.' ∨ d = ')' then some r else none
        | [] => none
      else none
  match behind with
  | some (c :: rest) => if isBlank c then some (trimStart rest) else none
  | _ => none

/-- What a line does to the paragraph being read. -/
inductive Effect where
  /-- Ends the paragraph. -/
  | breaks
  /-- Leaves it as it is. -/
  | nothing
  /-- Ends it and starts the next one. -/
  | starts (text : List Char)
  /-- Goes on with it behind a space. -/
  | continues (text : List Char)

/-- What a line outside fenced code does, and whether a comment is open behind it; `inComment`
    tells whether one is open before it. A line on which a comment opens and does not close gives
    only what stands in front of the comment. -/
def effect (inComment : Bool) (line : List Char) : Effect × Bool :=
  if inComment then (.nothing, !contains ['-', '-', '>'] line)
  else
    let trimmed := trim line
    let ordinary : Effect × Bool :=
      if trimmed.isEmpty ∨ (Heading.ofLine? line).isSome ∨ trimmed.head? = some '|' then
        (.breaks, false)
      else
        match listItem? line with
        | some text => (.starts text, false)
        | none => (.continues trimmed, false)
    match findFirst? ['<', '!', '-', '-'] trimmed with
    | some (before, comment) =>
      if contains ['-', '-', '>'] comment then ordinary
      else if (trim before).isEmpty then (.nothing, true)
      else (.continues before, true)
    | none => ordinary

/-- The reader of paragraphs. -/
structure Reader where
  /-- The fence that is open. -/
  fence : Option Fence
  /-- Whether a comment is open. -/
  inComment : Bool
  /-- The paragraph being read. -/
  paragraph : List Char

namespace Reader

/-- Nothing read yet. -/
def start : Reader := ⟨none, false, []⟩

/-- Reads a line: the paragraphs it completes, and the reader behind it. -/
def step (r : Reader) (line : List Char) : List (List Char) × Reader :=
  let fence := Fence.step r.fence line
  match Fence.place r.fence line with
  | .outside =>
    match effect r.inComment line with
    | (.breaks, c) => ([r.paragraph], ⟨fence, c, []⟩)
    | (.nothing, c) => ([], ⟨fence, c, r.paragraph⟩)
    | (.starts text, c) => ([r.paragraph], ⟨fence, c, text⟩)
    | (.continues text, c) => ([], ⟨fence, c, r.paragraph ++ ' ' :: text⟩)
  | _ => ([r.paragraph], ⟨fence, r.inComment, []⟩)

/-- The paragraphs of the lines that are left, the last of them ended by the end of the text. -/
def paragraphs (r : Reader) : List (List Char) → List (List Char)
  | [] => [r.paragraph]
  | line :: rest =>
    let (done, next) := r.step line
    done ++ next.paragraphs rest

end Reader

/-! ## Inline markup -/

/-- A comment that starts here and closes on the same line: a space stands for it. -/
def commentAt? (s : List Char) : Option (List Char × Nat) :=
  match after? ['<', '!', '-', '-'] s with
  | none => none
  | some inner =>
    (findFirst? ['-', '-', '>'] (inner.takeWhile (· != '\n'))).map fun p =>
      ([' '], 4 + p.1.length + 3)

/-- A link or image that starts here: its text stands for it. -/
def linkTextAt? (s : List Char) : Option (List Char × Nat) :=
  let bracketed := match s with
    | '!' :: r => r
    | _ => s
  match bracketed with
  | '[' :: rest =>
    match rest.dropWhile (· != ']') with
    | ']' :: '(' :: r =>
      match r.dropWhile (· != ')') with
      | ')' :: r => some (rest.takeWhile (· != ']'), s.length - r.length)
      | _ => none
    | _ => none
  | _ => none

/-- The text without comments, link targets, emphasis marks and backticks. -/
def stripInline (s : List Char) : List Char :=
  (replaceAll linkTextAt? (replaceAll commentAt? s)).filter fun c =>
    c != '*' && c != '_' && c != '`'

/-! ## Sentences -/

/-- Whether a character ends sentences. -/
def isTerminator (c : Char) : Bool :=
  c == '.' || c == '!' || c == '?'

/-- The text cut behind every terminator that has white space or nothing behind it. -/
def cut : List Char → List (List Char)
  | [] => []
  | c :: rest =>
    if isTerminator c && rest.head?.all isBlank then [c] :: cut rest
    else
      match cut rest with
      | [] => [[c]]
      | p :: ps => (c :: p) :: ps

/-- The sentences of a paragraph: the pieces that hold a letter, without the space around them. -/
def ofParagraph (paragraph : List Char) : List (List Char) :=
  ((cut (stripInline paragraph)).map trim).filter (·.any isLetter)

/-- The sentences of a text. -/
def ofText (text : String) : List String :=
  ((Reader.start.paragraphs (lines text.toList)).flatMap ofParagraph).map String.ofList

end SkillAudit.Sentence
