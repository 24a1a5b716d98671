import SkillAudit.Yaml.Scalar
import SkillAudit.Yaml.Property
/-!
# SkillAudit.Yaml.Lexer

The tokens of a text, one after the other. Indentation becomes tokens that open and close
collections. A key is known only when its colon is met: until then the place where it may have
started is remembered, and the tokens that open the mapping and the key are put in there later.
Tokens are therefore held back as long as one of them may still turn out to be a key.
-/

namespace SkillAudit.Yaml

open SkillAudit.Yaml.Cursor

/-- A place where a key may have started. -/
structure PossibleKey where
  /-- Whether nothing but a key can stand there. -/
  required : Bool
  /-- The number of the token that would be the key. -/
  number : Nat
  mark : Mark
deriving Inhabited

/-- The state of the scanner. -/
structure Lexer where
  cursor : Cursor
  /-- The tokens that are scanned and not yet taken. -/
  queue : List Token
  /-- How many tokens have been taken. -/
  taken : Nat
  started : Bool
  /-- The indentation of the innermost block collection, -1 outside any. -/
  indent : Int
  /-- The indentations of the collections around it. -/
  outer : List Int
  /-- Whether a key may start here. -/
  keyAllowed : Bool
  /-- For the innermost and every outer flow collection, where a key may have started. -/
  keys : List (Option PossibleKey)
  flowLevel : Nat

namespace Lexer

/-- The state before a text. -/
def ofText (s : List Char) : Lexer :=
  ⟨⟨s, Mark.start⟩, [], 0, false, -1, [], false, [], 0⟩

/-- Appends a token. -/
def push (l : Lexer) (kind : TokenKind) (start stop : Mark) : Lexer :=
  { l with queue := l.queue ++ [⟨kind, start, stop⟩] }

/-- The mark of the cursor. -/
def mark (l : Lexer) : Mark := l.cursor.mark

/-- Whether the place is within a collection in flow style. -/
def inFlow (l : Lexer) : Bool := 0 < l.flowLevel

/-! ## Possible keys -/

/-- The fault of a key without a colon. -/
def missingColon (l : Lexer) (key : PossibleKey) : Error :=
  .during "while scanning a simple key" key.mark "could not find expected ':'" l.mark

/-- Forgets the places too far back to hold a key: on an earlier line, or more than 1024
    characters away. -/
def dropStaleKeys (l : Lexer) : Except Error Lexer := do
  -- the outermost collection is looked at first
  let keys ← l.keys.reverse.mapM fun key? =>
    match key? with
    | some key =>
      if key.mark.line < l.mark.line || key.mark.index + 1024 < l.mark.index then
        if key.required then throw (l.missingColon key) else pure none
      else pure (some key)
    | none => pure none
  return { l with keys := keys.reverse }

/-- Forgets the place in the innermost collection. -/
def dropKey (l : Lexer) : Except Error Lexer :=
  match l.keys with
  | some key :: rest =>
    if key.required then .error (l.missingColon key) else .ok { l with keys := none :: rest }
  | _ => .ok l

/-- Remembers that a key may start here. -/
def saveKey (l : Lexer) : Except Error Lexer :=
  if l.keyAllowed then do
    let required := !l.inFlow && l.indent == (l.mark.column : Int)
    let l' ← l.dropKey
    return { l' with keys := some ⟨required, l.taken + l.queue.length, l.mark⟩ :: l'.keys.drop 1 }
  else .ok l

/-! ## Indentation -/

/-- Opens a block collection if the column lies deeper than the ones around; the token goes to
    `position` in the queue, or to its end. -/
def roll (l : Lexer) (column : Nat) (position : Option Nat) (kind : TokenKind) (m : Mark) : Lexer :=
  if l.inFlow || (column : Int) ≤ l.indent then l
  else
    let token : Token := ⟨kind, m, m⟩
    let queue := match position with
      | some i => l.queue.take i ++ token :: l.queue.drop i
      | none => l.queue ++ [token]
    { l with queue := queue, outer := l.indent :: l.outer, indent := column }

/-- Closes the block collections deeper than a column. -/
def unroll (l : Lexer) (column : Int) : Lexer :=
  if l.inFlow then l else go column l.outer l
where
  /-- Closes collections as long as there are outer ones. -/
  go (column : Int) : List Int → Lexer → Lexer
    | [], l => l
    | outer :: rest, l =>
      if column < l.indent then
        go column rest
          { l.push .blockEnd l.mark l.mark with indent := outer, outer := rest }
      else l

/-! ## Scanning one token -/

/-- Skips white space, comments and line ends up to the next token. A tab is no indentation where
    a key may start. -/
def toNextToken : Nat → Lexer → Lexer
  | 0, l => l
  | fuel + 1, l =>
    let c := l.cursor
    let c := if c.mark.index == 0 && c.isAt 0 '\uFEFF' then c.skip else c
    let c := c.skipWhile fun ch => ch == ' ' || ((l.inFlow || !l.keyAllowed) && ch == '\t')
    let c := if c.isAt 0 '#' then c.skipToBreak else c
    if c.has 0 isBreak then
      toNextToken fuel
        { l with cursor := c.skipBreak, keyAllowed := l.keyAllowed || !l.inFlow }
    else { l with cursor := c }

/-- Adds the tokens that `scan` reads. -/
def scanned (l : Lexer) (scan : Cursor → Except Error (Token × Cursor)) : Except Error Lexer := do
  let (token, c) ← scan l.cursor
  return { l with cursor := c, queue := l.queue ++ [token] }

/-- Adds a token of `n` characters. -/
def indicator (l : Lexer) (kind : TokenKind) (n : Nat) : Lexer :=
  let c := skipN n l.cursor
  { l.push kind l.mark c.mark with cursor := c }

/-- The end of the text: every block collection ends. -/
def streamEnd (l : Lexer) : Except Error Lexer := do
  let m := l.mark
  let m := if m.column == 0 then m else ⟨m.index, m.line + 1, 0⟩
  let l := { l with cursor := { l.cursor with mark := m } }
  let l ← (l.unroll (-1)).dropKey
  return { l with keyAllowed := false }.push .streamEnd m m

/-- A directive or a document mark: every block collection ends. -/
def betweenDocuments (l : Lexer) : Except Error Lexer := do
  let l ← (l.unroll (-1)).dropKey
  return { l with keyAllowed := false }

/-- The start of a collection in flow style. -/
def flowStart (l : Lexer) (kind : TokenKind) : Except Error Lexer := do
  let l ← l.saveKey
  return { l with keys := none :: l.keys, flowLevel := l.flowLevel + 1, keyAllowed := true }
    |>.indicator kind 1

/-- The end of a collection in flow style. -/
def flowEnd (l : Lexer) (kind : TokenKind) : Except Error Lexer := do
  let l ← l.dropKey
  let l := if l.inFlow then { l with flowLevel := l.flowLevel - 1, keys := l.keys.drop 1 } else l
  return { l with keyAllowed := false }.indicator kind 1

/-- A comma. -/
def flowEntry (l : Lexer) : Except Error Lexer := do
  let l ← l.dropKey
  return { l with keyAllowed := true }.indicator .flowEntry 1

/-- A hyphen in front of an item. -/
def blockEntry (l : Lexer) : Except Error Lexer := do
  if !l.inFlow && !l.keyAllowed then
    throw (.form ⟨"block sequence entries are not allowed in this context", l.mark, none⟩)
  let l ← (l.roll l.mark.column none .blockSequenceStart l.mark).dropKey
  return { l with keyAllowed := true }.indicator .blockEntry 1

/-- A question mark in front of a key. -/
def key (l : Lexer) : Except Error Lexer := do
  if !l.inFlow && !l.keyAllowed then
    throw (.form ⟨"mapping keys are not allowed in this context", l.mark, none⟩)
  let l ← (l.roll l.mark.column none .blockMappingStart l.mark).dropKey
  return { l with keyAllowed := !l.inFlow }.indicator .key 1

/-- A colon behind a key. -/
def value (l : Lexer) : Except Error Lexer :=
  match l.keys with
  | some k :: rest =>
    let i := k.number - l.taken
    let l := { l with
      queue := l.queue.take i ++ Token.mk .key k.mark k.mark :: l.queue.drop i
      keys := none :: rest }
    let l := l.roll k.mark.column (some i) .blockMappingStart k.mark
    .ok ({ l with keyAllowed := false }.indicator .value 1)
  | _ =>
    if !l.inFlow && !l.keyAllowed then
      .error (.form ⟨"mapping values are not allowed in this context", l.mark, none⟩)
    else
      let l := l.roll l.mark.column none .blockMappingStart l.mark
      .ok ({ l with keyAllowed := !l.inFlow }.indicator .value 1)

/-- A value that may be a key. -/
def keyLike (l : Lexer) (scan : Cursor → Except Error (Token × Cursor)) : Except Error Lexer := do
  let l ← l.saveKey
  { l with keyAllowed := false }.scanned scan

/-- A block scalar. -/
def block (l : Lexer) (literal : Bool) : Except Error Lexer := do
  let l ← l.dropKey
  { l with keyAllowed := true }.scanned (blockScalar literal l.indent)

/-- A plain scalar. Behind a line break a key may start. -/
def plain (l : Lexer) : Except Error Lexer := do
  let l ← l.saveKey
  let (token, c, broken) ← plainScalar l.inFlow l.indent l.cursor
  return { l with cursor := c, queue := l.queue ++ [token], keyAllowed := broken }

/-- The characters that start no plain scalar without more. -/
def isIndicator (c : Char) : Bool :=
  ['-', '?', ':', ',', '[', ']', '\x7b', '\x7d', '#', '&', '*', '!', '|', '>', '\'', '"', '%',
    '@', '\x60'].contains c

/-- Scans the next token, or several. -/
def fetch (l : Lexer) : Except Error Lexer := do
  if !l.started then
    return { l with started := true, keyAllowed := true, keys := [none] }.push
      .streamStart l.mark l.mark
  let l ← (l.toNextToken (l.cursor.rest.length + 1)).dropStaleKeys
  let l := l.unroll l.mark.column
  let c := l.cursor
  match c.peek 0 with
  | none => l.streamEnd
  | some ch =>
    if c.mark.column == 0 && ch == '%' then (← l.betweenDocuments).scanned directive
    else if c.hasDocumentMark '-' then return (← l.betweenDocuments).indicator .documentStart 3
    else if c.hasDocumentMark '.' then return (← l.betweenDocuments).indicator .documentEnd 3
    else if ch == '[' then l.flowStart .flowSequenceStart
    else if ch == '\x7b' then l.flowStart .flowMappingStart
    else if ch == ']' then l.flowEnd .flowSequenceEnd
    else if ch == '\x7d' then l.flowEnd .flowMappingEnd
    else if ch == ',' then l.flowEntry
    else if ch == '-' && c.endsWord 1 then l.blockEntry
    else if ch == '?' && (l.inFlow || c.endsWord 1) then l.key
    else if ch == ':' && (l.inFlow || c.endsWord 1) then l.value
    else if ch == '*' then l.keyLike (anchorOrAlias true)
    else if ch == '&' then l.keyLike (anchorOrAlias false)
    else if ch == '!' then l.keyLike (tag l.inFlow)
    else if ch == '|' && !l.inFlow then l.block true
    else if ch == '>' && !l.inFlow then l.block false
    else if ch == '\'' then l.keyLike (quotedScalar true)
    else if ch == '"' then l.keyLike (quotedScalar false)
    else if (!c.endsWord 0 && !isIndicator ch) || (ch == '-' && !c.has 1 isBlank) ||
        (!l.inFlow && (ch == '?' || ch == ':') && !c.endsWord 1) then l.plain
    else
      throw (.during "while scanning for the next token" l.mark
        "found character that cannot start any token" l.mark)

/-! ## Taking tokens -/

/-- Whether the first token of the queue may still turn out to be a key, or the queue is empty. -/
def needsMore (l : Lexer) : Bool :=
  l.queue.isEmpty || l.keys.any fun k => k.any fun k => k.number == l.taken

/-- Scans until the first token is certain. -/
def fill : Nat → Lexer → Except Error Lexer
  | 0, l => .ok l
  | fuel + 1, l => do
    let l ← if l.queue.isEmpty then pure l else l.dropStaleKeys
    if l.needsMore then fill fuel (← l.fetch) else return l

/-- The next token, which stays in the queue. -/
def peek (l : Lexer) : Except Error (Token × Lexer) := do
  let l ← l.fill (l.cursor.rest.length + 4)
  match l.queue with
  | token :: _ => return (token, l)
  | [] => return (⟨.streamEnd, l.mark, l.mark⟩, l)

/-- Takes the first token out of the queue. -/
def drop (l : Lexer) : Lexer :=
  { l with queue := l.queue.drop 1, taken := l.taken + 1 }

end Lexer

end SkillAudit.Yaml
