import SkillAudit.Yaml.Token
/-!
# SkillAudit.Yaml.Scalar

Scanning scalars: plain, quoted and block ones. Within a scalar, line breaks fold: a single one
becomes a space, and of several the first is dropped.
-/

namespace SkillAudit.Yaml

open SkillAudit.Yaml.Cursor

/-- What was read of a scalar, last character first. -/
abbrev Reversed := List Char

/-- The white space in the middle of a scalar that is not yet known to belong to it. -/
structure Gap where
  /-- Blanks before any line break. -/
  blanks : Reversed
  /-- The first line break. -/
  firstBreak : List Char
  /-- The line breaks behind the first one. -/
  moreBreaks : List Char
  /-- Whether there was a line break. -/
  broken : Bool

namespace Gap

/-- No white space. -/
def none : Gap := ⟨[], [], [], false⟩

/-- The text with the white space folded into it. -/
def fold (g : Gap) (text : Reversed) : Reversed :=
  if g.broken then
    if g.firstBreak.head? == some '\n' then
      if g.moreBreaks.isEmpty then ' ' :: text else g.moreBreaks.reverse ++ text
    else g.moreBreaks.reverse ++ g.firstBreak.reverse ++ text
  else g.blanks ++ text

/-- The gap with a line break added. -/
def addBreak (g : Gap) (ending : List Char) : Gap :=
  if g.broken then { g with moreBreaks := g.moreBreaks ++ ending }
  else ⟨[], ending, g.moreBreaks, true⟩

/-- The gap with a blank added; behind a line break blanks are indentation. -/
def addBlank (g : Gap) (ch : Char) : Gap :=
  if g.broken then g else { g with blanks := ch :: g.blanks }

end Gap

/-! ## Quoted scalars -/

/-- The character that an escape of one letter stands for. -/
def escapedChar? (c : Char) : Option Char :=
  match c with
  | '0' => some '\x00'
  | 'a' => some '\x07'
  | 'b' => some '\x08'
  | 't' => some '\t'
  | '\t' => some '\t'
  | 'n' => some '\n'
  | 'v' => some '\x0b'
  | 'f' => some '\x0c'
  | 'r' => some '\r'
  | 'e' => some '\x1b'
  | ' ' => some ' '
  | '"' => some '"'
  | '/' => some '/'
  | '\\' => some '\\'
  | 'N' => some '\u0085'
  | '_' => some '\u00a0'
  | 'L' => some '\u2028'
  | 'P' => some '\u2029'
  | _ => none

/-- How many hexadecimal digits follow the letter of an escape. -/
def escapeDigits? (c : Char) : Option Nat :=
  match c with
  | 'x' => some 2
  | 'u' => some 4
  | 'U' => some 8
  | _ => none

/-- The number that the next `n` hexadecimal digits stand for. -/
def hexNumber? (n : Nat) (s : List Char) : Option Nat :=
  if (s.take n).length = n then
    (s.take n).foldl (fun acc c => do return (← acc) * 16 + (← hexValue? c)) (some 0)
  else none

/-- The text of a quoted scalar while it is read. -/
structure QuotedRun where
  text : Reversed
  cursor : Cursor
  /-- Whether an escaped line break ended the run. -/
  escapedBreak : Bool

/-- Reads the characters of a quoted scalar up to the next white space or its end. -/
def quotedRun (single : Bool) (start : Mark) :
    Nat → Reversed → Cursor → Except Error QuotedRun
  | 0, text, c => .ok ⟨text, c, false⟩
  | fuel + 1, text, c =>
    let quote := if single then '\'' else '"'
    let fail (problem : String) (at_ : Mark) : Except Error QuotedRun :=
      .error (.during "while parsing a quoted scalar" start problem at_)
    match c.rest with
    | [] => .ok ⟨text, c, false⟩
    | ch :: rest =>
      if isBlank ch || isBreak ch then .ok ⟨text, c, false⟩
      else if single && ch == '\'' && rest.head? == some '\'' then
        quotedRun single start fuel ('\'' :: text) c.skip.skip
      else if ch == quote then .ok ⟨text, c, false⟩
      else if !single && ch == '\\' then
        match rest with
        | [] => fail "found unknown escape character" c.mark
        | e :: _ =>
          if isBreak e then .ok ⟨text, c.skip.skipBreak, true⟩
          else
            match escapedChar? e, escapeDigits? e with
            | some ch, _ => quotedRun single start fuel (ch :: text) c.skip.skip
            | none, some n =>
              let c := c.skip.skip
              match hexNumber? n c.rest with
              | none => fail "did not find expected hexadecimal number" c.mark
              | some value =>
                if (0xD800 ≤ value && value ≤ 0xDFFF) || 0x10FFFF < value then
                  fail "found invalid Unicode character escape code" c.mark
                else quotedRun single start fuel (Char.ofNat value :: text) (skipN n c)
            | none, none => fail "found unknown escape character" c.mark
      else quotedRun single start fuel (ch :: text) c.skip

/-- Reads white space within a quoted scalar. -/
def quotedGap : Nat → Gap → Cursor → Gap × Cursor
  | 0, g, c => (g, c)
  | fuel + 1, g, c =>
    match c.rest with
    | [] => (g, c)
    | ch :: _ =>
      if isBlank ch then quotedGap fuel (g.addBlank ch) c.skip
      else if isBreak ch then
        let (ending, c) := c.readBreak
        quotedGap fuel (g.addBreak ending) c
      else (g, c)

/-- Reads a quoted scalar behind its opening mark. -/
def quotedRest (single : Bool) (start : Mark) :
    Nat → Reversed → Cursor → Except Error (Reversed × Cursor)
  | 0, text, c => .ok (text, c)
  | fuel + 1, text, c =>
    let fail (problem : String) : Except Error (Reversed × Cursor) :=
      .error (.during "while scanning a quoted scalar" start problem c.mark)
    if c.hasDocumentMark '-' || c.hasDocumentMark '.' then
      fail "found unexpected document indicator"
    else if c.rest.isEmpty then fail "found unexpected end of stream"
    else
      match quotedRun single start (c.rest.length + 1) text c with
      | .error e => .error e
      | .ok run =>
        if run.cursor.isAt 0 (if single then '\'' else '"') then .ok (run.text, run.cursor.skip)
        else
          let gap := if run.escapedBreak then { Gap.none with broken := true } else Gap.none
          let (gap, c) := quotedGap (run.cursor.rest.length + 1) gap run.cursor
          quotedRest single start fuel (gap.fold run.text) c

/-- Scans a quoted scalar. -/
def quotedScalar (single : Bool) (c : Cursor) : Except Error (Token × Cursor) := do
  let (text, c') ← quotedRest single c.mark (c.rest.length + 2) [] c.skip
  return (⟨.scalar (String.ofList text.reverse)
      (if single then .singleQuoted else .doubleQuoted), c.mark, c'.mark⟩, c')

/-! ## Plain scalars -/

/-- A plain scalar while it is read. -/
structure PlainRun where
  text : Reversed
  gap : Gap
  cursor : Cursor
  /-- The place behind the last character that belongs to the scalar. -/
  stop : Mark

/-- The indicators of collections in flow style. -/
def isFlowIndicator (c : Char) : Bool :=
  c == ',' || c == '[' || c == ']' || c == '\x7b' || c == '\x7d'

/-- Reads the characters of a plain scalar up to the next white space or its end. -/
def plainRun (inFlow : Bool) (start : Mark) : Nat → PlainRun → Except Error PlainRun
  | 0, r => .ok r
  | fuel + 1, r =>
    let c := r.cursor
    match c.rest with
    | [] => .ok r
    | ch :: _ =>
      if isBlank ch || isBreak ch then .ok r
      else if inFlow && ch == ':' && c.has 1 (fun n => isFlowIndicator n || n == '?') then
        .error (.during "while scanning a plain scalar" start "found unexpected ':'" c.mark)
      else if (ch == ':' && c.endsWord 1) || (inFlow && isFlowIndicator ch) then .ok r
      else
        plainRun inFlow start fuel
          ⟨ch :: r.gap.fold r.text, Gap.none, c.skip, c.skip.mark⟩

/-- Reads white space within a plain scalar. -/
def plainGap (indent : Int) (start : Mark) :
    Nat → Gap → Cursor → Except Error (Gap × Cursor)
  | 0, g, c => .ok (g, c)
  | fuel + 1, g, c =>
    match c.rest with
    | [] => .ok (g, c)
    | ch :: _ =>
      if isBlank ch then
        if g.broken && (c.mark.column : Int) < indent && ch == '\t' then
          .error (.during "while scanning a plain scalar" start
            "found a tab character that violates indentation" c.mark)
        else plainGap indent start fuel (g.addBlank ch) c.skip
      else if isBreak ch then
        let (ending, c) := c.readBreak
        plainGap indent start fuel (g.addBreak ending) c
      else .ok (g, c)

/-- Reads a plain scalar, line by line. -/
def plainRest (inFlow : Bool) (indent : Int) (start : Mark) :
    Nat → PlainRun → Except Error PlainRun
  | 0, r => .ok r
  | fuel + 1, r =>
    let c := r.cursor
    if c.hasDocumentMark '-' || c.hasDocumentMark '.' || c.isAt 0 '#' then .ok r
    else
      match plainRun inFlow start (c.rest.length + 1) r with
      | .error e => .error e
      | .ok r =>
        if !(r.cursor.has 0 fun ch => isBlank ch || isBreak ch) then .ok r
        else
          match plainGap indent start (r.cursor.rest.length + 1) r.gap r.cursor with
          | .error e => .error e
          | .ok (gap, c) =>
            let r := { r with gap := gap, cursor := c }
            if !inFlow && (c.mark.column : Int) < indent then .ok r
            else plainRest inFlow indent start fuel r

/-- Scans a plain scalar; the last part of the answer tells whether a line break follows it. -/
def plainScalar (inFlow : Bool) (indent : Int) (c : Cursor) :
    Except Error (Token × Cursor × Bool) := do
  let r ← plainRest inFlow (indent + 1) c.mark (c.rest.length + 2) ⟨[], Gap.none, c, c.mark⟩
  return (⟨.scalar (String.ofList r.text.reverse) .plain, c.mark, r.stop⟩, r.cursor, r.gap.broken)

/-! ## Block scalars -/

/-- What becomes of the line breaks at the end of a block scalar. -/
inductive Chomping where
  | strip
  | clip
  | keep
deriving DecidableEq

/-- Reads the indicators behind the first one: chomping and indentation, in any order. -/
def blockHeader (start : Mark) (c : Cursor) : Except Error (Chomping × Nat × Cursor) :=
  let fail {α : Type} (problem : String) (at_ : Mark) : Except Error α :=
    .error (.during "while scanning a block scalar" start problem at_)
  let chomping (c : Cursor) : Option Chomping :=
    if c.isAt 0 '+' then some .keep else if c.isAt 0 '-' then some .strip else none
  let digit (c : Cursor) : Except Error (Option Nat) :=
    match c.peek 0 with
    | some ch =>
      if ch == '0' then fail "found an indentation indicator equal to 0" c.mark
      else if ch.isDigit then .ok (some (ch.toNat - 48))
      else .ok none
    | none => .ok none
  match chomping c with
  | some how => do
    match ← digit c.skip with
    | some n => return (how, n, c.skip.skip)
    | none => return (how, 0, c.skip)
  | none => do
    match ← digit c with
    | some n =>
      match chomping c.skip with
      | some how => return (how, n, c.skip.skip)
      | none => return (.clip, n, c.skip)
    | none => return (.clip, 0, c)

/-- What is read between two lines of a block scalar: the line breaks, the place behind the last of
    them, the cursor at the next line and the widest indentation met. -/
structure BlockBreaks where
  breaks : List Char
  stop : Mark
  cursor : Cursor
  widest : Nat

/-- Reads indentation and empty lines; an indentation of zero is one not yet known. -/
def blockBreaks (indent : Nat) (start : Mark) : Nat → BlockBreaks → Except Error BlockBreaks
  | 0, b => .ok b
  | fuel + 1, b =>
    let within (c : Cursor) : Bool := indent == 0 || decide (c.mark.column < indent)
    let rec spaces : Nat → Cursor → Cursor
      | 0, c => c
      | n + 1, c => if within c && c.isAt 0 ' ' then spaces n c.skip else c
    let c := spaces (b.cursor.rest.length + 1) b.cursor
    let widest := max b.widest c.mark.column
    if within c && c.isAt 0 '\t' then
      .error (.during "while scanning a block scalar" start
        "found a tab character where an indentation space is expected" c.mark)
    else if !(c.has 0 isBreak) then .ok { b with cursor := c, widest := widest }
    else
      let (ending, c) := c.readBreak
      blockBreaks indent start fuel ⟨b.breaks ++ ending, c.mark, c, widest⟩

/-- A block scalar while it is read. -/
structure BlockRun where
  text : Reversed
  leadingBreak : List Char
  breaks : List Char
  /-- Whether the line before started with a blank. -/
  leadingBlank : Bool
  stop : Mark
  cursor : Cursor

/-- Reads the lines of a block scalar. -/
def blockLines (literal : Bool) (indent : Nat) (start : Mark) :
    Nat → BlockRun → Except Error BlockRun
  | 0, r => .ok r
  | fuel + 1, r =>
    let c := r.cursor
    if c.mark.column == indent && !c.rest.isEmpty then
      let blank := c.has 0 isBlank
      let text :=
        if !literal && r.leadingBreak.head? == some '\n' && !r.leadingBlank && !blank then
          if r.breaks.isEmpty then ' ' :: r.text else r.text
        else r.leadingBreak.reverse ++ r.text
      let text := r.breaks.reverse ++ text
      let line := c.rest.takeWhile fun ch => !isBreak ch
      let (ending, behind) := c.skipToBreak.readBreak
      match blockBreaks indent start (behind.rest.length + 2) ⟨[], behind.mark, behind, 0⟩ with
      | .error e => .error e
      | .ok b =>
        blockLines literal indent start fuel
          ⟨line.reverse ++ text, ending, b.breaks, blank, b.stop, b.cursor⟩
    else .ok r

/-- Scans a block scalar; `indent` is the indentation of the collection that holds it, or -1. -/
def blockScalar (literal : Bool) (indent : Int) (c : Cursor) :
    Except Error (Token × Cursor) := do
  let start := c.mark
  let (chomping, increment, c) ← blockHeader start c.skip
  let c := c.skipWhile isBlank
  let c := if c.isAt 0 '#' then c.skipToBreak else c
  if !c.endsLine then
    throw (.during "while scanning a block scalar" start
      "did not find expected comment or line break" c.mark)
  let c := c.skipBreak
  let given : Nat := if increment = 0 then 0 else (max indent 0).toNat + increment
  let b ← blockBreaks given start (c.rest.length + 2) ⟨[], c.mark, c, 0⟩
  let width : Nat := if given = 0 then max (max b.widest (indent + 1).toNat) 1 else given
  let r ← blockLines literal width start (c.rest.length + 2) ⟨[], [], b.breaks, false, b.stop, b.cursor⟩
  let text := if chomping == .strip then r.text else r.leadingBreak.reverse ++ r.text
  let text := if chomping == .keep then r.breaks.reverse ++ text else text
  return (⟨.scalar (String.ofList text.reverse) (if literal then .literal else .folded),
    start, r.stop⟩, r.cursor)

end SkillAudit.Yaml
