import SkillAudit.Yaml.Token
/-!
# SkillAudit.Yaml.Property

Scanning what stands in front of values and documents: anchors, aliases, tags and directives.
-/

namespace SkillAudit.Yaml

open SkillAudit.Yaml.Cursor

/-! ## Anchors and aliases -/

/-- Scans an anchor, or an alias. -/
def anchorOrAlias (isAlias : Bool) (c : Cursor) : Except Error (Token × Cursor) :=
  let name := c.skip.rest.takeWhile isNameChar
  let c' := c.skip.skipWhile isNameChar
  let ends := c'.endsWord 0 || c'.has 0 ['?', ':', ',', ']', '\x7d', '%', '@', '\x60'].contains
  if name.isEmpty || !ends then
    .error (.during (if isAlias then "while scanning an alias" else "while scanning an anchor")
      c.mark "did not find expected alphabetic or numeric character" c'.mark)
  else
    let text := String.ofList name
    .ok (⟨if isAlias then .alias text else .anchor text, c.mark, c'.mark⟩, c')

/-! ## Tags -/

/-- The characters of a tag, flow indicators aside. -/
def isUriChar (c : Char) : Bool :=
  isNameChar c || [';', '/', '?', ':', '@', '&', '=', '+', '$', '.', '%', '!', '~', '*', '\'',
    '(', ')'].contains c

/-- How many bytes a character takes whose first byte is given. -/
def widthOfLead? (octet : Nat) : Option Nat :=
  if octet < 0x80 then some 1
  else if octet / 32 = 6 then some 2
  else if octet / 16 = 14 then some 3
  else if octet / 8 = 30 then some 4
  else none

/-- The octet that an escape at the cursor stands for. -/
def octet? (c : Cursor) : Option Nat :=
  match c.rest with
  | '%' :: a :: b :: _ => do return (← hexValue? a) * 16 + (← hexValue? b)
  | _ => none

/-- Reads the `missing` further octets of an escaped character. -/
def uriOctets (fail : String → Cursor → Error) :
    Nat → Nat → Cursor → Except Error (Char × Cursor)
  | 0, value, c => .ok (Char.ofNat value, c)
  | missing + 1, value, c =>
    match octet? c with
    | none => .error (fail "did not find URI escaped octet" c)
    | some o =>
      if o / 64 = 2 then uriOctets fail missing (value * 64 + o % 64) (skipN 3 c)
      else .error (fail "found an incorrect trailing UTF-8 octet" c)

/-- Reads an escaped character of a tag. -/
def uriEscape (fail : String → Cursor → Error) (c : Cursor) : Except Error (Char × Cursor) :=
  match octet? c with
  | none => .error (fail "did not find URI escaped octet" c)
  | some o =>
    match widthOfLead? o with
    | none => .error (fail "found an incorrect leading UTF-8 octet" c)
    | some width =>
      let bits := if width = 1 then o else o % Nat.pow 2 (7 - width)
      uriOctets fail (width - 1) bits (skipN 3 c)

/-- Reads the characters of a tag, the ones read so far last one first. -/
def uriChars (verbatim : Bool) (fail : String → Cursor → Error) :
    Nat → List Char → Cursor → Except Error (List Char × Cursor)
  | 0, text, c => .ok (text, c)
  | fuel + 1, text, c =>
    match c.peek 0 with
    | none => .ok (text, c)
    | some ch =>
      if ch == '%' then
        match uriEscape fail c with
        | .error e => .error e
        | .ok (ch, c) => uriChars verbatim fail fuel (ch :: text) c
      else if isUriChar ch || (verbatim && (ch == ',' || ch == '[' || ch == ']')) then
        uriChars verbatim fail fuel (ch :: text) c.skip
      else .ok (text, c)

/-- Scans the body of a tag behind `head`, whose first character does not belong to it. -/
def tagUri (verbatim directive : Bool) (head : List Char) (start : Mark) (c : Cursor) :
    Except Error (String × Cursor) := do
  let fail (problem : String) (c : Cursor) : Error :=
    .during (if directive then "while parsing a %TAG directive" else "while parsing a tag") start
      problem c.mark
  let (text, c') ← uriChars verbatim fail (c.rest.length + 1) [] c
  if head.isEmpty && c'.mark.index == c.mark.index then
    throw (fail "did not find expected tag URI" c')
  return (String.ofList (head.drop 1 ++ text.reverse), c')

/-- Scans the handle of a tag: a `!`, and if a name and another `!` follow, these too. -/
def tagHandle (directive : Bool) (start : Mark) (c : Cursor) :
    Except Error (List Char × Cursor) :=
  if !c.isAt 0 '!' then
    .error (.during (if directive then "while scanning a tag directive" else "while scanning a tag")
      start "did not find expected '!'" c.mark)
  else
    let name := c.skip.rest.takeWhile isNameChar
    let c' := c.skip.skipWhile isNameChar
    if c'.isAt 0 '!' then .ok ('!' :: name ++ ['!'], c'.skip)
    else if directive && !name.isEmpty then
      .error (.during "while parsing a tag directive" start "did not find expected '!'" c'.mark)
    else .ok ('!' :: name, c')

/-- Scans a tag. -/
def tag (inFlow : Bool) (c : Cursor) : Except Error (Token × Cursor) := do
  let start := c.mark
  let fail {α : Type} (problem : String) (c : Cursor) : Except Error α :=
    .error (.during "while scanning a tag" start problem c.mark)
  let (handle, suffix, c') ←
    if c.isAt 1 '<' then do
      let (suffix, c') ← tagUri true false [] start c.skip.skip
      if !c'.isAt 0 '>' then
        fail "did not find the expected '>'" c'
      else
        pure ("", suffix, c'.skip)
    else do
      let (handle, c') ← tagHandle false start c
      if 1 < handle.length && handle.getLast? == some '!' then do
        let (suffix, c') ← tagUri false false [] start c'
        pure (String.ofList handle, suffix, c')
      else do
        let (suffix, c') ← tagUri false false handle start c'
        pure (if suffix.isEmpty then ("", "!", c') else ("!", suffix, c'))
  if !(inFlow && c'.isAt 0 ',') && !c'.endsWord 0 then
    fail "did not find expected whitespace or line break" c'
  else
    return (⟨.tag handle suffix, start, c'.mark⟩, c')

/-! ## Directives -/

/-- Scans a number of a version. -/
def versionNumber (start : Mark) (c : Cursor) : Except Error (Nat × Cursor) :=
  let fail (problem : String) (m : Mark) : Except Error (Nat × Cursor) :=
    .error (.during "while scanning a %YAML directive" start problem m)
  let ds := c.rest.takeWhile Char.isDigit
  if 9 < ds.length then fail "found extremely long version number" (skipN 9 c).mark
  else if ds.isEmpty then fail "did not find expected version number" c.mark
  else .ok (ds.foldl (fun n d => n * 10 + (d.toNat - 48)) 0, skipN ds.length c)

/-- Scans a directive, with the rest of its line. -/
def directive (c : Cursor) : Except Error (Token × Cursor) := do
  let start := c.mark
  let fail {α : Type} (problem : String) (c : Cursor) : Except Error α :=
    .error (.during "while scanning a directive" start problem c.mark)
  let name := String.ofList (c.skip.rest.takeWhile isNameChar)
  let c := c.skip.skipWhile isNameChar
  if name.isEmpty then fail "could not find expected directive name" c
  else if !c.endsWord 0 then fail "found unexpected non-alphabetical character" c
  else
    let (kind, c) ←
      if name == "YAML" then do
        let (major, c) ← versionNumber start (c.skipWhile isBlank)
        if !c.isAt 0 '.' then
          throw (.during "while scanning a %YAML directive" start
            "did not find expected digit or '.' character" c.mark)
        let (minor, c) ← versionNumber start c.skip
        pure (TokenKind.versionDirective major minor, c)
      else if name == "TAG" then do
        let (handle, c) ← tagHandle true start (c.skipWhile isBlank)
        if !c.has 0 isBlank then
          throw (.during "while scanning a %TAG directive" start
            "did not find expected whitespace" c.mark)
        let (expansion, c) ← tagUri true true [] start (c.skipWhile isBlank)
        if !c.endsWord 0 then
          throw (.during "while scanning a %TAG directive" start
            "did not find expected whitespace or line break" c.mark)
        pure (TokenKind.tagDirective (String.ofList handle) expansion, c)
      else fail "found unknown directive name" c
    let stop := c.mark
    let c := c.skipWhile isBlank
    let c := if c.isAt 0 '#' then c.skipToBreak else c
    if !c.endsLine then fail "did not find expected comment or line break" c
    else return (⟨kind, start, stop⟩, c.skipBreak)

end SkillAudit.Yaml
