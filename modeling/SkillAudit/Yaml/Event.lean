import SkillAudit.Yaml.Lexer
/-!
# SkillAudit.Yaml.Event

The structure of a text as a sequence of events: scalars, aliases, and the starts and ends of
collections and documents. Each event is read from the state the one before it left, and a fault
shows only when the event is read in which it lies.
-/

namespace SkillAudit.Yaml

/-- What an event is. Only what the data need is kept: the styles of collections, the explicitness
    of documents and the versions of directives are checked and dropped. -/
inductive EventKind where
  | streamStart
  | streamEnd
  | documentStart
  | documentEnd
  | alias (name : String)
  | scalar (anchor tag : Option String) (text : String) (style : ScalarStyle)
  | sequenceStart (anchor tag : Option String)
  | sequenceEnd
  | mappingStart (anchor tag : Option String)
  | mappingEnd
deriving DecidableEq, Repr

/-- An event and its first place. -/
structure Event where
  kind : EventKind
  mark : Mark
deriving DecidableEq, Repr

/-- What is expected next. -/
inductive Expecting where
  | streamStart
  | implicitDocumentStart
  | documentStart
  | documentContent
  | documentEnd
  | blockNode
  | blockSequenceEntry (first : Bool)
  | indentlessSequenceEntry
  | blockMappingKey (first : Bool)
  | blockMappingValue
  | flowSequenceEntry (first : Bool)
  | flowPairKey
  | flowPairValue
  | flowPairEnd
  | flowMappingKey (first : Bool)
  | flowMappingValue (empty : Bool)
  | nothing
deriving DecidableEq, Repr

/-- The state of the reader of events. -/
structure EventReader where
  lexer : Lexer
  expecting : Expecting
  /-- What is expected when the collections being read have ended, innermost first. -/
  later : List Expecting
  /-- Where the collections being read start, innermost first. -/
  starts : List Mark
  /-- The handles that tags may use, and what they stand for. -/
  handles : List (String × String)

namespace EventReader

/-- The state before a text. -/
def ofText (s : List Char) : EventReader := ⟨Lexer.ofText s, .streamStart, [], [], []⟩

/-- An event, and the state behind it. -/
abbrev Answer := Except Error (Event × EventReader)

/-- The next token, which is not taken. -/
def peek (r : EventReader) : Except Error (Token × EventReader) := do
  let (token, l) ← r.lexer.peek
  return (token, { r with lexer := l })

/-- Takes a token. -/
def drop (r : EventReader) : EventReader := { r with lexer := r.lexer.drop }

/-- Goes on with what was put off. -/
def resume (r : EventReader) : EventReader :=
  { r with expecting := r.later.head?.getD .nothing, later := r.later.drop 1 }

/-- Expects something next. -/
def expect (r : EventReader) (what : Expecting) : EventReader := { r with expecting := what }

/-- Puts something off. -/
def putOff (r : EventReader) (what : Expecting) : EventReader :=
  { r with later := what :: r.later }

/-- Notes where a collection starts. -/
def entered (r : EventReader) (m : Mark) : EventReader := { r with starts := m :: r.starts }

/-- Leaves a collection. -/
def left (r : EventReader) : EventReader := { r.resume with starts := r.starts.drop 1 }

/-- An event. -/
def emit (r : EventReader) (kind : EventKind) (m : Mark) : Answer := .ok (⟨kind, m⟩, r)

/-- The empty scalar that stands where a value is left out. -/
def emitEmpty (r : EventReader) (next : Expecting) (m : Mark) : Answer :=
  (r.expect next).emit (.scalar none none "" .plain) m

/-- A fault at a token within the collection being read. -/
def failIn (r : EventReader) (context problem : String) (token : Token) : Answer :=
  .error (.during context (r.starts.head?.getD Mark.start) problem token.start)

/-! ## Nodes -/

/-- The anchor and tag in front of a node: the anchor, the handle and suffix of the tag with its
    place, and the place where they start, if there are any. -/
structure Properties where
  anchor : Option String
  tag : Option (String × String × Mark)
  start : Option Mark

/-- Reads an anchor and a tag, in any order. -/
def properties (r : EventReader) : Except Error (Properties × EventReader) := do
  let (token, r) ← r.peek
  match token.kind with
  | .anchor name =>
    let (second, r) ← r.drop.peek
    match second.kind with
    | .tag handle suffix =>
      return (⟨some name, some (handle, suffix, second.start), some token.start⟩, r.drop)
    | _ => return (⟨some name, none, some token.start⟩, r)
  | .tag handle suffix =>
    let (second, r) ← r.drop.peek
    match second.kind with
    | .anchor name =>
      return (⟨some name, some (handle, suffix, token.start), some token.start⟩, r.drop)
    | _ => return (⟨none, some (handle, suffix, token.start), some token.start⟩, r)
  | _ => return (⟨none, none, none⟩, r)

/-- The tag in full. -/
def fullTag (r : EventReader) (p : Properties) (start : Mark) : Except Error (Option String) :=
  match p.tag with
  | none => .ok none
  | some (handle, suffix, m) =>
    if handle.isEmpty then .ok (some suffix)
    else
      match r.handles.find? fun h => h.1 == handle with
      | some (_, expansion) => .ok (some (expansion ++ suffix))
      | none => .error (.during "while parsing a node" start "found undefined tag handle" m)

/-- Reads a node. A hyphen may open a sequence without indentation of its own as the value of a
    mapping in block style. -/
def node (r : EventReader) (block indentless : Bool) : Answer := do
  let (token, r) ← r.peek
  match token.kind with
  | .alias name => r.resume.drop.emit (.alias name) token.start
  | _ =>
    let (p, r) ← r.properties
    let (token, r) ← r.peek
    let start := p.start.getD token.start
    let tag ← r.fullTag p start
    let collection (next : Expecting) (kind : EventKind) : Answer :=
      (r.expect next).emit kind start
    match token.kind with
    | .scalar text style => r.resume.drop.emit (.scalar p.anchor tag text style) start
    | .flowSequenceStart => collection (.flowSequenceEntry true) (.sequenceStart p.anchor tag)
    | .flowMappingStart => collection (.flowMappingKey true) (.mappingStart p.anchor tag)
    | kind =>
      if indentless && kind == .blockEntry then
        collection .indentlessSequenceEntry (.sequenceStart p.anchor tag)
      else if block && kind == .blockSequenceStart then
        collection (.blockSequenceEntry true) (.sequenceStart p.anchor tag)
      else if block && kind == .blockMappingStart then
        collection (.blockMappingKey true) (.mappingStart p.anchor tag)
      else if p.anchor.isSome || tag.isSome then
        r.resume.emit (.scalar p.anchor tag "" .plain) start
      else
        .error (.during (if block then "while parsing a block node" else "while parsing a flow node")
          start "did not find expected node content" token.start)

/-! ## Documents -/

/-- Reads the directives in front of a document. -/
def directives : Nat → Bool → List (String × String) → EventReader →
    Except Error (List (String × String) × EventReader)
  | 0, _, handles, r => .ok (handles, r)
  | fuel + 1, hasVersion, handles, r => do
    let (token, r) ← r.peek
    let fail (problem : String) : Except Error (List (String × String) × EventReader) :=
      .error (.form ⟨problem, token.start, none⟩)
    match token.kind with
    | .versionDirective major minor =>
      if hasVersion then fail "found duplicate %YAML directive"
      else if major != 1 || (minor != 1 && minor != 2) then fail "found incompatible YAML document"
      else directives fuel true handles r.drop
    | .tagDirective handle expansion =>
      if handles.any fun h => h.1 == handle then fail "found duplicate %TAG directive"
      else directives fuel hasVersion (handles ++ [(handle, expansion)]) r.drop
    | _ => return (handles, r)

/-- The handles that are known without a directive, behind those that were given. -/
def withDefaultHandles (handles : List (String × String)) : List (String × String) :=
  handles ++ [("!", "!"), ("!!", "tag:yaml.org,2002:")].filter fun d =>
    !(handles.any fun h => h.1 == d.1)

/-- Skips the marks that end documents. -/
def skipDocumentEnds : Nat → EventReader → Except Error EventReader
  | 0, r => .ok r
  | fuel + 1, r => do
    let (token, r) ← r.peek
    if token.kind == .documentEnd then skipDocumentEnds fuel r.drop else return r

/-- How many tokens a text can have at most. -/
def bound (r : EventReader) : Nat := r.lexer.cursor.rest.length + r.lexer.queue.length + 4

/-- Reads the start of a document, or the end of the text. -/
def documentStart (r : EventReader) (implicit : Bool) : Answer := do
  let r ← if implicit then pure r else skipDocumentEnds r.bound r
  let (token, r) ← r.peek
  let explicit := match token.kind with
    | .versionDirective _ _ | .tagDirective _ _ | .documentStart => true
    | _ => false
  if token.kind == .streamEnd then
    (r.drop.expect .nothing).emit .streamEnd token.start
  else if implicit && !explicit then
    let r := { (r.putOff .documentEnd) with handles := withDefaultHandles [] }
    (r.expect .blockNode).emit .documentStart token.start
  else
    let start := token.start
    let (handles, r) ← directives r.bound false [] r
    let (token, r) ← r.peek
    if token.kind != .documentStart then
      .error (.form ⟨"did not find expected <document start>", token.start, none⟩)
    else
      let r := { (r.putOff .documentEnd).drop with handles := withDefaultHandles handles }
      (r.expect .documentContent).emit .documentStart start

/-- Reads the content of a document that was started by a mark. -/
def documentContent (r : EventReader) : Answer := do
  let (token, r) ← r.peek
  match token.kind with
  | .versionDirective _ _ | .tagDirective _ _ | .documentStart | .documentEnd | .streamEnd =>
    r.resume.emit (.scalar none none "" .plain) token.start
  | _ => r.node true false

/-- Reads the end of a document. -/
def documentEnd (r : EventReader) : Answer := do
  let (token, r) ← r.peek
  let r := if token.kind == .documentEnd then r.drop else r
  { r with expecting := .documentStart, handles := [] }.emit .documentEnd token.start

/-! ## Collections in block style -/

/-- Reads an item of a sequence, or its end. -/
def blockSequenceEntry (r : EventReader) (first : Bool) : Answer := do
  let (token, r) ← r.peek
  let (token, r) ← if first then (r.entered token.start).drop.peek else pure (token, r)
  match token.kind with
  | .blockEntry =>
    let (next, r) ← r.drop.peek
    if next.kind != .blockEntry && next.kind != .blockEnd then
      (r.putOff (.blockSequenceEntry false)).node true false
    else r.emitEmpty (.blockSequenceEntry false) token.stop
  | .blockEnd => r.left.drop.emit .sequenceEnd token.start
  | _ =>
    r.failIn "while parsing a block collection" "did not find expected '-' indicator" token

/-- Whether a token shows that a key or value is left out in front of it. -/
def endsBlockItem (kind : TokenKind) : Bool :=
  kind == .key || kind == .value || kind == .blockEnd

/-- Reads an item of a sequence without indentation, or its end. -/
def indentlessSequenceEntry (r : EventReader) : Answer := do
  let (token, r) ← r.peek
  match token.kind with
  | .blockEntry =>
    let (next, r) ← r.drop.peek
    if next.kind != .blockEntry && !endsBlockItem next.kind then
      (r.putOff .indentlessSequenceEntry).node true false
    else r.emitEmpty .indentlessSequenceEntry token.stop
  | _ => r.resume.emit .sequenceEnd token.start

/-- Reads a key of a mapping, or its end. -/
def blockMappingKey (r : EventReader) (first : Bool) : Answer := do
  let (token, r) ← r.peek
  let (token, r) ← if first then (r.entered token.start).drop.peek else pure (token, r)
  match token.kind with
  | .key =>
    let (next, r) ← r.drop.peek
    if !endsBlockItem next.kind then (r.putOff .blockMappingValue).node true true
    else r.emitEmpty .blockMappingValue token.stop
  | .blockEnd => r.left.drop.emit .mappingEnd token.start
  | _ => r.failIn "while parsing a block mapping" "did not find expected key" token

/-- Reads a value of a mapping. -/
def blockMappingValue (r : EventReader) : Answer := do
  let (token, r) ← r.peek
  match token.kind with
  | .value =>
    let (next, r) ← r.drop.peek
    if !endsBlockItem next.kind then (r.putOff (.blockMappingKey false)).node true true
    else r.emitEmpty (.blockMappingKey false) token.stop
  | _ => r.emitEmpty (.blockMappingKey false) token.start

/-! ## Collections in flow style -/

/-- Reads an item of a sequence, or its end. A key in a sequence makes a mapping of one pair. -/
def flowSequenceEntry (r : EventReader) (first : Bool) : Answer := do
  let (token, r) ← r.peek
  let (token, r) ← if first then (r.entered token.start).drop.peek else pure (token, r)
  if token.kind == .flowSequenceEnd then r.left.drop.emit .sequenceEnd token.start
  else if !first && token.kind != .flowEntry then
    r.failIn "while parsing a flow sequence" "did not find expected ',' or ']'" token
  else
    let (token, r) ← if first then pure (token, r) else r.drop.peek
    match token.kind with
    | .key => (r.drop.expect .flowPairKey).emit (.mappingStart none none) token.start
    | .flowSequenceEnd => r.left.drop.emit .sequenceEnd token.start
    | _ => (r.putOff (.flowSequenceEntry false)).node false false

/-- Reads the key of a pair. Where the key is left out the token behind it is passed over. -/
def flowPairKey (r : EventReader) : Answer := do
  let (token, r) ← r.peek
  match token.kind with
  | .value | .flowEntry | .flowSequenceEnd => r.drop.emitEmpty .flowPairValue token.stop
  | _ => (r.putOff .flowPairValue).node false false

/-- Reads the value of a pair. -/
def flowPairValue (r : EventReader) : Answer := do
  let (token, r) ← r.peek
  if token.kind == .value then
    let (next, r) ← r.drop.peek
    if next.kind != .flowEntry && next.kind != .flowSequenceEnd then
      (r.putOff .flowPairEnd).node false false
    else r.emitEmpty .flowPairEnd next.start
  else r.emitEmpty .flowPairEnd token.start

/-- Reads the end of a pair. -/
def flowPairEnd (r : EventReader) : Answer := do
  let (token, r) ← r.peek
  (r.expect (.flowSequenceEntry false)).emit .mappingEnd token.start

/-- Reads a key of a mapping, or its end. -/
def flowMappingKey (r : EventReader) (first : Bool) : Answer := do
  let (token, r) ← r.peek
  let (token, r) ← if first then (r.entered token.start).drop.peek else pure (token, r)
  if token.kind == .flowMappingEnd then r.left.drop.emit .mappingEnd token.start
  else if !first && token.kind != .flowEntry then
    r.failIn "while parsing a flow mapping" "did not find expected ',' or '\x7d'" token
  else
    let (token, r) ← if first then pure (token, r) else r.drop.peek
    match token.kind with
    | .key =>
      let (next, r) ← r.drop.peek
      match next.kind with
      | .value | .flowEntry | .flowMappingEnd => r.emitEmpty (.flowMappingValue false) next.start
      | _ => (r.putOff (.flowMappingValue false)).node false false
    | .flowMappingEnd => r.left.drop.emit .mappingEnd token.start
    | _ => (r.putOff (.flowMappingValue true)).node false false

/-- Reads a value of a mapping; `empty` tells that the key has none. -/
def flowMappingValue (r : EventReader) (empty : Bool) : Answer := do
  let (token, r) ← r.peek
  if empty then r.emitEmpty (.flowMappingKey false) token.start
  else if token.kind == .value then
    let (next, r) ← r.drop.peek
    if next.kind != .flowEntry && next.kind != .flowMappingEnd then
      (r.putOff (.flowMappingKey false)).node false false
    else r.emitEmpty (.flowMappingKey false) next.start
  else r.emitEmpty (.flowMappingKey false) token.start

/-! ## Events -/

/-- Reads the start of the text. -/
def streamStart (r : EventReader) : Answer := do
  let (token, r) ← r.peek
  (r.drop.expect .implicitDocumentStart).emit .streamStart token.start

/-- Reads the next event. -/
def next (r : EventReader) : Answer :=
  match r.expecting with
  | .streamStart => r.streamStart
  | .implicitDocumentStart => r.documentStart true
  | .documentStart => r.documentStart false
  | .documentContent => r.documentContent
  | .documentEnd => r.documentEnd
  | .blockNode => r.node true false
  | .blockSequenceEntry first => r.blockSequenceEntry first
  | .indentlessSequenceEntry => r.indentlessSequenceEntry
  | .blockMappingKey first => r.blockMappingKey first
  | .blockMappingValue => r.blockMappingValue
  | .flowSequenceEntry first => r.flowSequenceEntry first
  | .flowPairKey => r.flowPairKey
  | .flowPairValue => r.flowPairValue
  | .flowPairEnd => r.flowPairEnd
  | .flowMappingKey first => r.flowMappingKey first
  | .flowMappingValue empty => r.flowMappingValue empty
  | .nothing => r.emit .streamEnd r.lexer.mark

end EventReader

end SkillAudit.Yaml
