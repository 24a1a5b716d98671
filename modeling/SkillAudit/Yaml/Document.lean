import SkillAudit.Yaml.Event
import SkillAudit.Yaml.Resolve
import SkillAudit.Number.Quantity
/-!
# SkillAudit.Yaml.Document

The value of a text. The events of the one document are collected first, as far as they are
well-formed; then they are read as a value. A fault of the form is met when the value needs an
event that is not there, so a fault of the data in front of it is reported first.

An alias is read by reading the events of its anchor again.
-/

namespace SkillAudit.Yaml

/-- The events of a document between its start and its end. -/
structure Document where
  events : Array Event
  /-- What ends the events early. -/
  fault : Option Error
  /-- The numbers of the anchors, the latest first. -/
  anchors : List (String × Nat)
  /-- Where the values of the anchors start, by their numbers, the latest first. -/
  targets : List (Nat × Nat)
  /-- The numbers of the anchors that the aliases name, by the places of the aliases. -/
  aliases : List (Nat × Nat)

namespace Document

/-- Nothing read yet. -/
def empty : Document := ⟨#[], none, [], [], []⟩

/-- How many names have been given. -/
def anchorCount (d : Document) : Nat := d.anchors.length

/-- Adds an event. An anchor gets the number of names given so far, in place of an earlier anchor of
    that name. -/
def push (d : Document) (e : Event) (anchor : Option String) : Document :=
  let d := match anchor with
    | some name =>
      let number := d.anchorCount
      { d with
        anchors := (name, number) :: d.anchors.filter fun a => a.1 != name
        targets := (number, d.events.size) :: d.targets }
    | none => d
  { d with events := d.events.push e }

/-- Collects the events of a document; the reader of what follows is none at the end of the
    text. -/
def collect : Nat → Document → EventReader → Document × Option EventReader
  | 0, d, r => (d, some r)
  | fuel + 1, d, r =>
    match r.next with
    | .error e => ({ d with fault := some e }, none)
    | .ok (e, r) =>
      match e.kind with
      | .streamStart | .documentStart => collect fuel d r
      | .streamEnd => (d, none)
      | .documentEnd => (d, some r)
      | .alias name =>
        match d.anchors.find? fun a => a.1 == name with
        | some (_, number) =>
          collect fuel { (d.push e none) with aliases := (d.events.size, number) :: d.aliases } r
        | none => ({ d with fault := some (.unknownAnchor e.mark) }, none)
      | .scalar anchor _ _ _ => collect fuel (d.push e anchor) r
      | .sequenceStart anchor _ => collect fuel (d.push e anchor) r
      | .mappingStart anchor _ => collect fuel (d.push e anchor) r
      | .sequenceEnd | .mappingEnd => collect fuel (d.push e none) r

end Document

/-! ## Paths -/

/-- The way from the root of a document to a value. -/
inductive Path where
  | root
  | index (parent : Path) (i : Nat)
  | key (parent : Path) (name : String)
  | alias (parent : Path)
  /-- The value of a key that is no scalar. -/
  | unnamed (parent : Path)

namespace Path

/-- A way in words. -/
def describe : Path → String
  | root => "."
  | index parent i => parent.describe ++ "[" ++ toString i ++ "]"
  | key parent name => inFront parent parent.describe ++ name
  | .alias parent => parent.describe
  | unnamed parent => inFront parent parent.describe ++ "?"
where
  /-- The way to a mapping, described in words, in front of one of its keys. -/
  inFront : Path → String → String
    | root, _ => ""
    | _, words => words ++ "."

end Path

/-! ## Reading the events -/

/-- What is written of a key that occurs twice. -/
def describeDuplicate : Value → String
  | .null => "duplicate entry with null key"
  | .bool b => s!"duplicate entry with key \x60{b}\x60"
  | .int n => s!"duplicate entry with key {n}"
  | .float (.decimal d) =>
    "duplicate entry with key " ++ (Quantity.shortest d.toFloat).marked ""
  | .float (.infinity negative) =>
    "duplicate entry with key " ++ (if negative then "-.inf" else ".inf")
  | .float .notANumber => "duplicate entry with key .nan"
  | .str s => "duplicate entry with key " ++ Quoted.quote s
  | .seq _ | .map _ | .tagged _ _ => "duplicate entry in YAML map"

/-- How deep collections may be nested. -/
def depthLimit : Nat := 128

/-- Where the reading of a value stands: the next event, how many aliases have been followed, and
    how many levels of nesting are left. -/
structure Position where
  event : Nat
  jumps : Nat
  levels : Nat

namespace Document

/-- The target of the alias at a place. -/
def target? (d : Document) (place : Nat) : Option Nat := do
  let (_, number) ← d.aliases.find? fun a => a.1 == place
  let (_, start) ← d.targets.find? fun t => t.1 == number
  return start

/-- The error where events are missing. -/
def missing (d : Document) : Error := d.fault.getD .manyDocuments

mutual

/-- Reads a value. `tagged` tells that its tag has been read. -/
def valueAt (d : Document) (fuel : Nat) (path : Path) (tagged : Bool) (p : Position) :
    Except Error (Value × Position) :=
  match fuel with
  | 0 => .error .tooManyAliases
  | fuel + 1 =>
    match d.events[p.event]? with
    | none => .error d.missing
    | some e =>
      let own (tag : Option String) : Option String :=
        if tagged then none else Resolve.ownTag? tag
      let behindTag (name : String) : Except Error (Value × Position) := do
        let (v, p) ← valueAt d fuel path true p
        return (.tagged name v, p)
      let entered (read : Position → Except Error (Value × Position)) :
          Except Error (Value × Position) :=
        if p.levels = 0 then .error (.tooDeep e.mark)
        else do
          let (v, q) ← read { p with event := p.event + 1, levels := p.levels - 1 }
          return (v, { q with levels := p.levels })
      match e.kind with
      | .alias _ =>
        let jumps := p.jumps + 1
        if d.events.size * 100 < jumps then .error .tooManyAliases
        else
          match d.target? p.event with
          | none => .error (.unknownAnchor e.mark)
          | some start => do
            let (v, q) ← valueAt d fuel (.alias path) false { p with event := start, jumps := jumps }
            return (v, { p with event := p.event + 1, jumps := q.jumps })
      | .scalar _ tag text style =>
        match own tag with
        | some name => behindTag name
        | none =>
          match Resolve.scalar (if tagged then none else tag) text style with
          | .ok v => .ok (v, { p with event := p.event + 1 })
          | .error problem => .error (.data problem path.describe e.mark)
      | .sequenceStart _ tag =>
        match own tag with
        | some name => behindTag name
        | none => entered (itemsAt d fuel path [])
      | .mappingStart _ tag =>
        match own tag with
        | some name => behindTag name
        | none => entered (entriesAt d fuel path e.mark [])
      | _ => .error d.missing

/-- Reads the items of a sequence that are left; `read` holds the others, last one first. -/
def itemsAt (d : Document) (fuel : Nat) (path : Path) (read : List Value) (p : Position) :
    Except Error (Value × Position) :=
  match fuel with
  | 0 => .error .tooManyAliases
  | fuel + 1 =>
    match d.events[p.event]? with
    | none => .error d.missing
    | some ⟨.sequenceEnd, _⟩ => .ok (.seq read.reverse, { p with event := p.event + 1 })
    | some _ => do
      let (v, p) ← valueAt d fuel (.index path read.length) false p
      itemsAt d fuel path (v :: read) p

/-- Reads the entries of a mapping that are left; `read` holds the others, last one first. -/
def entriesAt (d : Document) (fuel : Nat) (path : Path) (start : Mark)
    (read : List (Value × Value)) (p : Position) : Except Error (Value × Position) :=
  match fuel with
  | 0 => .error .tooManyAliases
  | fuel + 1 =>
    match d.events[p.event]? with
    | none => .error d.missing
    | some ⟨.mappingEnd, _⟩ => .ok (.map read.reverse, { p with event := p.event + 1 })
    | some e => do
      let (k, p) ← valueAt d fuel path false p
      if read.any fun entry => entry.1 == k then
        throw (.data (describeDuplicate k) path.describe start)
      let path' : Path := match e.kind with
        | .scalar _ _ text _ => .key path text
        | _ => .unnamed path
      let (v, p) ← valueAt d fuel path' false p
      entriesAt d fuel path start ((k, v) :: read) p

end

/-- Reads the value of a document. An empty one is null. -/
def value (d : Document) : Except Error Value :=
  if d.events.isEmpty && d.fault.isNone then .ok .null
  else do
    -- every level of nesting passes over at most all events, and twice as many steps are taken
    -- for aliases and tags
    let fuel := (d.events.size + 4) * (4 * depthLimit)
    let (v, _) ← d.valueAt fuel .root false ⟨0, 0, depthLimit⟩
    return v

end Document

/-- How many bytes lie in front of the first character that no text may hold. -/
def forbiddenOffset? : Nat → List Char → Option Nat
  | _, [] => none
  | n, c :: rest => if isAllowed c then forbiddenOffset? (n + c.utf8Size) rest else some n

/-- Reads a text as one value. -/
def Value.ofText (s : String) : Except Error Value :=
  let cs := s.toList
  match forbiddenOffset? 0 cs with
  | some offset => .error (.forbidden offset)
  | none =>
    -- every character gives rise to at most a few events
    let (d, rest) := Document.collect (8 * cs.length + 16) .empty (EventReader.ofText cs)
    match d.value with
    | .error e => .error e
    | .ok v =>
      match d.fault with
      | some e => .error e
      | none =>
        match rest with
        | none => .ok v
        | some r =>
          match r.next with
          | .ok (⟨.streamEnd, _⟩, _) => .ok v
          | _ => .error .manyDocuments

end SkillAudit.Yaml
