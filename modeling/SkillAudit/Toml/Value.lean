import SkillAudit.Number.Decimal
/-!
# SkillAudit.Toml.Value

The values of TOML texts, and the tables that a text builds line by line. A table may be made in
several ways, by a header, on the way to one, or by a dotted key, and it depends on the way in
which it was made whether later lines may add to it.
-/

namespace SkillAudit.Toml

/-- A value. Dates are read and not kept, since no setting is one. -/
inductive Value where
  | bool (b : Bool)
  | int (n : Int)
  | float (x : Numeral)
  | str (s : String)
  | date
  | arr (items : List Value)
  | table (entries : List (String × Value))

/-- What a key of a table under construction stands for. -/
inductive Item where
  /-- A finished value, to which nothing can be added. -/
  | value (v : Value)
  /-- A table: `implied` if no line has defined it as such, and `dotted` if a dotted key made it. -/
  | table (implied dotted : Bool) (entries : List (String × Item))
  /-- The tables of an array, of which the last one can be added to. -/
  | tables (before : List (List (String × Item))) (last : List (String × Item))

/-- The entries of a table under construction. -/
abbrev Entries := List (String × Item)

namespace Entries

/-- What a key stands for. -/
def get? (key : String) (entries : Entries) : Option Item :=
  (entries.find? fun e => e.1 == key).map (·.2)

/-- Sets what a key stands for. -/
def set (key : String) (item : Item) : Entries → Entries
  | [] => [(key, item)]
  | e :: rest => if e.1 == key then (key, item) :: rest else e :: set key item rest

/-- Gives a value to the key at the end of a path. A path of one key adds to the table itself; a
    longer one leads through tables that dotted keys have made, and makes those that are missing.
    Nothing is given a value twice. -/
def assign? (value : Value) : List String → Entries → Option Entries
  | [], _ => none
  | [key], entries =>
    if (get? key entries).isSome then none else some (entries.set key (.value value))
  | key :: next :: rest, entries =>
    match get? key entries with
    | none =>
      (assign? value (next :: rest) []).map fun inner => entries.set key (.table true true inner)
    | some (.table implied dotted inner) =>
      if !implied || (rest.isEmpty && !dotted) then none
      else
        (assign? value (next :: rest) inner).map fun inner =>
          entries.set key (.table implied dotted inner)
    | some (.tables before last) =>
      if rest.isEmpty then none
      else
        (assign? value (next :: rest) last).map fun last => entries.set key (.tables before last)
    | some (.value _) => none

/-- Changes the table at a path with `change?`, from what it is so far. Tables on the way are
    made if they are missing. -/
def within? (change? : String → Entries → Option Entries) : List String → Entries → Option Entries
  | [], _ => none
  | [key], entries => change? key entries
  | key :: next :: rest, entries =>
    match get? key entries with
    | none =>
      (within? change? (next :: rest) []).map fun inner => entries.set key (.table true false inner)
    | some (.table implied dotted inner) =>
      (within? change? (next :: rest) inner).map fun inner =>
        entries.set key (.table implied dotted inner)
    | some (.tables before last) =>
      (within? change? (next :: rest) last).map fun last => entries.set key (.tables before last)
    | some (.value _) => none

/-- Defines the table of a key by its content, unless it is defined. -/
def define? (content? : Entries → Option Entries) (key : String) (entries : Entries) :
    Option Entries :=
  match get? key entries with
  | none => (content? []).map fun inner => entries.set key (.table false false inner)
  | some (.table true false inner) =>
    (content? inner).map fun inner => entries.set key (.table false false inner)
  | some _ => none

/-- Adds a table to the array of a key. -/
def append? (content? : Entries → Option Entries) (key : String) (entries : Entries) :
    Option Entries :=
  match get? key entries with
  | none => (content? []).map fun inner => entries.set key (.tables [] inner)
  | some (.tables before last) =>
    (content? []).map fun inner => entries.set key (.tables (before ++ [last]) inner)
  | some _ => none

/-- Gives several keys their values. -/
def assignAll? (assignments : List (List String × Value)) (entries : Entries) : Option Entries :=
  assignments.foldlM (fun entries (path, value) => assign? value path entries) entries

end Entries

mutual

/-- The finished value of an item. -/
def Item.finish : Item → Value
  | .value v => v
  | .table _ _ entries => .table (finishEntries entries)
  | .tables before last => .arr (finishTables before ++ [.table (finishEntries last)])

/-- The finished entries of a table. -/
def finishEntries : List (String × Item) → List (String × Value)
  | [] => []
  | (key, item) :: rest => (key, item.finish) :: finishEntries rest

/-- The finished tables of an array. -/
def finishTables : List (List (String × Item)) → List Value
  | [] => []
  | entries :: rest => .table (finishEntries entries) :: finishTables rest

end

/-- A header with the assignments behind it. -/
structure Section where
  /-- Whether the table is one of an array. -/
  isElement : Bool
  path : List String
  assignments : List (List String × Value)

/-- Adds a section to a document. -/
def Section.addTo? (s : Section) (document : Entries) : Option Entries :=
  let content? := Entries.assignAll? s.assignments
  let change? := if s.isElement then Entries.append? content? else Entries.define? content?
  Entries.within? change? s.path document

/-- The table of a document: its assignments in front of any header, then its sections. -/
def build? (assignments : List (List String × Value)) (sections : List Section) : Option Value := do
  let top ← Entries.assignAll? assignments []
  let all ← sections.foldlM (fun document s => s.addTo? document) top
  return .table (finishEntries all)

end SkillAudit.Toml
