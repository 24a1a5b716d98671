import SkillAudit.Text.Line
import SkillAudit.Yaml.Value
import SkillAudit.Yaml.Error
/-!
# SkillAudit.Package.FrontMatter

The two parts of a manifest. It opens with a line of three hyphens; the front matter reaches from
there to the next such line and is a YAML mapping; all that follows is the body.
-/

namespace SkillAudit

/-- The front matter of a manifest. -/
structure FrontMatter where
  /-- The text between the two lines of hyphens. -/
  raw : String
  fields : List (Yaml.Value × Yaml.Value)
deriving Repr

namespace FrontMatter

/-- The number of the first line of the front matter in the manifest. -/
def startLine : Nat := 2

/-- The value of a key. -/
def get? (fm : FrontMatter) (key : String) : Option Yaml.Value :=
  Yaml.Value.find? key fm.fields

/-- The text of a key. -/
def text? (fm : FrontMatter) (key : String) : Option String :=
  (fm.get? key).bind Yaml.Value.text?

/-- The value at a path of keys through nested mappings; there is none at the empty path. -/
def lookup? (fm : FrontMatter) : List String → Option Yaml.Value
  | [] => none
  | key :: rest =>
    rest.foldl (fun v key => v.bind fun v => v.entries?.bind (Yaml.Value.find? key)) (fm.get? key)

/-- The texts at a path. -/
def textsAt (fm : FrontMatter) (path : List String) : List String :=
  match fm.lookup? path with
  | some v => v.texts
  | none => []

/-- The number at a path; a text may spell one. -/
def numeralAt? (fm : FrontMatter) (path : List String) : Option Numeral :=
  match fm.lookup? path with
  | some (.str s) => Numeral.ofText? (Text.trim s.toList)
  | some v => v.numeral?
  | none => none

/-- The line of the manifest on which a key is declared: it starts with the key, and a colon
    follows. -/
def lineOf? (fm : FrontMatter) (key : String) : Option Nat :=
  (Text.numberedLines startLine fm.raw.toList).findSome? fun (n, line) =>
    match Text.after? key.toList line with
    | some rest => if (Text.trimStart rest).head? = some ':' then some n else none
    | none => none

/-- The text of a key without white space around it, unless nothing else is there. -/
def filled? (fm : FrontMatter) (key : String) : Option String :=
  (fm.text? key).bind fun s =>
    let t := Text.trim s.toList
    if t.isEmpty then none else some (String.ofList t)

/-- The name that the package gives itself. -/
def name? (fm : FrontMatter) : Option String := fm.filled? "name"

/-- The description. -/
def description? (fm : FrontMatter) : Option String := fm.filled? "description"

end FrontMatter

/-- Why a text is no manifest. -/
inductive ManifestError where
  /-- The first line is not three hyphens. -/
  | missing
  /-- No other line is. -/
  | unterminated
  /-- The text between them is not YAML. -/
  | malformed (error : Yaml.Error)
  /-- It is no mapping. -/
  | notMapping
deriving DecidableEq, Repr

namespace ManifestError

/-- The error in words. -/
def message : ManifestError → String
  | missing => "missing front matter (expected '---' on line 1)"
  | unterminated => "unterminated front matter (no closing '---')"
  | malformed e => e.message
  | notMapping => "front matter must be a key/value mapping"

/-- The line and column of the manifest at which it shows, counted from one. -/
def place : ManifestError → Nat × Nat
  | missing => (1, 1)
  | unterminated => (1, 1)
  | malformed e =>
    match e.mark? with
    | some m => (m.line + 2, m.column + 1)
    | none => (2, 1)
  | notMapping => (2, 1)

end ManifestError

/-- A manifest in its two parts. -/
structure Manifest where
  frontMatter : FrontMatter
  body : String
  /-- The number of the first line of the body. -/
  bodyStartLine : Nat
deriving Repr

namespace Manifest

/-- Whether a line, with its ending, is three hyphens. -/
def isDelimiter (line : List Char) : Bool :=
  Text.dropEndWhile (fun c => c == '\n' || c == '\r') line == ['-', '-', '-']

/-- Whether a line opens a manifest; byte order marks may stand in front of it. -/
def isOpening (line : List Char) : Bool :=
  isDelimiter (line.dropWhile (· == '\uFEFF'))

/-- Splits a manifest, reading the front matter with `parse`. -/
def split (parse : String → Except Yaml.Error Yaml.Value) (text : String) :
    Except ManifestError Manifest :=
  match Text.cutLines text.toList with
  | [] => .error .missing
  | first :: rest =>
    if !isOpening first then .error .missing
    else
      let inner := rest.takeWhile fun l => !isDelimiter l
      match rest.dropWhile fun l => !isDelimiter l with
      | [] => .error .unterminated
      | _ :: behind =>
        let raw := String.ofList inner.flatten
        match parse raw with
        | .error e => .error (.malformed e)
        | .ok (.map fields) =>
          .ok ⟨⟨raw, fields⟩, String.ofList behind.flatten, inner.length + 3⟩
        | .ok _ => .error .notMapping

end Manifest

end SkillAudit
