import SkillAudit.FileTree
import SkillAudit.Package.Basic
import SkillAudit.Text.Utf8
import SkillAudit.Yaml.Document
/-!
# SkillAudit.Package.Load

Reading a package from a file tree.
-/

namespace SkillAudit

/-- Why a package cannot be read. Problems of its content are findings and not errors. -/
inductive LoadError where
  /-- The root is no folder. -/
  | notFolder (root : String)
  /-- There is no manifest in it. -/
  | noManifest (root : String)
  /-- The manifest cannot be split. -/
  | badManifest (path : String) (error : ManifestError)
deriving DecidableEq, Repr

namespace LoadError

/-- The kind of an error in responses. -/
def kind : LoadError → String
  | notFolder _ => "PackageNotFoundError"
  | noManifest _ => "PackageNotFoundError"
  | badManifest _ _ => "ManifestParseError"

/-- The error in words. -/
def message : LoadError → String
  | notFolder root => s!"package not found: {root} (not a directory)"
  | noManifest root => s!"package not found: {root} (no SKILL.md manifest)"
  | badManifest path e =>
    let (line, column) := e.place
    s!"{path}:{line}:{column}: invalid front matter: {e.message}"

end LoadError

namespace Package

/-- The names that a manifest may have, the first one before the second. -/
def manifestNames : List String := ["SKILL.md", "skill.md"]

/-- The text of a file; one that holds a zero byte is no text. -/
def textOf (bytes : List UInt8) : Option String :=
  if bytes.contains 0 then none else some (String.ofList (Utf8.decode bytes))

/-- The file of a package with the given bytes at a path. -/
def fileOf (manifestPath : String) (priorities : Priorities) (entry : String × List UInt8) :
    PackageFile :=
  let role := Role.ofPath manifestPath entry.1
  { path := entry.1
    size := entry.2.length
    role := role
    tier := (priorities.tier? entry.1).getD role.tier
    text := textOf entry.2 }

/-- The package of a manifest and the tree around it. -/
def assemble (name manifestPath manifestText : String) (m : Manifest) (priorities : Priorities)
    (tree : FileTree) : Package :=
  let entries := (tree.files "").mergeSort fun a b => decide (a.1 ≤ b.1)
  { name := name
    manifestPath := manifestPath
    frontMatter := m.frontMatter
    body := m.body
    bodyStartLine := m.bodyStartLine
    manifestLines := (Text.lines manifestText.toList).length
    blocks := Block.ofText m.bodyStartLine m.body
    files := entries.map (fileOf manifestPath priorities)
    folders := ((tree.folders "").drop 1).mergeSort fun a b => decide (a ≤ b) }

/-- Reads the package at a root. Its name is the one it gives itself, or else that of its folder. -/
def load (top : FileTree) (root : String) (priorities : Priorities) : Except LoadError Package :=
  match top.locate? root, top.lookup? root with
  | some place, some (.folder entries) =>
    match manifestNames.find? fun n => top.hasFile (FileTree.join root n) with
    | none => .error (.noManifest root)
    | some manifestPath =>
      let path := FileTree.join root manifestPath
      let text := ((top.read? path).bind textOf).getD ""
      match Manifest.split Yaml.Value.ofText text with
      | .error e => .error (.badManifest path e)
      | .ok m =>
        let name := (m.frontMatter.name?.orElse fun _ => place.getLast?).getD root
        .ok (assemble name manifestPath text m priorities (.folder entries))
  | _, _ => .error (.notFolder root)

end Package

end SkillAudit
