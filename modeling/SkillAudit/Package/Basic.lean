import SkillAudit.Package.File
import SkillAudit.Package.FrontMatter
import SkillAudit.Markdown.Heading
/-!
# SkillAudit.Package.Basic

Packages: a manifest with front matter and body, and the files around it. A package is read once
and never changed.
-/

namespace SkillAudit

/-- A package in memory. -/
structure Package where
  name : String
  manifestPath : String
  frontMatter : FrontMatter
  body : String
  /-- The number of the first line of the body in the manifest. -/
  bodyStartLine : Nat
  /-- How many lines the manifest has. -/
  manifestLines : Nat
  /-- The blocks of the body. -/
  blocks : List Block
  /-- The files, in the order of their paths. -/
  files : List PackageFile
  /-- The paths of the folders, in order. -/
  folders : List String

namespace Package

/-- The file at a path. -/
def file? (p : Package) (path : String) : Option PackageFile :=
  p.files.find? fun f => f.path == path

/-- The manifest among the files. -/
def manifest? (p : Package) : Option PackageFile := p.file? p.manifestPath

/-- Whether there is a file at a path. -/
def hasFile (p : Package) (path : String) : Bool := p.files.any fun f => f.path == path

/-- Whether there is a folder at a path. -/
def hasFolder (p : Package) (path : String) : Bool := p.folders.contains path

/-- The files of a role. -/
def filesOf (p : Package) (role : Role) : List PackageFile := p.files.filter fun f => f.role == role

/-- The lines of the body. -/
def bodyLines (p : Package) : List (List Char) := Text.lines p.body.toList

/-- The lines of the body with their numbers in the manifest. -/
def numberedBodyLines (p : Package) : List (Nat × List Char) :=
  Text.numberedLines p.bodyStartLine p.body.toList

end Package

end SkillAudit
