import SkillAudit.Check.Basic
/-!
# SkillAudit.Check.Layout

Checks on the front matter and on where files are: required fields, the form of the name, scripts
outside their folder, and long bodies without reference files.
-/

namespace SkillAudit

variable {α : Type}

/-! ## Required fields -/

/-- The keys that every front matter has. -/
def requiredKeys : List String := ["name", "description"]

/-- Every required key has a text that is not blank. -/
def Check.requiredField : Check α where
  name := "required-field"
  description := "Detects manifests missing the name or description field"
  category := .structural
  run p _ :=
    (requiredKeys.filter fun key => (p.frontMatter.filled? key).isNone).map fun key =>
      { severity := .high
        message := s!"Missing required front matter field '{key}'"
        file := p.manifestPath
        line := some FrontMatter.startLine
        suggestion := s!"Add a '{key}:' line to the front matter" }

/-! ## Names -/

/-- Whether a text is in kebab case: small ASCII letters, ASCII digits and hyphens, with no hyphen
    at either end or beside another one. -/
def isKebabCase (name : List Char) : Bool :=
  !name.isEmpty && name.head? != some '-' && name.getLast? != some '-' &&
    !Text.contains ['-', '-'] name && name.all fun c => c.isLower || c.isDigit || c == '-'

/-- The most characters that a name may have. -/
def maxNameLength : Nat := 64

/-- What is wrong with a name. -/
def nameProblems (name : String) : List String :=
  (if isKebabCase name.toList then [] else ["is not kebab-case"]) ++
    if maxNameLength < name.length then [s!"is {name.length} characters (max {maxNameLength})"]
    else []

/-- The name is short and in kebab case. -/
def Check.nameFormat : Check α where
  name := "name-format"
  description := "Detects package names that are not short kebab-case identifiers"
  category := .structural
  run p _ :=
    match p.frontMatter.name? with
    | none => []
    | some name =>
      match nameProblems name with
      | [] => []
      | problems =>
        let what := String.intercalate " and " problems
        [p.remarkOn "name" .medium s!"Name '{name}' {what}"
          "Use lowercase letters, digits and single hyphens, e.g. 'pdf-tools'"]

/-! ## Scripts and references -/

/-- The extensions of scripts. -/
def scriptExtensions : List String := ["py", "sh"]

/-- Whether a file is a script at the root of a package. -/
def PackageFile.isRootScript (f : PackageFile) : Bool :=
  f.role == .asset && (FilePath.folder f.path).isEmpty &&
    (FilePath.extension? f.path).any scriptExtensions.contains

/-- Where there is no folder for scripts, none lie at the root. -/
def Check.rootScripts : Check α where
  name := "root-scripts"
  description := "Detects helper scripts at the package root when there is no scripts/ folder"
  category := .structural
  run p _ :=
    if p.hasFolder "scripts" then []
    else (p.files.filter (·.isRootScript)).map fun f =>
      { severity := .low
        message := s!"Script '{f.path}' sits at the package root"
        file := f.path
        line := none
        suggestion := "Move helper scripts into scripts/" }

/-- A body of more than 500 lines has reference files beside it. -/
def Check.bodyWithoutReferences : Check α where
  name := "body-without-references"
  description := "Detects bodies over 500 lines in packages without a references/ folder"
  category := .structural
  run p _ :=
    let lines := p.bodyLineCount
    if lines ≤ 500 || p.hasFolder "references" then []
    else
      [p.remark .low s!"Body has {lines} lines but the package has no references/ folder"
        "Move detailed sections into references/ and link them"]

end SkillAudit
