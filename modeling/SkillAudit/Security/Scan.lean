import SkillAudit.Config.Basic
import SkillAudit.Markdown.Fence
import SkillAudit.Security.Permission
/-!
# SkillAudit.Security.Scan

The security scan of a package. Every line of a script is code; markdown is code inside fences and
prose outside of them, and the lines that open or close a fence are not scanned; front matter is
prose. Nothing follows values from line to line: a rule holds of a line or does not.
-/

namespace SkillAudit

namespace Scan

open Text

/-! ## Lines -/

/-- A line to scan. -/
structure Line where
  file : String
  number : Nat
  context : LineContext
  text : List Char
deriving DecidableEq, Repr

/-- The context of a line of markdown, by its place. -/
def contextAt? : Fence.Place → Option LineContext
  | .outside => some .prose
  | .inside => some .fencedCode
  | .delimiter => none

/-- The lines of markdown to scan, numbered from `number` on, with a fence open before them or
    not. -/
def markdownFrom (file : String) (state : Option Fence) (number : Nat) :
    List (List Char) → List Line
  | [] => []
  | text :: rest =>
    ((contextAt? (Fence.place state text)).map fun context => ⟨file, number, context, text⟩).toList ++
      markdownFrom file (Fence.step state text) (number + 1) rest

/-- The lines of a markdown text, the first of which has the number `first`. -/
def markdown (file : String) (first : Nat) (text : String) : List Line :=
  markdownFrom file none first (lines text.toList)

/-- The lines of a text in one context. -/
def plain (file : String) (context : LineContext) (first : Nat) (text : String) : List Line :=
  (numberedLines first text.toList).map fun (n, l) => ⟨file, n, context, l⟩

/-- The lines of a file to scan; those of the manifest are scanned by its two parts. -/
def ofFile (f : PackageFile) : Option (List Line) :=
  f.text.bind fun text =>
    match f.role with
    | .script => some (plain f.path .script 1 text)
    | .reference => some (markdown f.path 1 text)
    | _ => none

/-- The lines of the manifest to scan: front matter, then body. -/
def ofManifest (p : Package) : List Line :=
  plain p.manifestPath .prose FrontMatter.startLine p.frontMatter.raw ++
    markdown p.manifestPath p.bodyStartLine p.body

/-- The lines of a package to scan. -/
def ofPackage (p : Package) : List Line :=
  ofManifest p ++ (p.files.filterMap ofFile).flatten

/-- How many files are scanned. -/
def fileCount (p : Package) : Nat :=
  1 + (p.files.filterMap ofFile).length

/-! ## Findings -/

/-- The part of a line that messages show. -/
def snippet (line : List Char) : String :=
  let shown := trim line
  if 80 < shown.length then String.ofList (shown.take 77) ++ "..." else String.ofList shown

/-- What is said about a line that a rule matches. A secret is not repeated. -/
def message (rule : SecurityRule) (line : List Char) : String :=
  if rule = .hardcodedSecret then rule.title else rule.title ++ ": " ++ snippet line

/-- The finding about a line that a rule matches. -/
def finding (rule : SecurityRule) (file : String) (number : Nat) (line : List Char) : Finding where
  rule := rule.id
  category := .security
  severity := rule.severity
  message := message rule line
  location := some ⟨file, some number⟩
  suggestion := some rule.suggestion

/-- The rules in force that match a line, in order. -/
def matched (config : SecurityConfig) (l : Line) : List SecurityRule :=
  SecurityRule.ofLines.filter fun r => config.enables r.id && r.accepts l.context l.text

/-- The rules without those that another one of them supersedes. -/
def withoutSuperseded (rules : List SecurityRule) : List SecurityRule :=
  rules.filter fun r => !r.supersededBy?.any rules.contains

/-- The findings about a line. -/
def findingsOf (config : SecurityConfig) (l : Line) : List Finding :=
  (withoutSuperseded (matched config l)).map fun r => finding r l.file l.number l.text

/-! ## Guidance on input -/

/-- Whether the body tells that input has to be checked. -/
def givesGuidance (p : Package) : Bool :=
  let body := lower p.body.toList
  contains "validat".toList body || contains "sanitiz".toList body

/-- Whether a line speaks of input from the user. -/
def mentionsInput (line : List Char) : Bool :=
  let line := lower line
  contains "user input".toList line || contains "user data".toList line

/-- The finding about the first line that speaks of input, in a body without guidance. -/
def guidanceFinding? (p : Package) : Option Finding :=
  if givesGuidance p then none
  else
    (p.numberedBodyLines.find? fun l => mentionsInput l.2).map fun (n, line) =>
      finding .promptInjectionGuidance p.manifestPath n line

end Scan

/-! ## Packages -/

/-- The result of a security scan. -/
structure SecurityReport where
  findings : List Finding
  filesScanned : Nat
  linesScanned : Nat
deriving DecidableEq, Repr

/-- Scans a package. -/
def SecurityReport.ofPackage (p : Package) (config : SecurityConfig) : SecurityReport :=
  let lines := Scan.ofPackage p
  let permissions := if config.enables SecurityRule.broadPermission.id then Permission.findings p else []
  let guidance :=
    if config.enables SecurityRule.promptInjectionGuidance.id then (Scan.guidanceFinding? p).toList
    else []
  { findings := lines.flatMap (Scan.findingsOf config) ++ permissions ++ guidance
    filesScanned := Scan.fileCount p
    linesScanned := lines.length }

end SkillAudit
