import SkillAudit.Check.Basic
import SkillAudit.Text.Pattern
/-!
# SkillAudit.Check.Content

Checks on what a package says: its description, and whether the body and the reference files are
filled, divided and illustrated.
-/

namespace SkillAudit

variable {α : Type}

/-! ## The description -/

/-- The least and the most characters of a description. -/
def descriptionBounds : Nat × Nat := (20, 1024)

/-- The description is neither too short to be found by nor too long to be kept in mind. -/
def Check.descriptionLength : Check α where
  name := "description-length"
  description :=
    "Detects descriptions that are too short to route on or too long to keep in context"
  category := .content
  run p _ :=
    match p.frontMatter.description? with
    | none => []
    | some d =>
      let (least, most) := descriptionBounds
      if d.length < least then
        [p.remarkOn "description" .medium
          s!"Description is {d.length} characters (minimum {least})"
          "Say what the package does and when to use it"]
      else if most < d.length then
        [p.remarkOn "description" .high
          s!"Description is {d.length} characters (maximum {most})"
          "Shorten the description; move detail into the body"]
      else []

/-- The phrases that say when a package applies. -/
def triggerPhrases : List String := [
  "use when", "trigger on", "for tasks involving", "activate when", "applies to", "when the user"]

/-- Whether a description says, in any case, when the package applies. -/
def hasTrigger (description : String) : Bool :=
  let text := Text.lower description.toList
  triggerPhrases.any fun phrase => Text.contains phrase.toList text

/-- The description says when the package applies. -/
def Check.triggerPhrase : Check α where
  name := "trigger-phrase"
  description := "Detects descriptions that never say when the package applies"
  category := .content
  run p _ :=
    match p.frontMatter.description? with
    | none => []
    | some d =>
      if hasTrigger d then []
      else
        [p.remarkOn "description" .medium "Description has no trigger phrase such as 'Use when ...'"
          "Add a sentence starting with 'Use when' describing the tasks it handles"]

/-! ## The body -/

/-- A body of more than 100 lines has at least three headings. -/
def Check.fewHeadings : Check α where
  name := "few-headings"
  description := "Detects long bodies with too few headings to navigate"
  category := .content
  run p _ :=
    let lines := p.bodyLineCount
    let headings := p.blocks.countP fun b => 0 < b.level
    if lines ≤ 100 || 3 ≤ headings then []
    else
      [p.remark .medium s!"Body has {lines} lines but only {headings} heading(s)"
        "Organise the body into sections with markdown headings"]

/-- Whether a text has a fence. -/
def hasFence (lines : List (List Char)) : Bool :=
  (Fence.places none lines).any fun l => l.1 != .outside

/-- A body of more than 50 lines has an example in fenced code. -/
def Check.missingExample : Check α where
  name := "missing-example"
  description := "Detects substantial bodies without a single fenced code example"
  category := .content
  run p _ :=
    if p.bodyLineCount ≤ 50 || hasFence p.bodyLines then []
    else
      [p.remark .medium "Body has no fenced code example"
        "Show at least one concrete invocation in a fenced code block"]

/-- A body of more than 350 lines leaves detail to reference files. -/
def Check.longBody : Check α where
  name := "long-body"
  description := "Detects bodies over 350 lines that keep all detail inline"
  category := .content
  run p _ :=
    let lines := p.bodyLineCount
    if lines ≤ 350 || p.hasFolder "references" then []
    else
      [p.remark .low s!"Body has {lines} lines with no references/ to offload detail"
        "Keep the body to the workflow; move reference material into references/"]

/-- The body is not blank. -/
def Check.emptyBody : Check α where
  name := "empty-body"
  description := "Detects manifests with nothing after the front matter"
  category := .content
  run p _ :=
    if p.body.toList.all Text.isBlank then
      [p.remark .high "Manifest body is empty" "Describe the workflow the agent should follow"]
    else []

/-! ## Reference files -/

/-- A link to a heading of the same text. -/
def tocLink : Pattern :=
  .char '[' ++ .many .notLineEnd ++ .text "](#" ++ .many .notLineEnd ++ .char ')'

/-- Whether a text has a link to one of its headings among its first 500 characters. -/
def startsWithToc (text : String) : Bool :=
  tocLink.occursIn (text.toList.take 500)

/-- Whether a file is a markdown text of more than 100 lines without a table of contents. -/
def PackageFile.lacksToc (f : PackageFile) : Bool :=
  FilePath.extension? f.path == some "md" && 100 < f.lineCount &&
    f.text.any fun text => !startsWithToc text

/-- Reference files of more than 100 lines have a table of contents. -/
def Check.referenceToc : Check α where
  name := "reference-toc"
  description := "Detects long reference documents without a table of contents"
  category := .content
  run p _ :=
    ((p.filesOf .reference).filter (·.lacksToc)).map fun f =>
      { severity := .low
        message := s!"{f.path} has {f.lineCount} lines but no table of contents"
        file := f.path
        line := none
        suggestion := "Start the file with a list of links to its sections" }

end SkillAudit
