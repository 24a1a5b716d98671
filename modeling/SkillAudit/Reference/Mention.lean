import SkillAudit.Reference.Target
import SkillAudit.Markdown.Fence
/-!
# SkillAudit.Reference.Mention

The references that a markdown text makes to files. Outside fenced code these are the targets of
links and the code spans that look like paths; inside, the first path on a line that runs a shell
command. The lines that open and close a fence make none.
-/

namespace SkillAudit

/-- How a reference is written. -/
inductive ReferenceKind where
  /-- A link or an image. -/
  | markdownLink
  /-- A path in a code span or a command. -/
  | codePath
  /-- A link to something outside the package. -/
  | proseMention
deriving DecidableEq, Repr

/-- The name of a kind in reports. -/
def ReferenceKind.name : ReferenceKind → String
  | markdownLink => "markdown-link"
  | codePath => "code-path"
  | proseMention => "prose-mention"

/-- A reference as it stands in a text. -/
structure Mention where
  line : Nat
  target : String
  kind : ReferenceKind
deriving DecidableEq, Repr

namespace Mention

open Text

/-! ## Links -/

/-- Reads the title of a link, in double or single quotes, if one stands here. -/
def afterTitle? : List Char → Option (List Char)
  | q :: rest =>
    if q = '"' ∨ q = '\'' then
      match rest.dropWhile (· != q) with
      | _ :: r => some r
      | [] => none
    else none
  | [] => none

/-- Reads the parenthesis that closes a link, if it stands here. -/
def afterClosing? : List Char → Option (List Char)
  | ')' :: r => some r
  | _ => none

/-- Reads what may stand between the target of a link and the closing parenthesis, and that
    parenthesis: white space, or white space around a title. -/
def afterLinkEnd? (s : List Char) : Option (List Char) :=
  let unspaced := trimStart s
  match if unspaced.length < s.length then afterTitle? unspaced else none with
  | some r => afterClosing? (trimStart r)
  | none => afterClosing? unspaced

/-- Whether a character may stand in the target of a link. -/
def isTargetChar (c : Char) : Bool :=
  c != ')' && c != '>' && !isBlank c

/-- The text from the target of a link on. An opening angle bracket is passed over, unless there is
    no target behind it; then it is itself the target. -/
def bareTarget (s : List Char) : List Char :=
  match s with
  | '<' :: r => if (r.takeWhile isTargetChar).isEmpty then s else r
  | _ => s

/-- The text behind a closing angle bracket, if one stands here. -/
def afterAngle : List Char → List Char
  | '>' :: r => r
  | r => r

/-- Reads the target of a link behind the opening parenthesis, with an angle bracket around it or
    not. -/
def linkTarget? (s : List Char) : Option (List Char × List Char) :=
  let bare := bareTarget (trimStart s)
  let target := bare.takeWhile isTargetChar
  if target.isEmpty then none
  else (afterLinkEnd? (afterAngle (bare.dropWhile isTargetChar))).map fun r => (target, r)

/-- Reads the bracket that closes the text of a link and the parenthesis that opens its target. -/
def afterBracket? : List Char → Option (List Char)
  | ']' :: '(' :: r => some r
  | _ => none

/-- The target of a link that starts here, and the number of characters the link covers. The text
    of a link reaches to the first closing bracket. -/
def linkAt? (s : List Char) : Option (List Char × Nat) :=
  match s with
  | '[' :: rest =>
    (afterBracket? (rest.dropWhile (· != ']'))).bind fun r =>
      (linkTarget? r).map fun p => (p.1, s.length - p.2.length)
  | _ => none

/-- The targets of the links of a line. -/
def linkTargets (line : List Char) : List (List Char) :=
  findAll linkAt? line

/-! ## Code spans -/

/-- The code span that starts here, if it holds no white space, and the number of characters it
    covers with its backticks. -/
def codeSpanAt? (s : List Char) : Option (List Char × Nat) :=
  match s with
  | '`' :: rest =>
    let span := rest.takeWhile fun c => c != '`' && !isBlank c
    match rest.drop span.length with
    | '`' :: _ => if span.isEmpty then none else some (span, span.length + 2)
    | _ => none
  | _ => none

/-- The code spans of a line that hold no white space. -/
def codeSpans (line : List Char) : List (List Char) :=
  findAll codeSpanAt? line

/-! ## Commands -/

/-- The commands whose first argument that looks like a path is a file. -/
def shellVerbs : List String :=
  ["python", "python3", "bash", "sh", "node", "cat", "source"]

/-- A word of a command without the quotes and punctuation around it. -/
def cleanWord (word : List Char) : List Char :=
  stripWhile ['"', '\'', '`', ';', ',', '(', ')'].contains word

/-- The arguments of a command that runs or reads a file. -/
def commandArguments? : List (List Char) → Option (List (List Char))
  | [] => none
  | verb :: arguments =>
    if shellVerbs.contains (String.ofList verb) then some arguments
    else if verb = ['u', 'v'] then
      match arguments with
      | second :: more => if second = ['r', 'u', 'n'] then some more else none
      | [] => none
    else none

/-- The file that a line of a shell session runs or reads. -/
def commandFile? (line : List Char) : Option (List Char) :=
  let line := trimStart line
  let ws := words ((after? ['$', ' '] line).getD line)
  match ws.head?.bind (after? ['.', '/']) with
  | some program =>
    let program := cleanWord program
    if Target.looksLikePath program then some program else none
  | none =>
    match commandArguments? ws with
    | none => none
    | some arguments =>
      let candidates := (arguments.filter (·.head? != some '-')).map cleanWord
      (candidates.find? Target.looksLikePath).map (dropRepeated ['.', '/'])

/-! ## Lines -/

/-- The reference that a line inside fenced code makes. -/
def ofCode (number : Nat) (line : List Char) : List Mention :=
  ((commandFile? line).map fun path => ⟨number, String.ofList path, .codePath⟩).toList

/-- The reference that a link makes; a link within the document makes none. -/
def ofLink? (number : Nat) (target : List Char) : Option Mention :=
  if target.head? = some '#' then none
  else
    some ⟨number, String.ofList target,
      if Target.hasScheme target then .proseMention else .markdownLink⟩

/-- The reference that a code span makes. -/
def ofCodeSpan? (number : Nat) (span : List Char) : Option Mention :=
  if Target.looksLikePath span then
    some ⟨number, String.ofList (dropRepeated ['.', '/'] span), .codePath⟩
  else none

/-- The references that a line of prose makes: its links, then its code spans. -/
def ofProse (number : Nat) (line : List Char) : List Mention :=
  (linkTargets line).filterMap (ofLink? number) ++ (codeSpans line).filterMap (ofCodeSpan? number)

/-- The references that a line makes in its place. -/
def ofLine (place : Fence.Place) (number : Nat) (line : List Char) : List Mention :=
  match place with
  | .outside => ofProse number line
  | .delimiter => []
  | .inside => ofCode number line

/-- The references of lines numbered from `number` on, with a fence open before them or not. -/
def ofLines (state : Option Fence) (number : Nat) : List (List Char) → List Mention
  | [] => []
  | line :: rest =>
    ofLine (Fence.place state line) number line ++ ofLines (Fence.step state line) (number + 1) rest

/-- The references of a text whose first line has the number `first`. -/
def ofText (first : Nat) (text : String) : List Mention :=
  ofLines none first (lines text.toList)

end Mention

end SkillAudit
