import SkillAudit.Text.Line
/-!
# SkillAudit.Reference.Target

The targets of references as they are written: whether one names something outside the package,
whether a word looks like the path of a file, and the part of a target that is a path.
-/

namespace SkillAudit.Target

open Text

/-- Whether a target carries a scheme: two or more characters in front of the first colon, the
    first an ASCII letter and the others letters, digits, `+`, `-` or `.`. One character in front
    of the colon is a drive letter and not a scheme. -/
def hasScheme (target : List Char) : Bool :=
  match cutFirst? ':' target with
  | none => false
  | some (scheme, _) =>
    1 < scheme.length && scheme.head?.any Char.isAlpha &&
      scheme.all fun c => c.isAlphanum || c == '+' || c == '-' || c == '.'

/-- The extensions by which a word without a slash is taken for a file. -/
def knownExtensions : List String :=
  ["md", "py", "sh", "js", "ts", "json", "yaml", "yml", "txt", "toml", "csv"]

/-- The part of a path behind its last slash. -/
def fileName (path : List Char) : List Char :=
  match cutLast? '/' path with
  | some (_, name) => name
  | none => path

/-- Whether the last part of a path ends in a known extension behind a non-empty stem. -/
def hasKnownExtension (path : List Char) : Bool :=
  match cutLast? '.' (fileName path) with
  | some (stem, extension) => !stem.isEmpty && knownExtensions.contains (String.ofList extension)
  | none => false

/-- The characters of paths: letters and numbers of any script, `/`, `.`, `_` and `-`. -/
def isPathChar (c : Char) : Bool :=
  isLetterOrNumber c || c == '/' || c == '.' || c == '_' || c == '-'

/-- Whether a word looks like the relative path of a file: path characters only, one of them a
    letter or number, neither starting nor ending with a slash, and holding a slash or ending in a
    known extension. -/
def looksLikePath (word : List Char) : Bool :=
  !word.isEmpty && word.head? != some '/' && word.getLast? != some '/' && !hasScheme word &&
    word.all isPathChar && word.any isLetterOrNumber &&
    (word.contains '/' || hasKnownExtension word)

/-- The path that a target names: without fragment, query and one leading `./`, and with `%20`
    read as a space. -/
def clean (target : List Char) : List Char :=
  let path := target.takeWhile fun c => c != '#' && c != '?'
  let path := (after? ['.', '/'] path).getD path
  replaceAll (literal ['%', '2', '0'] [' ']) path

end SkillAudit.Target
