import SkillAudit.Finding
import SkillAudit.Text.Pattern
/-!
# SkillAudit.Security.Rule

The rules of the security scan, and the lines that each of them matches. A rule has matchers; a
matcher holds for a line if all of its first patterns occur in it and none of its second ones, in
the contexts that it covers. Where one rule supersedes another, a line that both match belongs to
the first alone.
-/

namespace SkillAudit

/-- The rules. -/
inductive SecurityRule where
  | hardcodedSecret
  | dynamicCodeExecution
  | shellInterpolation
  | unsafeDeserialization
  | stringBuiltQuery
  | outboundNetworkCall
  | unsanitizedPath
  | broadPermission
  | promptInjectionGuidance
deriving DecidableEq, Repr

namespace SecurityRule

/-- The identifier of a rule. -/
def id : SecurityRule → String
  | hardcodedSecret => "hardcoded-secret"
  | dynamicCodeExecution => "dynamic-code-execution"
  | shellInterpolation => "shell-interpolation"
  | unsafeDeserialization => "unsafe-deserialization"
  | stringBuiltQuery => "string-built-query"
  | outboundNetworkCall => "outbound-network-call"
  | unsanitizedPath => "unsanitized-path"
  | broadPermission => "broad-permission"
  | promptInjectionGuidance => "prompt-injection-guidance"

/-- What a rule finds, in words. -/
def title : SecurityRule → String
  | hardcodedSecret => "Hardcoded secret"
  | dynamicCodeExecution => "Dynamic code execution"
  | shellInterpolation => "Shell command built from interpolated string"
  | unsafeDeserialization => "Unsafe deserialization"
  | stringBuiltQuery => "Query built by string concatenation"
  | outboundNetworkCall => "Outbound network call"
  | unsanitizedPath => "File path built from unsanitized input"
  | broadPermission => "Broad or unscoped permission"
  | promptInjectionGuidance => "User input handled without validation guidance"

/-- How grave it is. -/
def severity : SecurityRule → Severity
  | hardcodedSecret | dynamicCodeExecution | shellInterpolation => .critical
  | unsafeDeserialization | stringBuiltQuery => .high
  | outboundNetworkCall | unsanitizedPath | broadPermission | promptInjectionGuidance => .medium

/-- What to do about it. -/
def suggestion : SecurityRule → String
  | hardcodedSecret => "Read credentials from the environment or a secret store"
  | dynamicCodeExecution => "Replace eval/exec with explicit dispatch or a parser"
  | shellInterpolation =>
    "Pass an argument list without shell=True, or quote inputs with shlex.quote"
  | unsafeDeserialization => "Use yaml.safe_load or json; never unpickle untrusted data"
  | stringBuiltQuery => "Use parameterized queries"
  | outboundNetworkCall => "Validate destinations and document why network access is needed"
  | unsanitizedPath => "Resolve the path and check it stays inside an allowed directory"
  | broadPermission => "Scope tools, e.g. Bash(git:*) instead of Bash"
  | promptInjectionGuidance => "Tell the agent to validate or sanitize user-provided input"

/-- The rule that claims a line before this one. -/
def supersededBy? : SecurityRule → Option SecurityRule
  | dynamicCodeExecution => some shellInterpolation
  | _ => none

/-- Every rule. -/
def all : List SecurityRule := [
  hardcodedSecret, dynamicCodeExecution, shellInterpolation, unsafeDeserialization,
  stringBuiltQuery, outboundNetworkCall, unsanitizedPath, broadPermission,
  promptInjectionGuidance]

/-- The rule of an identifier. -/
def ofId? (id : String) : Option SecurityRule := all.find? fun r => r.id == id

end SecurityRule

/-! ## Matchers -/

/-- What the line of a file is. -/
inductive LineContext where
  /-- Markdown outside fenced code, or front matter. -/
  | prose
  /-- Markdown inside fenced code. -/
  | fencedCode
  /-- A line of a script. -/
  | script
deriving DecidableEq, Repr

namespace LineContext

/-- Every context. -/
def all : List LineContext := [prose, fencedCode, script]

/-- The contexts of code. -/
def code : List LineContext := [fencedCode, script]

end LineContext

/-- Patterns that a line must have and patterns that it must not have, in some contexts. -/
structure Matcher where
  contexts : List LineContext
  required : List Pattern
  excluded : List Pattern

namespace Matcher

/-- Whether a line matches in its context. -/
def accepts (m : Matcher) (context : LineContext) (line : List Char) : Bool :=
  m.contexts.contains context && m.required.all (·.occursIn line) &&
    !m.excluded.any (·.occursIn line)

/-- A matcher that asks for patterns in every context. -/
def anywhere (required : List Pattern) : Matcher := ⟨LineContext.all, required, []⟩

/-- A matcher that asks for patterns in code. -/
def inCode (required : List Pattern) : Matcher := ⟨LineContext.code, required, []⟩

/-- A matcher that asks for patterns in scripts. -/
def inScripts (required : List Pattern) : Matcher := ⟨[.script], required, []⟩

/-- The same matcher, refusing lines with one of some patterns. -/
def but (m : Matcher) (excluded : List Pattern) : Matcher := { m with excluded := excluded }

end Matcher

/-! ## Patterns -/

namespace Pattern

/-- A word edge and then a fixed text. -/
def word (s : String) : Pattern := wordEdge ++ text s

/-- White space and an opening parenthesis. -/
def opening : Pattern := blanks ++ char '('

/-- The call of something by its name. -/
def call (p : Pattern) : Pattern := p ++ opening

/-- Any characters of a line. -/
def anything : Pattern := many notLineEnd

/-- A quotation mark of either kind. -/
def quotation : Pattern := oneOf "\"'"

/-- The characters of words, one or more. -/
def name : Pattern := some wordChar

/-- A text built from parts: marked as such, with a place for a value, formatted, or joined. -/
def interpolation : Pattern := anyOf [
  word "f" ++ quotation,
  text "$\x7b",
  quotation ++ blanks ++ char '%' ++ blanks ++ (char '(' ||| wordChar),
  call (text ".format"),
  quotation ++ blanks ++ char '+' ++ blanks ++ wordChar,
  wordChar ++ blanks ++ char '+' ++ blanks ++ quotation]

/-- The start of a quoted value that only stands for a secret. -/
def placeholder : Pattern :=
  quotation ++ anyOf [
    anyCase "your" ++ oneOf "_-", char '<', text "$\x7b", atLeast 4 (anyCase "x"),
    atLeast 3 (char '*'), anyCase "example", anyCase "placeholder", anyCase "dummy",
    anyCase "redacted"]

/-- A name of a secret that is set to a quoted value. -/
def secretAssignment : Pattern :=
  anyOf [anyCase "api" ++ optional (oneOf "_-") ++ anyCase "key", anyCase "secret",
      anyCase "token", anyCase "password", anyCase "passwd"] ++
    blanks ++ oneOf ":=" ++ blanks ++ quotation ++ atLeast 4 (noneOf "\"'") ++ quotation

/-- A capital ASCII letter or an ASCII digit. -/
def capitalOrDigit : Pattern := one fun c => c.isUpper || c.isDigit

/-- A token of a chat service. -/
def chatToken : Pattern :=
  word "xox" ++ oneOf "baprs" ++ char '-' ++ times 10 asciiDigit ++ upTo 3 asciiDigit ++
    char '-' ++ times 10 asciiDigit ++ upTo 3 asciiDigit

/-- A character of a bearer token. The two characters outside ASCII fold to ASCII letters. -/
def bearerChar : Pattern :=
  one fun c => c.isAlphanum || "._~+/-\u017F\u212A".toList.contains c

/-- A header with a bearer token. -/
def bearerHeader : Pattern :=
  anyCase "authorization:" ++ blanks ++ anyCase "bearer" ++ some blank ++ times 16 bearerChar

/-- A header with something that stands for a bearer token. -/
def bearerPlaceholder : Pattern :=
  anyCase "bearer" ++ some blank ++ (oneOf "<$" ||| anyCase "your")

/-- The first line of a private key. -/
def privateKey : Pattern :=
  text "-----BEGIN " ++ optional (anyOf [text "RSA ", text "EC ", text "DSA ", text "OPENSSH "]) ++
    text "PRIVATE KEY-----"

/-- The address of a database with a password in it. -/
def databaseAddress : Pattern :=
  wordEdge ++ anyOf [anyCase "postgres" ++ optional (anyCase "ql"), anyCase "mysql",
      anyCase "mongodb", anyCase "redis"] ++
    text "://" ++ some (one fun c => c != ':' && c != '/' && !Text.isBlank c) ++ char ':' ++
    some (one fun c => c != '@' && !Text.isBlank c) ++ char '@'

/-- The call of a function that runs text as code; a method of that name is something else. -/
def evaluation : Pattern :=
  (start ||| one fun c => !Text.isWordChar c && c != '.') ++
    call (anyOf [text "eval", text "exec", text "Function", text "__import__"])

/-- The call of a function that runs a shell command. -/
def shellCall : Pattern := anyOf [
  call (text "os.system"), call (text "os.popen"), call (text "subprocess." ++ name),
  call (text "child_process.exec" ++ many wordChar), call (word "execSync"),
  call (word "shell_exec")]

/-- The call of a function that starts a program. -/
def programCall : Pattern := call (text "subprocess." ++ name) ||| call (word "Popen")

/-- The argument that asks for a shell. -/
def shellArgument : Pattern :=
  word "shell" ++ blanks ++ char '=' ++ blanks ++ text "True" ++ wordEdge

/-- A text in backticks with a place for a value. -/
def backtickTemplate : Pattern :=
  char '\x60' ++ many (noneOf "\x60") ++ text "$\x7b" ++ many (noneOf "\x60") ++ char '\x60'

/-- The call of a function that runs a command. -/
def commandCall : Pattern := call (word "exec" ++ many wordChar) ||| call (word "system")

/-- The call of a function that builds objects from data. -/
def unsafeLoad : Pattern := anyOf [
  call (word "pickle.load" ++ optional (char 's')),
  call (word "marshal.load" ++ optional (char 's')),
  call (word "shelve.open"), call (word "yaml.unsafe_load")]

/-- A query to a database. -/
def query : Pattern :=
  wordEdge ++ anyOf [
      anyCase "select" ++ blank ++ some notLineEnd ++ blank ++ anyCase "from",
      anyCase "insert" ++ some blank ++ anyCase "into",
      anyCase "update" ++ some blank ++ name ++ some blank ++ anyCase "set",
      anyCase "delete" ++ some blank ++ anyCase "from"] ++
    wordEdge

/-- A call or command that opens a connection. -/
def networkCall : Pattern := anyOf [
  call (word "requests." ++ anyOf [text "get", text "post", text "put", text "patch",
    text "delete", text "head", text "request"]),
  call (word "urllib.request.urlopen"), call (word "urlopen"),
  call (word "socket." ++ anyOf [text "create_connection", text "connect"]),
  call (text ".connect") ++ opening,
  call (word "fetch"), call (word "httpx." ++ name),
  call (word "axios" ++ optional (char '.' ++ name)),
  (start ||| blank ||| oneOf ";|&") ++ (text "curl" ||| text "wget") ++ blank]

/-- The address of a page. -/
def webAddress : Pattern := text "http" ++ optional (char 's') ++ text "://"

/-- The call of a function that takes the path of a file. -/
def fileCall : Pattern := anyOf [
  call (word "open"), call (word "Path"), call (text "os.path.join"),
  call (word "shutil." ++ name)]

/-- A value that comes from outside. -/
def outsideInput : Pattern := anyOf [
  call (word "input"), word "sys.argv" ++ wordEdge, word "args." ++ wordChar,
  word "request." ++ wordChar]

end Pattern

/-! ## The table -/

namespace SecurityRule

open Pattern in
/-- The matchers of a rule. The last two rules look at a package as a whole and match no lines. -/
def matchers : SecurityRule → List Matcher
  | hardcodedSecret => [
    (Matcher.anywhere [secretAssignment]).but [placeholder],
    .anywhere [word "sk-" ++ times 32 asciiAlnum],
    .anywhere [word "AKIA" ++ times 16 capitalOrDigit ++ wordEdge],
    .anywhere [word "ghp_" ++ times 36 asciiAlnum ++ wordEdge],
    .anywhere [word "sk_live_" ++ times 24 asciiAlnum],
    .anywhere [chatToken],
    (Matcher.anywhere [bearerHeader]).but [placeholder, bearerPlaceholder],
    .anywhere [privateKey],
    .anywhere [databaseAddress]]
  | dynamicCodeExecution => [.inCode [evaluation]]
  | shellInterpolation => [
    .inCode [shellCall, interpolation],
    .inCode [programCall, shellArgument],
    .inCode [backtickTemplate, commandCall]]
  | unsafeDeserialization => [
    .inCode [unsafeLoad],
    (Matcher.inCode [call (word "yaml.load")]).but [text "SafeLoader"]]
  | stringBuiltQuery => [.inCode [query, interpolation]]
  | outboundNetworkCall => [.inCode [networkCall], .inScripts [webAddress]]
  | unsanitizedPath => [.inScripts [fileCall, outsideInput]]
  | broadPermission => []
  | promptInjectionGuidance => []

/-- The rules that match lines, in the order in which they are reported. -/
def ofLines : List SecurityRule := [
  hardcodedSecret, dynamicCodeExecution, shellInterpolation, unsafeDeserialization,
  stringBuiltQuery, outboundNetworkCall, unsanitizedPath]

/-- Whether a rule matches a line in its context. -/
def accepts (r : SecurityRule) (context : LineContext) (line : List Char) : Bool :=
  r.matchers.any fun m => m.accepts context line

end SecurityRule

end SkillAudit
