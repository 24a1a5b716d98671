import SkillAudit.Config.Prepare
import SkillAudit.Report.Format
/-!
# SkillAudit.Command.Option

The options of the command line, the values they take, and what can be wrong with a command line.
-/

namespace SkillAudit

/-- Why a command line does not name a command to run. -/
inductive UsageError where
  /-- Help is asked for. -/
  | help
  /-- The version is asked for. -/
  | version
  /-- Nothing is given at all, which is answered with help. -/
  | nothingGiven
  /-- No command is named. -/
  | missingCommand
  /-- Something else stands where a command is named. -/
  | unknownCommand
  /-- There is no such option, or no place for another operand. -/
  | unknownArgument
  /-- A path is missing. -/
  | missingPath
  /-- An option is given twice that may be given once. -/
  | repeatedOption
  /-- A value is given to an option that takes none. -/
  | unwantedValue
  /-- A value is missing, empty, or none of the values to choose from. -/
  | invalidValue
  /-- A value cannot be read, for a reason. -/
  | unreadableValue (reason : String)
deriving DecidableEq, Repr

namespace UsageError

/-- The code with which the program ends: asking for help or the version is no error. -/
def exitCode : UsageError → Nat
  | help => 0
  | version => 0
  | _ => 2

/-- The reason why a value cannot be read. -/
def reason? : UsageError → Option String
  | unreadableValue reason => some reason
  | _ => none

end UsageError

/-! ## Options -/

/-- The options. -/
inductive CommandOption where
  | help
  | version
  | logLevel
  | workers
  | format
  | config
  | volume
  | failUnder
  | priority
  | output
  | severity
  | force
deriving DecidableEq, Repr

namespace CommandOption

/-- The name behind two hyphens. -/
def long : CommandOption → String
  | help => "help"
  | version => "version"
  | logLevel => "log-level"
  | workers => "workers"
  | format => "format"
  | config => "config"
  | volume => "volume"
  | failUnder => "fail-under"
  | priority => "priority"
  | output => "output"
  | severity => "severity"
  | force => "force"

/-- The letter behind one hyphen. -/
def short? : CommandOption → Option Char
  | help => some 'h'
  | version => some 'V'
  | format => some 'f'
  | config => some 'c'
  | output => some 'o'
  | _ => none

/-- Whether the option takes a value. -/
def takesValue : CommandOption → Bool
  | help | version | force => false
  | _ => true

/-- Whether the option may be given more than once. -/
def isRepeatable : CommandOption → Bool
  | priority => true
  | _ => false

end CommandOption

/-! ## Commands -/

/-- The commands. -/
inductive CommandName where
  | validate
  | tokens
  | scan
  | init
deriving DecidableEq, Repr

namespace CommandName

/-- Every command. -/
def all : List CommandName := [validate, tokens, scan, init]

/-- The word for a command. -/
def word : CommandName → String
  | validate => "validate"
  | tokens => "tokens"
  | scan => "scan"
  | init => "init"

/-- The command of a word. -/
def ofWord? (s : String) : Option CommandName := all.find? fun c => c.word == s

open CommandOption in
/-- The options of a command. -/
def options : CommandName → List CommandOption
  | validate => [help, logLevel, workers, format, config, volume, failUnder, priority, output]
  | tokens => [help, logLevel, workers, volume, format, config]
  | scan => [help, logLevel, workers, severity, format, config]
  | init => [help, logLevel, workers, output, force]

end CommandName

open CommandOption in
/-- The options in front of a command. -/
def commonOptions : List CommandOption := [help, version, logLevel, workers]

/-! ## Values -/

/-- What a command line sets. -/
structure Arguments where
  paths : List String := []
  format : ReportFormat := .text
  config : Option String := none
  volume : Option Nat := none
  failUnder : Option Numeral := none
  priorities : Priorities := []
  output : Option String := none
  severity : Option Severity := none
  force : Bool := false

namespace Arguments

/-- Reads a count of at most 64 bits; a plus sign may stand in front. -/
def readCount (value : String) : Except UsageError Nat :=
  let digits := match value.toList with
    | '+' :: (d :: rest) => d :: rest
    | cs => cs
  if digits.isEmpty then .error (.unreadableValue "cannot parse integer from empty string")
  else go 0 digits
where
  /-- Reads the digits that are left. -/
  go (n : Nat) : List Char → Except UsageError Nat
    | [] => .ok n
    | c :: rest =>
      let next := n * 10 + (c.toNat - 48)
      if !c.isDigit then .error (.unreadableValue "invalid digit found in string")
      else if Reading.largestCount < next then
        .error (.unreadableValue "number too large to fit in target type")
      else go next rest

/-- Reads a number in any of the usual spellings. -/
def readNumeral (value : String) : Except UsageError Numeral :=
  if value.isEmpty then .error (.unreadableValue "cannot parse float from empty string")
  else
    match Numeral.ofText? value.toList with
    | some n => .ok n
    | none => .error (.unreadableValue "invalid float literal")

/-- Reads a number of workers. -/
def readWorkers (value : String) : Except UsageError Nat :=
  match readCount value with
  | .error _ => .error (.unreadableValue s!"'{value}' is not a valid number")
  | .ok 0 => .error (.unreadableValue "workers must be at least 1")
  | .ok n => if 64 < n then .error (.unreadableValue "workers cannot exceed 64") else .ok n

/-- Reads a path with its tier. -/
def readPriority (value : String) : Except UsageError (String × Tier) :=
  match Text.cutFirst? '=' value.toList with
  | none => .error (.unreadableValue s!"'{value}' is not in path=tier form")
  | some (path, tier) =>
    let path := Text.dropRepeated ['.', '/'] (Text.trim path)
    if path.isEmpty then .error (.unreadableValue s!"'{value}' has an empty path")
    else
      match Tier.ofName (String.ofList tier) with
      | .ok tier => .ok (String.ofList path, tier)
      | .error reason => .error (.unreadableValue reason)

/-- Reads a path, which is not empty. -/
def readPath (value : String) : Except UsageError String :=
  if value.isEmpty then .error .invalidValue else .ok value

/-- Reads one of several words. -/
def readChoice (choices : List String) (value : String) : Except UsageError String :=
  if choices.contains value then .ok value else .error .invalidValue

/-- The words for the amount of logging. -/
def logLevels : List String := ["error", "warn", "info", "debug", "trace"]

/-- The words for formats. -/
def formats : List String := ["text", "json", "markdown", "md"]

/-- Reads the word for a format. -/
def readFormat (value : String) : Except UsageError ReportFormat := do
  match ReportFormat.ofName (← readChoice formats value) with
  | .ok f => .ok f
  | .error _ => .error .invalidValue

/-- Reads the word for a severity. -/
def readSeverity (value : String) : Except UsageError Severity := do
  match Severity.ofName (← readChoice (Severity.descending.map (·.name)) value) with
  | .ok s => .ok s
  | .error _ => .error .invalidValue

/-- Sets the value of an option. Logging and the number of workers change no result. -/
def set (a : Arguments) (option : CommandOption) (value : String) : Except UsageError Arguments :=
  match option with
  | .help => .ok a
  | .version => .ok a
  | .logLevel => (readChoice logLevels value).map fun _ => a
  | .workers => (readWorkers value).map fun _ => a
  | .format => (readFormat value).map fun f => { a with format := f }
  | .config => (readPath value).map fun p => { a with config := some p }
  | .volume => (readCount value).map fun n => { a with volume := some n }
  | .failUnder => (readNumeral value).map fun n => { a with failUnder := some n }
  | .priority =>
    (readPriority value).map fun p => { a with priorities := a.priorities.insert p.1 p.2 }
  | .output => (readPath value).map fun p => { a with output := some p }
  | .severity => (readSeverity value).map fun s => { a with severity := some s }
  | .force => .ok { a with force := true }

/-- Adds paths. -/
def addPaths (a : Arguments) (paths : List String) : Except UsageError Arguments :=
  (paths.mapM readPath).map fun ps => { a with paths := a.paths ++ ps }

end Arguments

end SkillAudit
