import SkillAudit.Command.Parse
/-!
# SkillAudit.Command.Usage

What a command line is told that asks for help, or that names no command to run.
-/

namespace SkillAudit

namespace CommandOption

/-- What an option sets. -/
def purpose : CommandOption → String
  | help => "Tell what can be given"
  | version => "Tell the version"
  | logLevel => "How much is logged: error, warn, info, debug or trace"
  | workers => "How many packages are examined at once, from 1 to 64"
  | format => "The format of the report: text, json, markdown or md"
  | config => "The file of settings, in place of the one in each package"
  | volume => "How often a package is used in a month"
  | failUnder => "The lowest score that passes"
  | priority => "The tier of a file, as path=critical, path=important or path=optional"
  | output => "The file that is written"
  | severity => "The lowest severity that is shown"
  | force => "Write over a file that is there"

/-- An option in a list of options. -/
def describe (o : CommandOption) : String :=
  let short := match o.short? with
    | some c => "-" ++ String.singleton c ++ ", "
    | none => "    "
  let value := if o.takesValue then " <VALUE>" else ""
  s!"  {short}--{o.long}{value}\n          {o.purpose}\n"

end CommandOption

namespace CommandName

/-- What a command does. -/
def purpose : CommandName → String
  | validate => "Validate and score packages"
  | tokens => "Tell the tokens of a package and what they cost"
  | scan => "Tell the security findings of a package"
  | init => "Print the default settings, or write them to a file"

/-- The operands of a command. -/
def operands : CommandName → String
  | validate => " <PATHS>..."
  | tokens => " <PATH>"
  | scan => " <PATH>"
  | init => ""

/-- A command with its options. -/
def describe (c : CommandName) : String :=
  s!"{c.word}{c.operands}\n  {c.purpose}\n" ++ String.join (c.options.map (·.describe))

end CommandName

namespace UsageError

/-- The text of help. -/
def helpText : String :=
  "Usage: skillcheck [OPTIONS] <COMMAND>\n\n" ++
    String.intercalate "\n" (CommandName.all.map (·.describe)) ++
    "\nExit codes: 0 pass, 1 findings or score below threshold, 2 load failure\n"

/-- The text of the version. -/
def versionText : String := "skillcheck 0.3.0\n"

/-- What is wrong, in words. -/
def message : UsageError → String
  | help => helpText
  | version => versionText
  | nothingGiven => helpText
  | missingCommand => "error: a command is needed\n"
  | unknownCommand => "error: there is no such command\n"
  | unknownArgument => "error: there is no such option, or one operand too many\n"
  | missingPath => "error: a path is needed\n"
  | repeatedOption => "error: an option is given twice\n"
  | unwantedValue => "error: a value is given to an option that takes none\n"
  | invalidValue => "error: a value is missing, empty, or none of those to choose from\n"
  | unreadableValue reason => s!"error: {reason}\n"

end UsageError

end SkillAudit
