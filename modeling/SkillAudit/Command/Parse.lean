import SkillAudit.Command.Option
/-!
# SkillAudit.Command.Parse

Reading a command line. Options may stand before and behind operands, and the value of one may be
joined to it or follow it; behind two hyphens everything is an operand. What has been gathered is
judged when the next option or operand begins, or at the end, so that of two faults the one that
shows first is reported.
-/

namespace SkillAudit

/-- A command with what it needs to run. -/
inductive Command where
  | validate (paths : List String) (arguments : Arguments)
  | tokens (path : String) (arguments : Arguments)
  | scan (path : String) (arguments : Arguments)
  | init (output : Option String) (force : Bool)

namespace Command

/-- What is being gathered. -/
inductive Pending where
  /-- An option whose value has not come yet. -/
  | awaiting (option : CommandOption)
  /-- An option with its value. -/
  | valued (option : CommandOption) (value : String)
  /-- Operands. -/
  | operands (paths : List String)

/-- The reader of the part of a command line that belongs to one command, or stands in front of
    any. -/
structure Reader where
  arguments : Arguments
  /-- The options given so far. -/
  given : List CommandOption
  pending : Option Pending
  /-- Whether only operands are left. -/
  operandsOnly : Bool

namespace Reader

/-- Nothing read yet. -/
def start : Reader := ⟨{}, [], none, false⟩

/-- Judges an option with its value. -/
def accept (r : Reader) (option : CommandOption) (value : String) : Except UsageError Reader :=
  if r.given.contains option && !option.isRepeatable then .error .repeatedOption
  else
    (r.arguments.set option value).map fun a =>
      { r with arguments := a, given := option :: r.given }

/-- Judges what has been gathered. -/
def settle (r : Reader) : Except UsageError Reader :=
  let done := { r with pending := none }
  match r.pending with
  | none => .ok r
  | some (.awaiting _) => .error .invalidValue
  | some (.valued option value) => done.accept option value
  | some (.operands paths) => (r.arguments.addPaths paths).map fun a => { done with arguments := a }

/-- Takes an option, with a value joined to it or not. -/
def takeOption (r : Reader) (option : CommandOption) (joined : Option String) :
    Except UsageError Reader := do
  if option.takesValue then
    let r ← r.settle
    match joined with
    | some value => r.accept option value
    | none => return { r with pending := some (.awaiting option) }
  else if joined.isSome then .error .unwantedValue
  else
    let r ← r.settle
    match option with
    | .help => .error .help
    | .version => .error .version
    | _ => r.accept option ""

/-- Takes an option by its long name. -/
def takeLong (r : Reader) (options : List CommandOption) (name : String) (joined : Option String) :
    Except UsageError Reader :=
  match options.find? fun o => o.long == name with
  | some option => r.takeOption option joined
  | none => .error .unknownArgument

/-- Takes options by their letters. The first one that takes a value takes the letters behind it as
    its value, without an equals sign in front of them. -/
def takeShort (options : List CommandOption) : Reader → List Char → Except UsageError Reader
  | r, [] => .ok r
  | r, c :: rest =>
    match options.find? fun o => o.short? = some c with
    | none => .error .unknownArgument
    | some option =>
      if option.takesValue then
        match rest with
        | [] => r.takeOption option none
        | '=' :: value => r.takeOption option (some (String.ofList value))
        | value => r.takeOption option (some (String.ofList value))
      else do takeShort options (← r.takeOption option none) rest

/-- Takes an operand of a command. The first of the commands takes many, the last none, and the
    others one. -/
def takeOperand (r : Reader) (command : CommandName) (value : String) : Except UsageError Reader :=
  let more (paths : List String) : Reader := { r with pending := some (.operands paths) }
  let isFirst := r.arguments.paths.isEmpty
  match command, r.pending with
  | .init, _ => .error .unknownArgument
  | .validate, some (.operands paths) => .ok (more (paths ++ [value]))
  | _, some (.operands _) => .error .unknownArgument
  | _, _ =>
    if command = .validate || isFirst then
      r.settle.map fun r => { r with pending := some (.operands [value]) }
    else .error .unknownArgument

/-- What an argument looks like. -/
inductive Shape where
  /-- Two hyphens alone. -/
  | escape
  /-- Two hyphens, a name, and a value behind an equals sign if there is one. -/
  | long (name : String) (joined : Option String)
  /-- One hyphen and letters. -/
  | short (letters : List Char)
  /-- Anything else. -/
  | plain

/-- The shape of an argument. -/
def Shape.of (argument : String) : Shape :=
  match argument.toList with
  | ['-', '-'] => .escape
  | '-' :: '-' :: rest =>
    match Text.cutFirst? '=' rest with
    | some (name, value) => .long (String.ofList name) (some (String.ofList value))
    | none => .long (String.ofList rest) none
  | ['-'] => .plain
  | '-' :: rest => .short rest
  | _ => .plain

/-- Takes an argument that is no option: the value that is awaited, or an operand. -/
def takePlain (r : Reader) (operand : Reader → Except UsageError Reader) (argument : String) :
    Except UsageError Reader :=
  match r.pending with
  | some (.awaiting option) => .ok { r with pending := some (.valued option argument) }
  | _ => operand r

/-- Takes an argument. -/
def take (r : Reader) (options : List CommandOption) (operand : Reader → Except UsageError Reader)
    (argument : String) : Except UsageError Reader :=
  if r.operandsOnly then operand r
  else
    match Shape.of argument with
    | .escape => .ok { r with operandsOnly := true }
    | .long name joined => r.takeLong options name joined
    | .short letters => takeShort options r letters
    | .plain => r.takePlain operand argument

end Reader

/-- Reads the arguments of a command. -/
def readArguments (command : CommandName) (args : List String) : Except UsageError Arguments := do
  let r ← args.foldlM
    (fun r argument => r.take command.options (·.takeOperand command argument) argument)
    Reader.start
  let r ← r.settle
  return r.arguments

/-- The command of its name and arguments. -/
def ofArguments (command : CommandName) (a : Arguments) : Except UsageError Command :=
  match command, a.paths with
  | .init, _ => .ok (init a.output a.force)
  | .validate, p :: ps => .ok (validate (p :: ps) a)
  | .tokens, p :: _ => .ok (tokens p a)
  | .scan, p :: _ => .ok (scan p a)
  | _, [] => .error .missingPath

/-- What is asked for help about. -/
def helpOn : List String → UsageError
  | [] => .help
  | [topic] =>
    if topic = "help" || (CommandName.ofWord? topic).isSome then .help else .unknownCommand
  | _ => .unknownCommand

/-- Whether a word stands where a command is named, so far. -/
def namesCommand (r : Reader) (argument : String) : Bool :=
  !r.operandsOnly &&
    (match r.pending with
    | some (.awaiting _) => false
    | _ => true) &&
    (argument = "help" || (CommandName.ofWord? argument).isSome)

/-- What is wrong about an operand in front of any command. -/
def strayOperand (r : Reader) (argument : String) : UsageError :=
  if r.operandsOnly && (argument = "help" || (CommandName.ofWord? argument).isSome) then
    .unknownArgument
  else .unknownCommand

/-- Reads a command line from an argument on. What was gathered in front of the command is judged
    behind it. -/
def parseFrom (r : Reader) : List String → Except UsageError Command
  | [] => do
    let r ← r.settle
    if r.given.isEmpty then .error .nothingGiven else .error .missingCommand
  | argument :: rest =>
    if namesCommand r argument then
      match CommandName.ofWord? argument with
      | none => .error (helpOn rest)
      | some command => do
        let a ← readArguments command rest
        let c ← ofArguments command a
        let _ ← r.settle
        return c
    else
      match r.take commonOptions (fun r => .error (strayOperand r argument)) argument with
      | .ok r => parseFrom r rest
      | .error e => .error e

/-- Reads a command line. -/
def parse (args : List String) : Except UsageError Command := parseFrom Reader.start args

end Command

end SkillAudit
