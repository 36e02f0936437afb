import Sandbox.CommandLine.Usage
import Sandbox.Text.Search
import Sandbox.Text.Similarity

/-!
# Reading the command line

Arguments are read from left to right. What is read is first that of the program; with the name of a
subcommand it becomes that of the subcommand. A value is taken over only when the next option or
operand begins, so that an unknown option is noticed before an option that is given twice.

## Main definitions

* `Call` : what a command line asks for.
* `Stop` : why there is nothing to do.
* `Reading` : what was read of the arguments of a command.
* `parse` : what the arguments ask for.
-/

namespace Sandbox.CommandLine

/-! ### What can be asked for -/

/-- What the `run` command is asked for. -/
structure RunOptions where
  /-- The language. -/
  language : String
  /-- The file with the code. -/
  codeFile : String
  /-- The file with the validation script. -/
  validation : Option String
  /-- Whether the report is meant for programs. -/
  json : Bool
  deriving DecidableEq, Repr

/-- A subcommand with what it is asked for. -/
inductive Job where
  /-- Runs a submission. -/
  | run (options : RunOptions)
  /-- Lists the languages. -/
  | languages (json : Bool)
  /-- Makes backends ready. -/
  | fetch (language : Option String)
  deriving DecidableEq, Repr

/-- What a command line asks for. -/
structure Call where
  /-- What is to be done. -/
  job : Job
  /-- The configuration file. -/
  config : Option String
  /-- The directory for logs. -/
  logDirectory : Option String
  /-- Whether logs are meant for programs. -/
  logJson : Bool
  deriving DecidableEq, Repr

/-- Why there is nothing to do. -/
inductive Stop where
  /-- Help was asked for. -/
  | help (command : Command)
  /-- The version was asked for. -/
  | version
  /-- Nothing was asked for. -/
  | nothing
  /-- The command line is wrong. -/
  | usage (error : UsageError)
  deriving DecidableEq, Repr

/-! ### What was read -/

/-- An option or operand, with a value if it takes one. -/
abbrev Found : Type := List (Name × String)

/-- What was read of the arguments of a command. -/
structure Reading where
  /-- What was taken over, in order. -/
  found : Found := []
  /-- An option or operand that is not taken over yet, with its value if that has come. -/
  pending : Option (Parameter × Option String) := none
  /-- Whether the next argument is the value of the pending option. -/
  expectsValue : Bool := false
  /-- Whether only operands may follow. -/
  operandsOnly : Bool := false
  deriving DecidableEq, Repr

/-- Reading that may stop. -/
abbrev Outcome (α : Type) : Type := Except Stop α

/-- Stops with an error. -/
def fail {α : Type} (command : Command) (fault : Fault) (tips : List String := [])
    (used : Option (List Name) := some []) : Outcome α :=
  .error (.usage ⟨command, fault, tips, used⟩)

namespace Reading

/-- The names of what was taken over. -/
def names (reading : Reading) : List Name :=
  reading.found.map Prod.fst

/-- What was read, with one thing more taken over. -/
def add (command : Command) (parameter : Parameter) (value : String) (reading : Reading) :
    Outcome Reading :=
  if reading.names.contains parameter.name then fail command (.repeated parameter)
  else .ok { reading with found := reading.found ++ [(parameter.name, value)] }

/-- Takes over what is pending. -/
def settle (command : Command) (reading : Reading) : Outcome Reading :=
  match reading.pending with
  | none => .ok reading
  | some (parameter, value) =>
    let rest := { reading with pending := none }
    match value with
    | none => fail command (.noValue parameter) [] none
    | some value => do
      let after ← rest.add command parameter value
      match parameter.arity with
      | .path _ => if value.isEmpty then fail command (.noValue parameter) [] none else return after
      | _ => return after

/-- What was read once what is pending is taken over, if that is possible. -/
def settled (command : Command) (reading : Reading) : Reading :=
  match reading.settle command with
  | .ok settled => settled
  | .error _ => { reading with pending := none }

/-- Takes over an option without a value. Asking for help or the version stops the reading. -/
def addFlag (command : Command) (parameter : Parameter) (reading : Reading) : Outcome Reading := do
  let reading ← reading.settle command
  match parameter.name with
  | .help => .error (.help command)
  | .version => .error .version
  | _ => return { ← reading.add command parameter "" with expectsValue := false }

/-- Makes an option or operand with its value pending. -/
def suspend (command : Command) (parameter : Parameter) (value : Option String)
    (reading : Reading) : Outcome Reading := do
  let reading ← reading.settle command
  return { reading with pending := some (parameter, value), expectsValue := value.isNone }

/-- Takes over an option with a value that is part of the same argument. -/
def addAttached (command : Command) (parameter : Parameter) (value : String) (reading : Reading) :
    Outcome Reading := do
  (← reading.suspend command parameter (some value)).settle command

end Reading

/-! ### Options -/

/-- The hint that an argument may be meant as an operand. -/
def operandTip (command : Command) (reading : Reading) (argument : String) : List String :=
  if !reading.operandsOnly && !command.operands.isEmpty then
    ["to pass '" ++ argument ++ "' as a value, use '-- " ++ argument ++ "'"]
  else []

/-- The long forms of the options of a command. -/
def longForms (command : Command) : List String :=
  command.options.filterMap Parameter.long

/-- The hint that the option belongs to a subcommand that follows later. -/
def laterCommandTip? (command : Command) (long : String) (rest : List String) : Option String :=
  if !command.isProgram then none
  else
    let hints := commands.filterMap fun later => do
      let option ← (Text.mostSimilar long (longForms later)).getLast?
      let place ← rest.findIdx? (· == later.name)
      return (place, "'" ++ later.name ++ " --" ++ option ++ "' exists")
    let nearest := hints.foldl (fun best? hint =>
      match best? with
      | some best => if hint.1 < best.1 then some hint else some best
      | none => some hint) (none : Option (Nat × String))
    nearest.map Prod.snd

/-- Stops because there is no such long option. -/
def unknownLong (command : Command) (reading : Reading) (long : String) (rest : List String) :
    Outcome Reading :=
  let reading := reading.settled command
  match (Text.mostSimilar long (longForms command)).getLast? with
  | some similar =>
    let meant := (command.options.filter fun option => option.long == some similar).map
      Parameter.name
    fail command (.unexpected ("--" ++ long)) ["a similar argument exists: '--" ++ similar ++ "'"]
      (some (reading.names ++ meant.filter fun name => !reading.names.contains name))
  | none =>
    let tips := match laterCommandTip? command long rest with
      | some tip => [tip]
      | none => operandTip command reading ("--" ++ long)
    fail command (.unexpected ("--" ++ long)) tips (some reading.names)

/-- Reads an option in its long form. -/
def readLong (command : Command) (reading : Reading) (body : String) (rest : List String) :
    Outcome Reading :=
  let long := String.ofList (body.toList.takeWhile (· != '='))
  let value := match body.toList.drop long.length with
    | [] => none
    | _ :: value => some (String.ofList value)
  match command.options.find? fun option => option.long == some long, value with
  | none, _ => unknownLong command reading long rest
  | some option, some value =>
    if option.takesValue then reading.addAttached command option value
    else
      let optional := command.options.filter fun option => !option.isRequired
      fail command (.extraValue option value) []
        (some (reading.names.filter fun name => optional.any fun option => option.name == name))
  | some option, none =>
    if option.takesValue then reading.suspend command option none
    else reading.addFlag command option

/-- Reads options in their short forms. What follows one that takes a value is the value. -/
def readShort (command : Command) (reading : Reading) : List Char → Outcome Reading
  | [] => .ok reading
  | c :: rest =>
    match command.options.find? fun option => option.short == some c with
    | none =>
      let argument := String.ofList ['-', c]
      fail command (.unexpected argument) (operandTip command reading argument)
    | some option =>
      if option.takesValue then
        match rest with
        | [] => reading.suspend command option none
        | '=' :: value => reading.addAttached command option (String.ofList value)
        | value => reading.addAttached command option (String.ofList value)
      else do
        readShort command (← reading.addFlag command option) rest

/-! ### Operands -/

/-- Stops because an argument is neither an option nor an expected operand. -/
def unexpectedOperand (command : Command) (reading : Reading) (argument : String) :
    Outcome Reading :=
  if !command.isProgram then fail command (.unexpected argument)
  else if reading.operandsOnly && (command? argument).isSome then
    fail command (.unexpected argument)
      ["subcommand '" ++ argument ++ "' exists; to use it, remove the '--' before it"]
  else
    match Text.mostSimilar argument (commands.map Command.name) with
    | [] => fail command (.unrecognized argument)
    | [similar] =>
      fail command (.unrecognized argument) ["a similar subcommand exists: '" ++ similar ++ "'"]
    | similar =>
      fail command (.unrecognized argument) ["some similar subcommands exist: " ++
        ", ".intercalate (similar.map fun name => "'" ++ name ++ "'")]

/-- Reads an operand. -/
def readOperand (command : Command) (reading : Reading) (argument : String) : Outcome Reading :=
  let seen := reading.names ++ (reading.pending.map fun (parameter, _) => parameter.name).toList
  match command.operands.find? fun operand => !seen.contains operand.name with
  | some operand => reading.suspend command operand (some argument)
  | none => unexpectedOperand command reading argument

/-! ### Arguments -/

/-- Reads one argument that is not the name of a subcommand. -/
def readArgument (command : Command) (reading : Reading) (argument : String) (rest : List String) :
    Outcome Reading :=
  if reading.operandsOnly then readOperand command reading argument
  else
    match argument.toList with
    | ['-', '-'] => .ok { reading with operandsOnly := true }
    | '-' :: '-' :: body => readLong command reading (String.ofList body) rest
    | '-' :: c :: cs => readShort command reading (c :: cs)
    | _ =>
      match reading.expectsValue, reading.pending with
      | true, some (parameter, _) =>
        .ok { reading with pending := some (parameter, some argument), expectsValue := false }
      | _, _ => readOperand command reading argument

/-- Reads the arguments of a command. For the program this ends at the name of a subcommand, which
is given back with the arguments after it. -/
def readArguments (command : Command) (reading : Reading) :
    List String → Outcome (Reading × Option (Command × List String))
  | [] => .ok (reading, none)
  | argument :: rest =>
    let subcommand := if command.isProgram && !reading.operandsOnly && !reading.expectsValue then
        command? argument
      else none
    match subcommand with
    | some subcommand => .ok (reading, some (subcommand, rest))
    | none => do readArguments command (← readArgument command reading argument rest) rest

/-- Refuses what was read if something is missing that has to be given. -/
def checkRequired (command : Command) (reading : Reading) : Outcome Unit :=
  let missing := (command.options ++ command.operands).filter fun parameter =>
    parameter.isRequired && !reading.names.contains parameter.name
  if missing.isEmpty then .ok ()
  else fail command (.missing missing) [] (some (reading.names ++ missing.map Parameter.name))

/-- The command about which help is asked. -/
def helpTopic (command : Command) : List String → Stop
  | [] => .help command
  | name :: names =>
    match if command.isProgram then command? name else none with
    | some topic => helpTopic topic names
    | none => .usage ⟨command, .unrecognized name, [], some []⟩

/-- The job that a subcommand and its options stand for. -/
def jobOf (command : Command) (found : Found) : Option Job :=
  let json := (found.lookup .json).isSome
  match command.name with
  | "run" => do
    return .run ⟨← found.lookup .language, ← found.lookup .codeFile, found.lookup .validation, json⟩
  | "languages" => some (.languages json)
  | "fetch" => some (.fetch (found.lookup .language))
  | _ => none

/-- What the arguments after the name of the program ask for. -/
def parse (arguments : List String) : Outcome Call := do
  let (outer, subcommand) ← readArguments program {} arguments
  match subcommand with
  | none =>
    let outer ← outer.settle program
    if outer.found.isEmpty then .error .nothing else fail program .missingCommand
  | some (command, rest) =>
    if command.name == helpCommand.name then .error (helpTopic program rest)
    else
      let (inner, _) ← readArguments command {} rest
      let inner ← inner.settle command
      checkRequired command inner
      let outer ← outer.settle program
      match jobOf command inner.found with
      | none => .error .nothing
      | some job =>
        return { job
                 config := inner.found.lookup .config <|> outer.found.lookup .config
                 logDirectory :=
                   inner.found.lookup .logDirectory <|> outer.found.lookup .logDirectory
                 logJson := ((inner.found ++ outer.found).lookup .logJson).isSome }

end Sandbox.CommandLine
