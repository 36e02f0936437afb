import Sandbox.CommandLine.Grammar

/-!
# Help and usage errors

## Main definitions

* `Command.usage`, `Command.usageFor` : usage lines.
* `Command.help` : what is printed when help is asked for.
* `Fault`, `UsageError` : what is wrong with a command line.
* `UsageError.render` : what is printed about it.
-/

namespace Sandbox.CommandLine

namespace Command

/-- Whether a command is the program itself, which has the others as subcommands. -/
def isProgram (command : Command) : Bool :=
  command.name == program.name

/-- The command with the name of the program before it. -/
def path (command : Command) : String :=
  if command.isProgram then command.name else program.name ++ " " ++ command.name

/-- Words with a blank before each. -/
def spaced (words : List String) : String :=
  String.join (words.map (" " ++ ·))

/-- What stands for the subcommand. -/
def subcommandPart (command : Command) : List String :=
  if command.isProgram then ["<COMMAND>"] else []

/-- The usage line for any call of a command. -/
def usage (command : Command) : String :=
  let optional := command.options.any fun option => !option.isRequired
  command.path ++ spaced ((if optional then ["[OPTIONS]"] else []) ++
    (command.options.filter Parameter.isRequired ++ command.operands).map Parameter.spelling ++
    command.subcommandPart)

/-- The usage line for a call with some options and operands, or the line for any call if there are
none. -/
def usageFor (command : Command) (used : List Name) : String :=
  if used.isEmpty then command.usage
  else
    let required := command.options.filter Parameter.isRequired
    let further := used.filterMap fun name =>
      command.options.find? fun option => option.name == name && !option.isRequired
    let operands := command.operands.filter fun operand =>
      operand.isRequired || used.contains operand.name
    command.path ++ spaced ((required ++ further ++ operands).map Parameter.spelling ++
      command.subcommandPart)

/-! ### Help -/

/-- A text filled up with blanks. -/
def padded (width : Nat) (text : String) : String :=
  text ++ String.ofList (List.replicate (width - text.length) ' ')

/-- A part of the help: a heading and rows of two columns. -/
def helpSection (heading : String) (rows : List (String × String)) : List String :=
  if rows.isEmpty then []
  else
    let width := rows.foldl (fun width row => max width row.1.length) 0
    ["", heading ++ ":"] ++ rows.map fun (left, right) => "  " ++ padded width left ++ "  " ++ right

/-- How an option is written in the help. -/
def optionRow (option : Parameter) : String × String :=
  let short := match option.short with
    | some c => String.ofList ['-', c, ',', ' ']
    | none => "    "
  (short ++ option.spelling, option.about)

/-- What is printed when help is asked for. -/
def help (command : Command) : String :=
  let subcommands := if command.isProgram then commands.map fun c => (c.name, c.about) else []
  String.join (([command.about, "", "Usage: " ++ command.usage] ++
    helpSection "Commands" subcommands ++
    helpSection "Arguments" (command.operands.map fun o => (o.spelling, o.about)) ++
    helpSection "Options" (command.options.map optionRow)).map (· ++ "\n"))

/-- The option that asks for help, if there is one. -/
def helpOption? (command : Command) : Option String :=
  (command.options.find? fun option => option.name == .help).map Parameter.spelling

end Command

/-! ### Errors -/

/-- What is wrong with a command line. -/
inductive Fault where
  /-- There is no such option, or no operand is expected. -/
  | unexpected (argument : String)
  /-- There is no such subcommand. -/
  | unrecognized (name : String)
  /-- There is no subcommand. -/
  | missingCommand
  /-- Something that has to be given is not. -/
  | missing (parameters : List Parameter)
  /-- A value is missing. -/
  | noValue (parameter : Parameter)
  /-- A value is given where none is expected. -/
  | extraValue (parameter : Parameter) (value : String)
  /-- An option is given twice. -/
  | repeated (parameter : Parameter)
  deriving DecidableEq, Repr

/-- The wording. -/
def Fault.message : Fault → String
  | unexpected argument => "unexpected argument '" ++ argument ++ "' found"
  | unrecognized name => "unrecognized subcommand '" ++ name ++ "'"
  | missingCommand =>
    "'" ++ program.name ++ "' requires a subcommand but one was not provided\n  [subcommands: " ++
      ", ".intercalate (commands.map Command.name) ++ "]"
  | missing parameters =>
    "the following required arguments were not provided:" ++
      String.join (parameters.map fun parameter => "\n  " ++ parameter.spelling)
  | noValue parameter =>
    "a value is required for '" ++ parameter.spelling ++ "' but none was supplied"
  | extraValue parameter value =>
    "unexpected value '" ++ value ++ "' for '" ++ parameter.spelling ++
      "' found; no more were expected"
  | repeated parameter =>
    "the argument '" ++ parameter.spelling ++ "' cannot be used multiple times"

/-- What is wrong with a command line, and what is said to help. -/
structure UsageError where
  /-- The command whose arguments are wrong. -/
  command : Command
  /-- What is wrong. -/
  fault : Fault
  /-- What could have been meant. -/
  tips : List String := []
  /-- The options and operands in the usage line; without them there is no such line. -/
  used : Option (List Name) := some []
  deriving DecidableEq, Repr

/-- What is printed about a usage error. -/
def UsageError.render (error : UsageError) : String :=
  let tips := if error.tips.isEmpty then []
    else ["\n".intercalate (error.tips.map ("  tip: " ++ ·))]
  let usage := match error.used with
    | some used => ["Usage: " ++ error.command.usageFor used]
    | none => []
  let more := match error.command.helpOption? with
    | some option => ["For more information, try '" ++ option ++ "'."]
    | none => []
  "\n\n".intercalate (["error: " ++ error.fault.message] ++ tips ++ usage ++ more) ++ "\n"

end Sandbox.CommandLine
