/-!
# The grammar of the command line

Which options and operands the commands have, and what is said about them.

## Main definitions

* `Name` : the options and operands.
* `Parameter` : an option or an operand.
* `Command` : a command with its options, operands and subcommands.
* `program`, `runCommand`, `languagesCommand`, `fetchCommand`, `helpCommand` : the commands.
-/

namespace Sandbox.CommandLine

/-- The options and operands. -/
inductive Name where
  /-- Asks for help. -/
  | help
  /-- Asks for the version. -/
  | version
  /-- The configuration file. -/
  | config
  /-- The directory for logs. -/
  | logDirectory
  /-- Asks for logs that are meant for programs. -/
  | logJson
  /-- The language. -/
  | language
  /-- The file with the code. -/
  | codeFile
  /-- The file with the validation script. -/
  | validation
  /-- Asks for a report that is meant for programs. -/
  | json
  /-- The commands about which help is asked. -/
  | topics
  deriving DecidableEq, Repr

/-- What follows an option. -/
inductive Arity where
  /-- Nothing. -/
  | flag
  /-- A text. -/
  | text (placeholder : String)
  /-- A path, which is not empty. -/
  | path (placeholder : String)
  deriving DecidableEq, Repr

/-- An option, or an operand if it has no long form. -/
structure Parameter where
  /-- Which one it is. -/
  name : Name
  /-- The long form, without the dashes. -/
  long : Option String := none
  /-- The short form. -/
  short : Option Char := none
  /-- What follows it. -/
  arity : Arity := .flag
  /-- Whether it has to be given. -/
  isRequired : Bool := false
  /-- Whether an operand may be given more than once. -/
  isRepeated : Bool := false
  /-- What is said about it. -/
  about : String
  deriving DecidableEq, Repr

/-- A command. -/
structure Command where
  /-- Its name. -/
  name : String
  /-- What is said about it. -/
  about : String
  /-- Its options, in the order in which help shows them. -/
  options : List Parameter := []
  /-- Its operands. -/
  operands : List Parameter := []
  deriving DecidableEq, Repr

namespace Parameter

/-- Whether it is an operand. -/
def isOperand (parameter : Parameter) : Bool :=
  parameter.long.isNone

/-- Whether something follows it, which an operand is itself. -/
def takesValue (parameter : Parameter) : Bool :=
  parameter.arity != .flag

/-- What stands for the value. -/
def placeholder (parameter : Parameter) : String :=
  match parameter.arity with
  | .flag => ""
  | .text placeholder | .path placeholder =>
    if parameter.isOperand && !parameter.isRequired then "[" ++ placeholder ++ "]"
    else "<" ++ placeholder ++ ">"

/-- How it is written in a usage line. -/
def spelling (parameter : Parameter) : String :=
  match parameter.long with
  | some long =>
    "--" ++ long ++ if parameter.takesValue then " " ++ parameter.placeholder else ""
  | none => parameter.placeholder ++ if parameter.isRepeated then "..." else ""

end Parameter

/-! ### The commands -/

/-- The options that all commands have. -/
def globalOptions : List Parameter :=
  [⟨.config, some "config", none, .path "CONFIG", false, false,
      "Path to polyrun.toml (discovered from the working directory otherwise)"⟩,
    ⟨.logDirectory, some "log-dir", none, .path "LOG_DIR", false, false,
      "Write rotated log files to this directory instead of stderr"⟩,
    ⟨.logJson, some "log-json", none, .flag, false, false, "Emit logs as JSON"⟩]

/-- The command that runs a submission. -/
def runCommand : Command where
  name := "run"
  about := "Run a code file and report the result"
  options :=
    [⟨.language, some "lang", some 'l', .text "LANG", true, false,
        "Language id (javascript, python, c, cpp)"⟩,
      ⟨.validation, some "validation", some 'v', .path "VALIDATION", false, false,
        "Validation script appended after the code"⟩] ++
      globalOptions.take 1 ++
      [⟨.json, some "json", none, .flag, false, false, "Print the result as JSON"⟩] ++
      globalOptions.drop 1
  operands :=
    [⟨.codeFile, none, none, .path "CODE_FILE", true, false, "File containing the code to run"⟩]

/-- The command that lists the languages. -/
def languagesCommand : Command where
  name := "languages"
  about := "List supported languages"
  options :=
    ⟨.json, some "json", none, .flag, false, false, "Print the list as JSON"⟩ :: globalOptions

/-- The command that makes backends ready. -/
def fetchCommand : Command where
  name := "fetch"
  about := "Download and prepare backends ahead of time"
  options :=
    ⟨.language, some "lang", some 'l', .text "LANG", false, false, "Only prepare this language"⟩ ::
      globalOptions

/-- The command that explains commands. -/
def helpCommand : Command where
  name := "help"
  about := "Print this message or the help of the given subcommand(s)"
  operands :=
    [⟨.topics, none, none, .text "COMMAND", false, true, "Print help for the subcommand(s)"⟩]

/-- The program itself. -/
def program : Command where
  name := "polyrun"
  about := "Run exercise code in a sandboxed language backend"
  options :=
    [⟨.help, some "help", some 'h', .flag, false, false, "Print help"⟩,
      ⟨.version, some "version", some 'V', .flag, false, false, "Print version"⟩] ++ globalOptions

/-- The commands of the program. -/
def commands : List Command :=
  [runCommand, languagesCommand, fetchCommand, helpCommand]

/-- The command with a name. -/
def command? (name : String) : Option Command :=
  commands.find? fun command => command.name == name

end Sandbox.CommandLine
