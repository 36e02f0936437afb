import Sandbox.CommandLine.Parse
import Sandbox.Config.Discover
import Sandbox.Report
import Sandbox.RunResult.Json
import Sandbox.Session

/-!
# What the commands do

## Main definitions

* `Finished` : how a command ended and what it printed.
* `loadConfig` : the configuration for a command.
* `run`, `languages`, `fetch` : the commands.
* `perform` : the command that a call asks for.
-/

namespace Sandbox.CommandLine

/-- How a command ended and what it printed. -/
structure Finished where
  /-- Whether the command was successful, or why it could not do its work. -/
  outcome : Except Report Bool
  /-- The lines on the standard output. -/
  stdout : List String := []
  /-- The lines on the error stream. -/
  stderr : List String := []

/-- A text in a colour. -/
def coloured (colour text : String) : String :=
  "\x1b[" ++ colour ++ "m" ++ text ++ "\x1b[39m"

/-- A text in green. -/
def green (text : String) : String := coloured "32" text

/-- A text in red. -/
def red (text : String) : String := coloured "31" text

/-- The configuration in a file, or in the nearest file that is found from the directory in which
the program works. -/
def loadConfig : (path : Option String) → StateM Host (Except Report Config)
  | some path => do
    let loaded ← Host.look fun files => Config.load files path
    return loaded.mapError (Report.ofSetup ("Failed to load configuration from " ++ path))
  | none => do
    let found ← Config.discover (Files.Location.path (← get).files.here)
    return found.mapError (Report.ofSetup "Failed to load discovered configuration")

/-- The configured backends. -/
def buildRegistry (config : Config) (environment : Config.Environment) :
    Except Report (Registry Session) :=
  (Registry.ofConfig config environment).mapError
    (Report.ofSetup "Failed to set up language backends")

/-- How a command ends that is asked for a language that is not supported. -/
def unsupported (registry : Registry Session) (language : String) : Finished :=
  { outcome := .ok false
    stderr := ["Error: Unsupported language '" ++ language ++ "'. Supported: " ++
      ", ".intercalate registry.languages] }

/-! ### Running -/

/-- The text of a file with source. -/
def readSource (path : String) : StateM Host (Except Report String) := do
  let text ← Host.look (·.readText path)
  return text.mapError fun e => ⟨"Failed to read " ++ path, [e.message]⟩

/-- The submission in the files that a call names. -/
def readSubmission (options : RunOptions) : ExceptT Report (StateM Host) Submission := do
  let code ← ExceptT.mk (readSource options.codeFile)
  let validation ← options.validation.mapM fun path => ExceptT.mk (readSource path)
  return ⟨code, validation⟩

/-- The part of the sandbox that speaks about runs. -/
def logTarget : String := "polyrun::commands::run"

/-- Makes a backend ready and runs a submission. If the backend cannot be made ready, that is the
result. -/
def loadAndRun (backend : Backend Session) (submission : Submission) :
    StateM Session RunResult := do
  match ← backend.load with
  | .ok _ =>
    say .debug logTarget ("Running " ++ backend.language ++ " (" ++
      toString submission.code.utf8ByteSize ++ " bytes)")
    backend.run submission
  | .error e =>
    return .failed [] ("Failed to load " ++ backend.language ++ " backend: " ++ e.message) .load

/-- How a command ends that has a result to report. -/
def reportResult (json : Bool) (result : RunResult) : Finished :=
  if json then { outcome := .ok result.success, stdout := [result.document.pretty] }
  else if result.success then
    { outcome := .ok true, stdout := result.output ++ [green result.statusLine] }
  else { outcome := .ok false, stdout := result.output, stderr := [red result.statusLine] }

/-- Runs a submission and reports the result. -/
def run (config : Config) (environment : Config.Environment) (options : RunOptions) :
    StateM Session Finished := do
  match buildRegistry config environment with
  | .error report => return { outcome := .error report }
  | .ok registry =>
    match registry.find? options.language with
    | none => return unsupported registry options.language
    | some backend =>
      match ← Session.onHost (readSubmission options).run with
      | .error report => return { outcome := .error report }
      | .ok submission =>
        let result ← loadAndRun backend submission
        say .info logTarget (backend.language ++ " run finished: success=" ++
          if result.success then "true" else "false")
        return reportResult options.json result

/-! ### Listing -/

/-- What is shown of a language, as a document. -/
def entryDocument (entry : LanguageEntry) : Json.Document :=
  .object [("language", .text entry.language), ("kind", .text entry.kind.name),
    ("loaded", .bool entry.isLoaded)]

/-- A row of two columns. -/
def row (left right : String) : String :=
  Command.padded 12 left ++ " " ++ Command.padded 12 right

/-- How a command ends that lists languages. -/
def reportEntries (json : Bool) (entries : List LanguageEntry) : Finished :=
  { outcome := .ok true
    stdout := if json then [(Json.Document.array (entries.map entryDocument)).pretty]
      else [row "Language" "Backend", String.ofList (List.replicate 24 '-')] ++
        entries.map fun entry => row entry.language entry.kind.name }

/-- Lists the supported languages. -/
def languages (config : Config) (environment : Config.Environment) (json : Bool) :
    StateM Session Finished := do
  match buildRegistry config environment with
  | .error report => return { outcome := .error report }
  | .ok registry => return reportEntries json (registry.entries (← get))

/-! ### Preparing -/

/-- How a command ends that made backends ready. -/
def reportOutcomes (outcomes : List (String × Except LoadError Unit)) : Finished :=
  { outcome := .ok (outcomes.all fun (_, outcome) => outcome.isOk)
    stdout := outcomes.filterMap fun (language, outcome) =>
      match outcome with
      | .ok _ => some (green "✓" ++ " " ++ language)
      | .error _ => none
    stderr := outcomes.filterMap fun (language, outcome) =>
      match outcome with
      | .ok _ => none
      | .error e => some (red "✗" ++ " " ++ language ++ ": " ++ e.message) }

/-- Makes backends ready, or just the one for a language. -/
def fetch (config : Config) (environment : Config.Environment) (language : Option String) :
    StateM Session Finished := do
  match buildRegistry config environment with
  | .error report => return { outcome := .error report }
  | .ok registry =>
    match language with
    | none => return reportOutcomes (← registry.loadAll)
    | some language =>
      match registry.find? language with
      | none => return unsupported registry language
      | some backend => return reportOutcomes [(backend.language, ← backend.load)]

/-- The command that a call asks for. -/
def perform (config : Config) (environment : Config.Environment) : Job → StateM Session Finished
  | .run options => run config environment options
  | .languages json => languages config environment json
  | .fetch language => fetch config environment language

end Sandbox.CommandLine
