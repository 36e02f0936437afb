import Sandbox.CommandLine.Banner
import Sandbox.CommandLine.Jobs
import Sandbox.Log.Filter
import Sandbox.Log.Format

/-!
# The program

One process: the banner, the command line, the log, the configuration, and the command.

## Main definitions

* `Launch` : what a process is started with.
* `Ended` : how a process ended and what it printed.
* `execute` : a process from its start to its end.
-/

namespace Sandbox.CommandLine

/-- What a process is started with. -/
structure Launch where
  /-- The command line, which begins with the name of the program. -/
  arguments : List String
  /-- The directories that the system provides. -/
  environment : Config.Environment
  /-- Which events are shown, if the environment says so. -/
  filter : Option String := none
  /-- The day on which the program was built. -/
  built : String
  /-- The day on which the process runs. -/
  today : String
  /-- The time at which events happen. -/
  time : String

/-- How a process ended and what it printed. -/
structure Ended where
  /-- The exit code. -/
  exitCode : Nat
  /-- The standard output. -/
  stdout : String := ""
  /-- The error stream. -/
  stderr : String := ""
  deriving DecidableEq, Repr

/-- Lines as a text. -/
def textOf (lines : List String) : String :=
  String.join (lines.map (· ++ "\n"))

/-- How a process ends that has nothing to do. -/
def ended : Stop → Ended
  | .help command => { exitCode := 0, stdout := command.help }
  | .version => { exitCode := 0, stdout := textOf [program.name ++ " " ++ version] }
  | .nothing => { exitCode := 2, stderr := program.help }
  | .usage error => { exitCode := 2, stderr := error.render }

/-- The banner, if it is shown. -/
def banner (launch : Launch) : String :=
  if shouldShowBanner launch.arguments then textOf (bannerLines launch.built) else ""

/-! ### The log -/

/-- The lines of a log that are shown. -/
def shownLines (launch : Launch) (line : Log.Event → String) (log : Log) : String :=
  let (filter, _) := Log.Filter.ofText (Log.Filter.textFor launch.filter)
  textOf ((log.filter filter.shows).map line)

/-- What is said about a filter that cannot be read as a whole. -/
def filterComplaints (launch : Launch) : String :=
  let (_, ignored) := Log.Filter.ofText (Log.Filter.textFor launch.filter)
  textOf (ignored.map fun directive =>
    "ignoring \x60" ++ directive ++ "\x60: invalid filter directive")

/-- The log file of a day. -/
def logFile (directory today : String) : String :=
  Path.join directory ("polyrun.log." ++ today)

/-- Adds text at the end of a file, which is made if it is missing. -/
def appendText (path text : String) : StateM Host Unit := do
  let before ← Host.look (·.read path)
  let bytes := match before with
    | .ok content => content.bytes?.getD []
    | .error _ => []
  discard (Host.edit (·.write path (.bytes (bytes ++ Text.Utf8.encode text))))

/-- Makes the log file ready, if there is to be one. -/
def openLog (launch : Launch) : (directory : Option String) → StateM Host (Except Report Unit)
  | none => return .ok ()
  | some directory => do
    match ← Host.edit (·.makeDirectories directory) with
    | .error e =>
      return .error ⟨"Failed to create log directory " ++ directory ++ ": " ++ e.message, []⟩
    | .ok _ =>
      appendText (logFile directory launch.today) ""
      return .ok ()

/-- Writes the log where it belongs, and gives what is shown of it on the error stream. -/
def closeLog (launch : Launch) (call : Call) : StateM Host String := do
  let log := (← get).log
  modify fun host => { host with log := [] }
  match call.logDirectory with
  | some directory =>
    let line := if call.logJson then Log.Event.jsonLine launch.time
      else Log.Event.plainLine launch.time
    appendText (logFile directory launch.today) (shownLines launch line log)
    return ""
  | none =>
    let line := if call.logJson then Log.Event.jsonLine launch.time
      else Log.Event.colouredLine launch.time
    return shownLines launch line log

/-! ### The process -/

/-- How a process ends whose command has finished. -/
def endedBy (finished : Finished) : Ended :=
  let stdout := textOf finished.stdout
  let stderr := textOf finished.stderr
  match finished.outcome with
  | .ok success => { exitCode := if success then 0 else 1, stdout, stderr }
  | .error report => { exitCode := 1, stdout, stderr := stderr ++ report.render }

/-- Loads the configuration and performs the command that a call asks for. -/
def carryOut (launch : Launch) (call : Call) : StateM Host Finished := do
  match ← loadConfig call.config with
  | .error report => return { outcome := .error report }
  | .ok config =>
    let (finished, session) := (perform config launch.environment call.job).run { host := ← get }
    set session.host
    return finished

/-- The process for a call. -/
def executeCall (launch : Launch) (call : Call) : StateM Host Ended := do
  let complaints := filterComplaints launch
  match ← openLog launch call.logDirectory with
  | .error report =>
    let ended := endedBy { outcome := .error report }
    return { ended with stderr := complaints ++ ended.stderr }
  | .ok _ =>
    let finished ← carryOut launch call
    let shown ← closeLog launch call
    let ended := endedBy finished
    return { ended with stderr := complaints ++ shown ++ ended.stderr }

/-- A process from its start to its end. -/
def execute (launch : Launch) : StateM Host Ended := do
  modify fun host => { host with log := [] }
  let ended ← match parse (launch.arguments.drop 1) with
    | .error stop => pure (ended stop)
    | .ok call => executeCall launch call
  return { ended with stdout := banner launch ++ ended.stdout }

end Sandbox.CommandLine
