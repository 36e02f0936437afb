import Sandbox.Backend.Basic
import Sandbox.Backend.Slot
import Sandbox.Files.Content
import Sandbox.Python.Interpreter
import Sandbox.Text.Blank
import Sandbox.Text.Lines
import Sandbox.Text.Quoted

/-!
# Python

A submission in Python is run by an interpreter that is itself a guest. The interpreter is fetched
when it is first needed, by a load or by a run, and counts as ready only if it can import what the
configuration asks for.

## Main definitions

* `Captured.failureMessage`, `Captured.toResult` : what a run of the interpreter means.
* `Source` : where the interpreter comes from.
* `load`, `run` : making the interpreter ready, and running submissions.
* `backend` : the backend for Python.
-/

namespace Sandbox.Python

/-! ### Results -/

namespace Captured

/-- The line that reports success. -/
def successLine : String := "✅ Python tests passed!"

/-- The wording for a failed assertion. -/
def assertionMessage : String := "Test Assertion Failed."

/-- The name that the interpreter gives to failed assertions. -/
def assertionName : String := "AssertionError"

/-- Whether the interpreter exited with zero. -/
def succeeded (run : Captured) : Bool :=
  match run.ended with
  | .ok code => code == 0
  | .error _ => false

/-- What went wrong: a failed assertion, or the last line of the error stream that is not blank, or
how the interpreter ended. -/
def failureMessage (run : Captured) : String :=
  if Text.contains run.stderr assertionName then assertionMessage
  else
    match ((Text.lines run.stderr).map Text.trim).reverse.find? fun line => !line.isEmpty with
    | some line => line
    | none =>
      match run.ended with
      | .ok code => "Python exited with code " ++ toString code
      | .error message => message

/-- The result of a run. A run that passed shows its warnings too. -/
def toResult (run : Captured) : RunResult :=
  if run.succeeded then
    .passed (Text.lines run.stdout ++
      (Text.lines run.stderr).filter (fun line => !Text.allBlank line) ++ [successLine])
  else (RunError.trap run.failureMessage).toResult (Text.lines run.stdout)

end Captured

/-! ### The backend -/

/-- Where the interpreter of a world `W` comes from, and what it needs. -/
structure Source (W : Type) where
  /-- Where the interpreter is kept. -/
  slot : Slot W Guest.Module
  /-- Fetches the interpreter. -/
  fetch : StateM W (Except LoadError Files.Content)
  /-- What has to be importable. -/
  preload : List String
  /-- The directory that is exposed to the interpreter, if there is one. -/
  libraryDirectory : Option String
  /-- Why a directory cannot be exposed, if it cannot. -/
  exposure : W → String → Except FileError Unit

variable {W : Type} [Logging W]

/-- The part of the sandbox that speaks in this module. -/
def target : String := "polyrun_runtime::python"

/-- The program that imports modules. -/
def probeProgram (modules : List String) : String :=
  "import " ++ ", ".intercalate modules

/-- Runs a program in a world. The directory with the library is exposed anew each time. -/
def interpret (source : Source W) (m : Guest.Module) (program : String) : StateM W Captured := do
  match source.libraryDirectory with
  | none => return start m program
  | some directory =>
    match source.exposure (← get) directory with
    | .ok _ => return start m program
    | .error e =>
      return ⟨"", "",
        .error ("Failed to expose " ++ Text.quotedPath directory ++ ": " ++ e.message)⟩

/-- Fetches the interpreter and tests it. -/
def prepare (source : Source W) : StateM W (Except LoadError Guest.Module) := do
  match ← source.fetch with
  | .error e => return .error e
  | .ok content =>
    match content.guestModule? with
    | .error message => return .error (.invalidModule message)
    | .ok m =>
      if source.preload.isEmpty then return .ok m
      let program := probeProgram source.preload
      say .debug target ("Probing interpreter: " ++ program)
      let captured ← interpret source m program
      if captured.succeeded then return .ok m
      return .error (.probe captured.failureMessage)

/-- The interpreter, which is made ready if it is not. -/
def obtain (source : Source W) : StateM W (Except LoadError Guest.Module) :=
  source.slot.obtain do
    say .info target "Loading Python interpreter"
    let outcome ← prepare source
    if let .error e := outcome then
      say .error target ("Failed to load Python interpreter: " ++ e.message)
    return outcome

/-- Makes the interpreter ready, unless it is. -/
def load (source : Source W) : StateM W (Except LoadError Unit) := do
  return (← obtain source).map fun _ => ()

/-- Runs a submission; the interpreter is made ready if it is not. -/
def run (source : Source W) (submission : Submission) : StateM W RunResult := do
  match ← obtain source with
  | .error e => return (RunError.notLoaded e.message).toResult []
  | .ok m =>
    let captured ← interpret source m submission.script
    if !captured.succeeded then say .debug target ("Python run failed: " ++ captured.failureMessage)
    return captured.toResult

/-- The backend for Python. -/
def backend (source : Source W) : Backend W where
  language := "python"
  kind := .interpreted
  isLoaded := source.slot.isFilled
  load := load source
  run := run source

end Sandbox.Python
