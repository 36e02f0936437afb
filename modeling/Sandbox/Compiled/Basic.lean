import Sandbox.Backend.Basic
import Sandbox.Backend.Slot
import Sandbox.Compiled.Dialect
import Sandbox.Console.Transcript
import Sandbox.Files.Content
import Sandbox.Guest.Run
import Sandbox.Text.Blank

/-!
# Compiled languages

A submission in C or C++ is compiled to a guest, which is run at once. The report has the
diagnostics of the compiler, the lines that the guest writes, and how it failed. Both languages
share one compiler, which is provided when it is first needed.

## Main definitions

* `Compilation` : what the compiler answers.
* `Toolchain` : a compiler in a world, and how it is provided.
* `report` : the result of running the answer of the compiler.
* `run` : the result of a submission.
* `backend` : the backend for a dialect.
-/

namespace Sandbox.Compiled

/-- What is asked of the compiler. -/
structure Request where
  /-- The program. -/
  source : String
  /-- Its language. -/
  dialect : Dialect
  deriving DecidableEq, Repr

/-- What the compiler answers. -/
structure Compilation where
  /-- The module, if there is one. -/
  made : Option Files.Content
  /-- What the compiler says. -/
  diagnostics : String

/-- A compiler in a world `W`. Once provided it is known by a value of type `κ`. -/
structure Toolchain (W κ : Type) where
  /-- Where the compiler is kept. -/
  slot : Slot W κ
  /-- Provides the compiler. -/
  provide : StateM W (Except LoadError κ)
  /-- Compiles a program. -/
  compile : κ → Request → StateM W (Except RunError Compilation)

/-! ### Reports -/

/-- The line that reports a failure of the guest. -/
def runtimeErrorLine (message : String) : String :=
  "⚠️ Runtime Error: " ++ message

/-- The line before the diagnostics of a failed compilation. -/
def compilationErrorHeader : String := "--- Compilation Error ---"

/-- The line before the diagnostics of a successful compilation. -/
def compilationLogHeader : String := "--- Compilation Log ---"

/-- The line before the output of the guest. -/
def executionHeader : String := "--- Execution ---"

/-- The lines before the output of the guest. -/
def preamble (diagnostics : String) : List String :=
  (if diagnostics.isEmpty then [] else [compilationLogHeader, diagnostics]) ++ [executionHeader]

/-- The part of the sandbox that speaks in this module. -/
def target : String := "polyrun_runtime::compiled"

/-- The result for a status of the guest, after the given lines. -/
def resultOf (lines : List String) : Guest.Status → RunResult
  | .returned => .passed lines
  | .exited code =>
    if code = 0 then .passed lines else (RunError.nonZeroExit code).toResult lines
  | .trapped message => (RunError.trap message).toResult (lines ++ [runtimeErrorLine message])
  | .defect cause =>
    (RunError.shimGap cause.message).toResult (lines ++ [runtimeErrorLine cause.message])

/-- What there is to log about a status of the guest. -/
def statusLog (dialect : Dialect) : Guest.Status → Log
  | .trapped message => [⟨.debug, target, dialect.language ++ " guest trapped: " ++ message⟩]
  | .defect cause =>
    [⟨.error, target, dialect.language ++ " guest hit a shim defect: " ++ cause.message⟩]
  | _ => []

/-- The run of a module whose lines follow the given ones: the lines, the status and the log. -/
def execute (policy : Guest.ImportPolicy) (lines : List String) (made : Files.Content) :
    List String × Guest.Status × Log :=
  match made.guestModule? with
  | .error message => (lines, .trapped ("Invalid module: " ++ message), [])
  | .ok m =>
    let outcome := Guest.start policy m
    (((Transcript.ofLines lines).writeAll outcome.chunks).finish, outcome.status, outcome.log)

/-- The result for an answer of the compiler, and the log. -/
def report (policy : Guest.ImportPolicy) (dialect : Dialect) :
    Except RunError Compilation → RunResult × Log
  | .error e => (e.toResult [runtimeErrorLine e.message], [])
  | .ok ⟨made, diagnostics⟩ =>
    let diagnostics := Text.trimEnd diagnostics
    match made with
    | none =>
      ((RunError.compile diagnostics).toResult [compilationErrorHeader, diagnostics], [])
    | some made =>
      let (lines, status, log) := execute policy (preamble diagnostics) made
      (resultOf lines status, log ++ statusLog dialect status)

/-! ### The backend -/

variable {W κ : Type} [Logging W]

/-- Makes the compiler ready, unless it is. -/
def load (toolchain : Toolchain W κ) : StateM W (Except LoadError Unit) := do
  let outcome ← toolchain.slot.obtain do
    say .info target "Loading C/C++ compiler"
    let outcome ← toolchain.provide
    if let .error e := outcome then
      say .error target ("Failed to load C/C++ compiler: " ++ e.message)
    return outcome
  return outcome.map fun _ => ()

/-- Compiles and runs a submission. If the compiler is not ready, nothing is compiled. -/
def run (toolchain : Toolchain W κ) (policy : Guest.ImportPolicy) (dialect : Dialect)
    (submission : Submission) : StateM W RunResult := do
  match toolchain.slot.kept (← get) with
  | none => return (RunError.notLoaded "Compiler not loaded").toResult []
  | some compiler =>
    let answer ← toolchain.compile compiler ⟨submission.translationUnit, dialect⟩
    let (result, log) := report policy dialect answer
    record log
    return result

/-- The backend for a dialect. -/
def backend (toolchain : Toolchain W κ) (policy : Guest.ImportPolicy) (dialect : Dialect) :
    Backend W where
  language := dialect.language
  kind := .compiled
  isLoaded := toolchain.slot.isFilled
  load := load toolchain
  run := run toolchain policy dialect

end Sandbox.Compiled
