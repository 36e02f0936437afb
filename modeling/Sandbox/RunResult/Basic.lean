import Sandbox.Text.Search

/-!
# Results of runs

Every run of a submission is reported by one value: whether it passed, the lines of output, and,
if it failed, what went wrong.

## Main definitions

* `FailureKind` : the classes of failures.
* `RunResult` : the outcome of a run.
* `RunResult.passed`, `RunResult.failed` : the results that runs produce.
* `RunResult.statusLine` : the summary shown after the output.
-/

namespace Sandbox

/-- Classes of failures, which tell a mistake in the submission (`compile`, `runtime`) from missing
infrastructure (`load`) and from limits of the sandbox (`shimGap`). -/
inductive FailureKind where
  /-- The backend was not available. -/
  | load
  /-- The source gave no executable module. -/
  | compile
  /-- The program raised an error, trapped or exited with another code than zero. -/
  | runtime
  /-- The program called a system call that the sandbox does not serve. -/
  | shimGap
  deriving DecidableEq, Repr

/-- The name of a class, as shown and as stored. -/
def FailureKind.name : FailureKind → String
  | load => "load"
  | compile => "compile"
  | runtime => "runtime"
  | shimGap => "shim-gap"

/-- All classes, in the order in which messages list them. -/
def FailureKind.all : List FailureKind :=
  [load, compile, runtime, shimGap]

/-- The class with a given name. -/
def FailureKind.ofName? (name : String) : Option FailureKind :=
  FailureKind.all.find? fun kind => kind.name == name

/-- The result of running one submission. -/
structure RunResult where
  /-- Whether the program and its validation passed. -/
  success : Bool
  /-- The lines of output in the order in which they were emitted. -/
  output : List String
  /-- What went wrong, for people. -/
  error : Option String
  /-- The class of the failure. -/
  failure : Option FailureKind
  deriving DecidableEq, Repr

namespace RunResult

/-- A run that passed. -/
def passed (output : List String) : RunResult :=
  ⟨true, output, none, none⟩

/-- A run that failed, with the output captured before the failure. -/
def failed (output : List String) (error : String) (failure : FailureKind) : RunResult :=
  ⟨false, output, some error, some failure⟩

/-- Whether some line of output contains `needle`. -/
def outputContains (result : RunResult) (needle : String) : Bool :=
  result.output.any fun line => Text.contains line needle

/-- The summary shown after the output. -/
def statusLine (result : RunResult) : String :=
  match result.error, result.failure with
  | none, _ => "✓ Passed"
  | some error, some kind => "✗ Failed (" ++ kind.name ++ "): " ++ error
  | some error, none => "✗ Failed: " ++ error

end RunResult

end Sandbox
