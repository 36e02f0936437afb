import Sandbox.RunResult.Basic

/-!
# Failures of runs

Everything that can go wrong once a backend is asked to run a submission. Such an error never leaves
the backend; it becomes a failed result.

## Main definitions

* `RunError` : the causes.
* `RunError.message`, `RunError.kind` : the wording and the class of a cause.
* `RunError.toResult` : the failed result.
-/

namespace Sandbox

/-- Why a run failed. -/
inductive RunError where
  /-- The source was rejected by the compiler. -/
  | compile (diagnostics : String)
  /-- The program exited with a code other than zero. -/
  | nonZeroExit (code : Int)
  /-- The program trapped or threw. -/
  | trap (message : String)
  /-- The program hit a gap in the system calls that are served. -/
  | shimGap (message : String)
  /-- The backend was not ready. -/
  | notLoaded (message : String)
  deriving DecidableEq, Repr

namespace RunError

/-- The wording of a failure. -/
def message : RunError → String
  | compile _ => "Compilation failed"
  | nonZeroExit code => "Program exited with code " ++ toString code
  | trap message => message
  | shimGap message => message
  | notLoaded message => message

/-- The class of a failure. -/
def kind : RunError → FailureKind
  | compile _ => .compile
  | nonZeroExit _ => .runtime
  | trap _ => .runtime
  | shimGap _ => .shimGap
  | notLoaded _ => .load

/-- The failed result, with the output captured so far. -/
def toResult (error : RunError) (output : List String) : RunResult :=
  .failed output error.message error.kind

end RunError

end Sandbox
