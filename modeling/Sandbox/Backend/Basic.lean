import Sandbox.LoadError
import Sandbox.Log
import Sandbox.RunResult.Error
import Sandbox.Submission.Basic

/-!
# Backends

A backend runs submissions in one language. It is made ready once; what it needs for that is kept
in the world in which it works, which also holds the files, the servers and the log.

## Main definitions

* `BackendKind` : the families of backends.
* `Backend` : a backend that works in a world.
* `Logging` : worlds that keep a log.
-/

namespace Sandbox

/-- The families of backends. -/
inductive BackendKind where
  /-- Source that is evaluated as it is. -/
  | dynamic
  /-- Source that is compiled to a guest. -/
  | compiled
  /-- Source that is run by an interpreter, which is a guest. -/
  | interpreted
  deriving DecidableEq, Repr

/-- The name of a family. -/
def BackendKind.name : BackendKind → String
  | dynamic => "dynamic"
  | compiled => "compiled"
  | interpreted => "interpreted"

/-- Worlds that keep a log. -/
class Logging (W : Type) where
  /-- The world with more events at the end of its log. -/
  add : Log → W → W

/-- Logs events. -/
def record {W : Type} [Logging W] (events : Log) : StateM W Unit :=
  modify (Logging.add events)

/-- Logs one event. -/
def say {W : Type} [Logging W] (level : Log.Level) (target message : String) : StateM W Unit :=
  record [⟨level, target, message⟩]

/-- A backend for one language. -/
structure Backend (W : Type) where
  /-- The name of the language. -/
  language : String
  /-- The family. -/
  kind : BackendKind
  /-- Whether it has been made ready. -/
  isLoaded : W → Bool
  /-- Makes it ready, unless it is. A failure leaves it as it was. -/
  load : StateM W (Except LoadError Unit)
  /-- Runs a submission. -/
  run : Submission → StateM W RunResult

end Sandbox
