import Sandbox.Backend.Basic
import Sandbox.Files.Access
import Sandbox.Http.Client

/-!
# The host

The machine on which the sandbox works: its files, the servers that it can ask, and the log. What
one process keeps for itself is not part of it.

## Main definitions

* `Host` : files, servers and log.
* `Host.look`, `Host.edit`, `Host.ask` : what a process does with them.
-/

namespace Sandbox

/-- The machine on which the sandbox works. -/
structure Host where
  /-- The files. -/
  files : Files.Tree
  /-- The servers, with what they were asked. -/
  traffic : Http.Traffic := .unreachable
  /-- What was logged. -/
  log : Log := []

namespace Host

instance : Logging Host :=
  ⟨fun events host => { host with log := host.log ++ events }⟩

/-- What is seen in the files. -/
def look {α : Type} (view : Files.Tree → α) : StateM Host α := do
  return view (← get).files

/-- Changes the files; a change that fails leaves them as they were. -/
def edit (change : Files.Tree → Except FileError Files.Tree) :
    StateM Host (Except FileError Unit) := do
  match change (← get).files with
  | .ok files =>
    modify fun host => { host with files := files }
    return .ok ()
  | .error e => return .error e

/-- Asks servers. -/
def ask {α : Type} (question : StateM Http.Traffic α) : StateM Host α := do
  let (answer, traffic) := question.run (← get).traffic
  modify fun host => { host with traffic := traffic }
  return answer

end Host

end Sandbox
