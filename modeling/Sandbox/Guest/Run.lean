import Sandbox.Guest.Linking
import Sandbox.Log
import Sandbox.Text.Quoted

/-!
# Running guests

A guest is linked and instantiated, its memory is made known to the host, and its entry point is
run. However the run ends, what was written until then is kept.

## Main definitions

* `Status` : how a run ended.
* `Outcome` : the status, and the chunks that were written.
* `start` : the run of a module.
-/

namespace Sandbox.Guest

/-- How a run ended. -/
inductive Status where
  /-- The entry point returned. -/
  | returned
  /-- The guest exited with a code. -/
  | exited (code : Int)
  /-- The guest trapped, could not be instantiated, or has no entry point. -/
  | trapped (message : String)
  /-- The host could not serve the guest. -/
  | defect (cause : Defect)
  deriving DecidableEq, Repr

namespace Status

/-- The exit code of a guest that ended by itself. -/
def exitCode? : Status → Option Int
  | returned => some 0
  | exited code => some code
  | trapped _ => none
  | defect _ => none

/-- Whether the guest ended by itself and gave the exit code zero. -/
def isSuccess (status : Status) : Bool :=
  status.exitCode? == some 0

end Status

/-- The result of a run. -/
structure Outcome where
  /-- How it ended. -/
  status : Status
  /-- What was written, in order. -/
  chunks : List Chunk
  /-- What there is to log. -/
  log : Log

/-- Why a guest without the right entry point is stopped. -/
def noEntryPoint : String := "guest module does not export `_start`"

/-- Why a guest that asks for a served call at another type is stopped. -/
def mismatchMessage (name : String) : String :=
  "incompatible import type for `" ++ systemModule ++ "::" ++ name ++ "`"

/-- The status of a guest that was stopped. An exit counts with the code recorded first. -/
def Status.ofStop (recorded : Option Int) : Stop → Status
  | .exit code => .exited (recorded.getD code)
  | .trap cause => .trapped cause.message
  | .defect cause => .defect cause

/-- The status after an ending of the entry point. -/
def Status.ofEnding (recorded : Option Int) : Ending → Status
  | .completed | .left => .returned
  | .stopped cause => .ofStop recorded cause

/-- The memory of a module before data is placed. -/
def Module.freshMemory (m : Module) : Memory :=
  match m.memory with
  | some (pages, _) => .zeros (pages * Memory.pageSize)
  | none => .zeros 0

/-- Whether a module exports its memory under the name that the host looks up. -/
def Module.exportsMemory (m : Module) : Bool :=
  match m.memory with
  | some (_, name) => name == memoryName
  | none => false

/-- Instantiates a linked module: places its data and runs its start function. -/
def instantiate {σ : Type} (host : Host σ) (state : σ) (m : Module) : Ending × Instance σ :=
  match placeData m.freshMemory m.data with
  | .error cause => (.stopped cause, ⟨m.freshMemory, state⟩)
  | .ok memory => execute host (m.start.getD []) ⟨memory, state⟩

/-- Binds the memory of a module that exports it under the right name. -/
def bind (m : Module) (s : Instance Console) : Instance Console :=
  { s with host := { s.host with bound := m.exportsMemory } }

/-- Runs a module whose imports are linked. -/
def runLinked (m : Module) : Status × Console :=
  match mismatch? m.imports with
  | some name => (.trapped (mismatchMessage name), .start)
  | none =>
    match instantiate Console.host .start m with
    | (.stopped cause, s) => (.ofStop s.host.exitCode cause, s.host)
    | (_, s) =>
      let s := bind m s
      match m.entryPoint? with
      | none => (.trapped noEntryPoint, s.host)
      | some body =>
        let (ending, s) := execute Console.host body s
        (.ofEnding s.host.exitCode ending, s.host)

/-! ### What is logged -/

/-- The parts of the sandbox that speak in this module. -/
def shimTarget : String := "polyrun_wasi::shim"

@[inherit_doc shimTarget]
def guestTarget : String := "polyrun_wasi::guest"

/-- A status as it is logged. -/
def Status.describe : Status → String
  | returned => "Returned"
  | exited code => "Exited(" ++ toString code ++ ")"
  | trapped message => "Trapped(" ++ Text.quoted message ++ ")"
  | defect (.gap syscall) => "Defect(Gap \x7b syscall: " ++ Text.quoted syscall ++ " \x7d)"
  | defect (.memoryUnbound syscall) =>
    "Defect(MemoryUnbound \x7b syscall: " ++ Text.quoted syscall ++ " \x7d)"
  | defect (.link fault) => "Defect(Link(" ++ Text.quoted fault.message ++ "))"

/-- The events of linking. -/
def linkLog (policy : ImportPolicy) (m : Module) : Log :=
  (stubbed policy m.imports).map fun name =>
    ⟨.debug, shimTarget, "Stubbing unimplemented syscall " ++ name⟩

/-- The events of a run that was linked. -/
def runLog (status : Status) (console : Console) : Log :=
  (console.missed.toList.map fun name =>
    ⟨.error, shimTarget, "Guest called unimplemented syscall " ++ name⟩) ++
  (match console.exitCode with
    | some code => [⟨.debug, shimTarget, "Guest called proc_exit(" ++ toString code ++ ")"⟩]
    | none => []) ++
  [⟨.debug, guestTarget, "Guest finished: " ++ status.describe⟩]

/-! ### The run -/

/-- Links a module, instantiates it, makes its memory known and runs its entry point. -/
def start (policy : ImportPolicy) (m : Module) : Outcome :=
  match link policy m.imports with
  | .error cause => ⟨.defect cause, [], linkLog policy m⟩
  | .ok _ =>
    let (status, console) := runLinked m
    ⟨status, console.written.toList, linkLog policy m ++ runLog status console⟩

end Sandbox.Guest
