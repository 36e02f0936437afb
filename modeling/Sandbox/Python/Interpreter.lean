import Sandbox.Console.Stream
import Sandbox.Guest.Run
import Sandbox.Text.Utf8

/-!
# Running the interpreter

The interpreter is a guest that gets a larger system interface than compiled programs: it has
arguments, and its two output streams go into pipes of a fixed capacity. A range outside memory, or
a number at an address that is no multiple of its size, stops it.

## Main definitions

* `Process` : the state of the host of an interpreter.
* `Process.host` : the answers to its calls.
* `Ended` : how the interpreter ended.
* `start` : the run of an interpreter with a program.
-/

namespace Sandbox.Python

open Guest (Args Import Instance Memory Module Signature Stop ValueType)

/-- How many bytes a pipe takes. What comes after them is lost. -/
def pipeCapacity : Nat := 1024 * 1024

/-- The state of the host of an interpreter. -/
structure Process where
  /-- The arguments, each with a zero byte at its end. -/
  arguments : List (List UInt8)
  /-- Whether the interpreter shows its memory to the host. -/
  showsMemory : Bool
  /-- The bytes in the pipe of standard output. -/
  stdout : Array UInt8
  /-- The bytes in the pipe of standard error. -/
  stderr : Array UInt8

namespace Process

/-- A pipe after a write. -/
def fill (pipe : Array UInt8) (bytes : List UInt8) : Array UInt8 :=
  pipe ++ bytes.take (pipeCapacity - pipe.size)

/-- The state after a write to a stream. -/
def write (p : Process) (stream : Stream) (bytes : List UInt8) : Process :=
  match stream with
  | .stdout => { p with stdout := fill p.stdout bytes }
  | .stderr => { p with stderr := fill p.stderr bytes }

/-- The state and the memory while a call is answered. -/
abbrev Answering : Type → Type := StateT (Instance Process) (Except Stop)

/-- Stops the interpreter. -/
def fail {α : Type} : Answering α :=
  throw (.trap .outOfBounds)

/-- The number at an address. -/
def loadWord (address : Nat) : Answering Nat := do
  if address % 4 ≠ 0 then fail
  match (← get).memory.readU32 address with
  | .ok w => return w.toNat
  | .error _ => fail

/-- The bytes of a range. -/
def loadBytes (address count : Nat) : Answering (List UInt8) := do
  match (← get).memory.slice address count with
  | .ok bytes => return bytes
  | .error _ => fail

/-- Stores bytes. -/
def storeBytes (address : Nat) (bytes : List UInt8) : Answering Unit := do
  match (← get).memory.writeBytes address bytes with
  | .ok memory => modify fun s => { s with memory := memory }
  | .error _ => fail

/-- Stores a number. -/
def storeWord (address n : Nat) : Answering Unit := do
  if address % 4 ≠ 0 then fail
  storeBytes address (Memory.toBytes 4 n)

/-- The bytes of the first record that is not empty. -/
def firstRecord (address : Nat) : (count : Nat) → Answering (List UInt8)
  | 0 => return []
  | count + 1 => do
    let start ← loadWord address
    let length ← loadWord (address + 4)
    if length = 0 then firstRecord (address + 8) count else loadBytes start length

/-- Stores the arguments one after another, and their addresses in a table. -/
def storeArguments (table address : Nat) : List (List UInt8) → Answering Unit
  | [] => return ()
  | argument :: arguments => do
    storeBytes address argument
    storeWord table address
    storeArguments (table + 4) (address + argument.length) arguments

/-- The number that a call answers with when it has nothing to do. -/
def badDescriptor : UInt32 := 8

/-- The answer to a call. -/
def answer (name : String) (args : Args) : Answering UInt32 := do
  let arg := fun place => (Args.word args place).toNat
  let process := (← get).host
  match name with
  | "fd_write" =>
    let bytes ← firstRecord (arg 1) (arg 2)
    match Stream.ofDescriptor? (Guest.signed (Args.word args 0)) with
    | none => return badDescriptor
    | some stream =>
      modify fun s => { s with host := s.host.write stream bytes }
      storeWord (arg 3) bytes.length
      return 0
  | "args_sizes_get" =>
    storeWord (arg 0) process.arguments.length
    storeWord (arg 1) process.arguments.flatten.length
    return 0
  | "args_get" =>
    storeArguments (arg 0) (arg 1) process.arguments
    return 0
  | "environ_sizes_get" =>
    storeWord (arg 0) 0
    storeWord (arg 1) 0
    return 0
  | "environ_get" | "sched_yield" | "clock_time_get" | "clock_res_get" | "random_get" => return 0
  | _ => return badDescriptor

/-- The host of an interpreter. Any call but the one that exits needs the memory. -/
def host : Guest.Host Process where
  call name args s :=
    if name == "proc_exit" then (.error (.exit (Guest.signed (Args.word args 0))), s)
    else if !s.host.showsMemory then (.error (.trap .outOfBounds), s)
    else
      match (answer name args).run s with
      | .ok (w, s) => (.ok w, s)
      | .error cause => (.error cause, s)

end Process

/-! ### The calls that an interpreter may import -/

/-- The type of a call that is served to interpreters. -/
def servedSignature? (name : String) : Option Signature :=
  let words (n : Nat) : Signature := .call (List.replicate n .i32)
  match name with
  | "fd_advise" => some (.call [.i32, .i64, .i64, .i32])
  | "fd_allocate" => some (.call [.i32, .i64, .i64])
  | "fd_fdstat_set_rights" => some (.call [.i32, .i64, .i64])
  | "fd_filestat_set_size" => some (.call [.i32, .i64])
  | "fd_filestat_set_times" => some (.call [.i32, .i64, .i64, .i32])
  | "fd_pread" | "fd_pwrite" => some (.call [.i32, .i32, .i32, .i64, .i32])
  | "path_filestat_get" | "sock_send" => some (words 5)
  | "path_filestat_set_times" => some (.call [.i32, .i32, .i32, .i32, .i64, .i64, .i32])
  | "path_link" => some (words 7)
  | "path_readlink" | "path_rename" | "sock_recv" => some (words 6)
  | "path_remove_directory" | "path_unlink_file" | "sock_accept" => some (words 3)
  | "path_symlink" => some (words 5)
  | "sock_shutdown" => some (words 2)
  | _ => Guest.knownSignature? name

/-- What an import of an interpreter has to be, if it is served. -/
def served? (i : Import) : Option Signature :=
  if i.origin == Guest.systemModule then servedSignature? i.name else none

/-! ### Runs -/

/-- How an interpreter ended: with an exit code, or stopped for the reason that a message gives. -/
abbrev Ended : Type := Except String Int

/-- What a run of the interpreter leaves behind. -/
structure Captured where
  /-- The text written to standard output. -/
  stdout : String
  /-- The text written to standard error. -/
  stderr : String
  /-- How it ended. -/
  ended : Ended
  deriving Repr

/-- The wording for an interpreter that was stopped. -/
def stoppedMessage : String := "error while executing at wasm backtrace:"

/-- Exit codes from here on stop an interpreter like a trap. -/
def exitBound : Nat := 126

/-- How the entry point ended. -/
def Ended.ofEnding : Guest.Ending → Ended
  | .completed | .left => .ok 0
  | .stopped (.exit code) =>
    if 0 ≤ code ∧ code < exitBound then .ok code else .error stoppedMessage
  | .stopped _ => .error stoppedMessage

/-- Why an interpreter cannot be linked: an import that is unknown, or one that has another type. -/
def linkFault? (imports : List Import) : Option String :=
  match imports.find? fun i => (served? i).isNone with
  | some i => some ("unknown import: `" ++ i.origin ++ "::" ++ i.name ++ "` has not been defined")
  | none =>
    (imports.find? fun i =>
      match served? i with
      | some signature => !decide (i.kind = .function signature)
      | none => false).map fun i =>
        "incompatible import type for `" ++ i.origin ++ "::" ++ i.name ++ "`"

/-- The entry point, or why it cannot be used. -/
def entryPoint (m : Module) : Except String (List Guest.Instr) :=
  let fault (cause : String) := "Interpreter has no _start entry point: " ++ cause
  let absent := fault "failed to find function export `_start`"
  match m.entry with
  | some (name, .function signature body) =>
    if name != Guest.entryName then .error absent
    else if signature = ⟨[], []⟩ then .ok body
    else .error (fault "failed to convert function `_start` to given type")
  | _ => .error absent

/-- The arguments with which the interpreter runs a program. -/
def argumentsFor (program : String) : List (List UInt8) :=
  ["python", "-c", program].map fun argument => Text.Utf8.encode argument ++ [0]

/-- Runs a program on an interpreter whose imports are linked. -/
def runLinked (m : Module) (process : Process) : Ended × Process :=
  match Guest.instantiate Process.host process m with
  | (.stopped _, s) => (.error ("Failed to instantiate interpreter: " ++ stoppedMessage), s.host)
  | (_, s) =>
    match entryPoint m with
    | .error message => (.error message, s.host)
    | .ok body =>
      let (ending, s) := Guest.execute Process.host body s
      (.ofEnding ending, s.host)

/-- Runs a program on an interpreter. -/
def start (m : Module) (program : String) : Captured :=
  match linkFault? m.imports with
  | some fault => ⟨"", "", .error ("Failed to instantiate interpreter: " ++ fault)⟩
  | none =>
    let (ended, process) := runLinked m ⟨argumentsFor program, m.exportsMemory, #[], #[]⟩
    ⟨Text.Utf8.decodeLossy process.stdout.toList,
      Text.Utf8.decodeLossy process.stderr.toList, ended⟩

end Sandbox.Python
