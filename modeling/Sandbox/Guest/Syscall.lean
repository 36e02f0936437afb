import Sandbox.Console.Stream
import Sandbox.Guest.Machine

/-!
# System calls

A guest needs little more than the console: the calls that a program makes while it starts up are
answered as by a system without files, arguments, environment and time, and only writing to the
console has an effect outside the guest.

## Main definitions

* `Syscall` : the calls that are served.
* `Console` : the state of the host: whether it knows the guest's memory, what was written, and the
  exit code.
* `Syscall.invoke` : the answer to a call.
* `writeRecords` : the writing of a list of records to the console.
-/

namespace Sandbox.Guest

/-- The system calls that are served. -/
inductive Syscall where
  /-- Writes records to the console. -/
  | fdWrite
  /-- Asks what a descriptor stands for. -/
  | fdFdstatGet
  /-- Asks for an opened directory. -/
  | fdPrestatGet
  /-- Asks for the name of an opened directory. -/
  | fdPrestatDirName
  /-- Ends the guest. -/
  | procExit
  /-- Asks for the size of the environment. -/
  | environSizesGet
  /-- Asks for the environment. -/
  | environGet
  /-- Asks for the size of the arguments. -/
  | argsSizesGet
  /-- Asks for the arguments. -/
  | argsGet
  /-- Asks for the time. -/
  | clockTimeGet
  /-- Moves to a position. -/
  | fdSeek
  /-- Reads from a descriptor. -/
  | fdRead
  /-- Closes a descriptor. -/
  | fdClose
  deriving DecidableEq, Repr

namespace Syscall

/-- All calls that are served. -/
def all : List Syscall :=
  [fdWrite, fdFdstatGet, fdPrestatGet, fdPrestatDirName, procExit, environSizesGet, environGet,
    argsSizesGet, argsGet, clockTimeGet, fdSeek, fdRead, fdClose]

/-- The name under which a call is imported. -/
def name : Syscall → String
  | fdWrite => "fd_write"
  | fdFdstatGet => "fd_fdstat_get"
  | fdPrestatGet => "fd_prestat_get"
  | fdPrestatDirName => "fd_prestat_dir_name"
  | procExit => "proc_exit"
  | environSizesGet => "environ_sizes_get"
  | environGet => "environ_get"
  | argsSizesGet => "args_sizes_get"
  | argsGet => "args_get"
  | clockTimeGet => "clock_time_get"
  | fdSeek => "fd_seek"
  | fdRead => "fd_read"
  | fdClose => "fd_close"

/-- The call imported under a name. -/
def ofName? (name : String) : Option Syscall :=
  all.find? fun call => call.name == name

/-- The type under which a call is linked. -/
def signature : Syscall → Signature
  | fdWrite | fdRead => .call [.i32, .i32, .i32, .i32]
  | fdFdstatGet | fdPrestatGet | environSizesGet | environGet | argsSizesGet | argsGet =>
    .call [.i32, .i32]
  | fdPrestatDirName => .call [.i32, .i32, .i32]
  | procExit => ⟨[.i32], []⟩
  | clockTimeGet => .call [.i32, .i64, .i32]
  | fdSeek => .call [.i32, .i64, .i32, .i32]
  | fdClose => .call [.i32]

/-- Whether a call uses the guest's memory, so that the host has to know it first. -/
def needsMemory : Syscall → Bool
  | fdWrite | fdFdstatGet | environSizesGet | argsSizesGet | clockTimeGet | fdRead => true
  | _ => false

end Syscall

/-- The state of the host of one guest. -/
structure Console where
  /-- Whether the guest's memory is known. -/
  bound : Bool
  /-- The chunks written so far. -/
  written : Array Chunk
  /-- The first exit code that the guest gave. -/
  exitCode : Option Int
  /-- The names of calls that were made although they are not served. -/
  missed : Array String

/-- The state before a guest runs. -/
def Console.start : Console :=
  ⟨false, #[], none, #[]⟩

/-- What a call that returns answers, with the memory and the console after it. -/
structure Answer where
  /-- The error number. -/
  errno : Errno
  /-- The memory. -/
  memory : Memory
  /-- The chunks written by the call, in order. -/
  chunks : List Chunk

/-! ### Writing -/

/-- Forwards the bytes of `count` records from `address` on, each an address and a length. Addresses
of records are numbers of 32 bits. A record that cannot be read, or whose bytes are not inside
memory, ends the writing. The answer is the chunks forwarded and, if all were, the number of bytes
modulo `2 ^ 32`. -/
def writeRecords (memory : Memory) (stream : Stream) :
    (count : Nat) → (address : UInt32) → (total : UInt32) → (done : List Chunk) →
      List Chunk × Except Errno UInt32
  | 0, _, total, done => (done.reverse, .ok total)
  | count + 1, address, total, done =>
    let record : Except Errno (UInt32 × List UInt8) := do
      let start ← memory.readU32 address.toNat
      let length ← memory.readU32 (address + 4).toNat
      let bytes ← memory.slice start.toNat length.toNat
      return (length, bytes)
    match record with
    | .error errno => (done.reverse, .error errno)
    | .ok (length, bytes) =>
      writeRecords memory stream count (address + 8) (total + length) (⟨stream, bytes⟩ :: done)

/-- Writes records to the stream behind `fd` and stores the number of bytes at `countAt`. -/
def fdWrite (memory : Memory) (fd records recordCount countAt : UInt32) : Answer :=
  match Stream.ofDescriptor? (signed fd) with
  | none => ⟨.badDescriptor, memory, []⟩
  | some stream =>
    match writeRecords memory stream recordCount.toNat records 0 [] with
    | (chunks, .error errno) => ⟨errno, memory, chunks⟩
    | (chunks, .ok total) =>
      match memory.writeU32 countAt.toNat total with
      | .ok memory => ⟨.success, memory, chunks⟩
      | .error errno => ⟨errno, memory, chunks⟩

/-! ### The other calls -/

/-- The answer of a call that stores something. -/
def storing (memory : Memory) (stored : Except Errno Memory) : Answer :=
  match stored with
  | .ok memory => ⟨.success, memory, []⟩
  | .error errno => ⟨errno, memory, []⟩

/-- The answer of a call that does nothing. -/
def answering (memory : Memory) (errno : Errno) : Answer :=
  ⟨errno, memory, []⟩

/-- The size of the description of a descriptor. -/
def descriptionSize : Nat := 24

/-- There are no strings: their count and the size of their text are zero. A count that was stored
stays even if the size cannot be. -/
def noStrings (memory : Memory) (countAt sizeAt : UInt32) : Answer :=
  match memory.writeU32 countAt.toNat 0 with
  | .error errno => answering memory errno
  | .ok memory => storing memory (memory.writeU32 sizeAt.toNat 0)

/-- The argument at a place, as a number of 32 bits. -/
def Args.word (args : Args) (place : Nat) : UInt32 :=
  (args.getD place 0).toUInt32

/-- The answer to a call other than the one that exits. -/
def Syscall.answer (call : Syscall) (args : Args) (memory : Memory) : Answer :=
  let arg := Args.word args
  match call with
  | fdWrite => Guest.fdWrite memory (arg 0) (arg 1) (arg 2) (arg 3)
  | fdFdstatGet =>
    storing memory (memory.writeBytes (arg 1).toNat (List.replicate descriptionSize 0))
  | fdPrestatGet | fdPrestatDirName => answering memory .badDescriptor
  | environSizesGet | argsSizesGet => noStrings memory (arg 0) (arg 1)
  | clockTimeGet => storing memory (memory.writeU64 (arg 2).toNat 0)
  | fdSeek => answering memory .noSeek
  | fdRead => storing memory (memory.writeU32 (arg 3).toNat 0)
  | procExit | environGet | argsGet | fdClose => answering memory .success

/-- Serves a call. A call that needs the memory is a defect while the memory is unknown, whatever
its arguments. Exiting records the first code and stops the guest. -/
def Syscall.invoke (call : Syscall) (args : Args) (s : Instance Console) :
    Except Stop UInt32 × Instance Console :=
  if call = procExit then
    let code := signed (Args.word args 0)
    (.error (.exit code),
      { s with host := { s.host with exitCode := some (s.host.exitCode.getD code) } })
  else if call.needsMemory && !s.host.bound then
    (.error (.defect (.memoryUnbound call.name)), s)
  else
    let answer := call.answer args s.memory
    (.ok (UInt32.ofNat answer.errno.code),
      { memory := answer.memory
        host := { s.host with written := s.host.written ++ answer.chunks } })

/-- The host of a linked guest. A call that is not served stops the guest. -/
def Console.host : Host Console where
  call name args s :=
    match Syscall.ofName? name with
    | some call => call.invoke args s
    | none =>
      (.error (.defect (.gap name)),
        { s with host := { s.host with missed := s.host.missed.push name } })

end Sandbox.Guest
