/-!
# Guest modules

A guest is a module: what it imports, the memory that it brings, the data placed there, and the
code of its start function and of its entry point.

## Main definitions

* `Import`, `Signature` : what a module asks for.
* `Instr`, `Operand` : the code of a guest.
* `Module` : a module.
* `knownSignature?` : the functions of the system interface.
-/

namespace Sandbox.Guest

/-- The types of values. -/
inductive ValueType where
  /-- 32 bit integers. -/
  | i32
  /-- 64 bit integers. -/
  | i64
  /-- 32 bit floating point numbers. -/
  | f32
  /-- 64 bit floating point numbers. -/
  | f64
  deriving DecidableEq, Repr

/-- The type of a function. -/
structure Signature where
  /-- The types of the parameters. -/
  params : List ValueType
  /-- The types of the results. -/
  results : List ValueType
  deriving DecidableEq, Repr

/-- The kind of a thing that is imported. -/
inductive ImportKind where
  /-- A function. -/
  | function (signature : Signature)
  /-- A global variable. -/
  | global
  /-- A memory. -/
  | memory
  /-- A table of functions. -/
  | table
  deriving DecidableEq, Repr

/-- Something that a module asks for. -/
structure Import where
  /-- The name of the module that has to provide it. -/
  origin : String
  /-- Its name in that module. -/
  name : String
  /-- What it has to be. -/
  kind : ImportKind
  deriving DecidableEq, Repr

/-- The module that provides the system interface. -/
def systemModule : String := "wasi_snapshot_preview1"

/-- The reasons for which code stops by itself. -/
inductive Trap where
  /-- An instruction that must not be reached. -/
  | unreachable
  /-- A division by zero. -/
  | divideByZero
  /-- A quotient that is too large. -/
  | overflow
  /-- A number that is no integer. -/
  | conversion
  /-- An access outside memory. -/
  | outOfBounds
  /-- Calls that are nested too deeply. -/
  | stackExhausted
  /-- A call through an empty table entry. -/
  | uninitializedElement
  /-- A call beyond the end of a table. -/
  | tableOutOfBounds
  /-- A call through a table at another type. -/
  | badSignature
  deriving DecidableEq, Repr

/-- The wording of a trap. -/
def Trap.message : Trap → String
  | unreachable => "wasm trap: wasm `unreachable` instruction executed"
  | divideByZero => "wasm trap: integer divide by zero"
  | overflow => "wasm trap: integer overflow"
  | conversion => "wasm trap: invalid conversion to integer"
  | outOfBounds => "wasm trap: out of bounds memory access"
  | stackExhausted => "wasm trap: call stack exhausted"
  | uninitializedElement => "wasm trap: uninitialized element"
  | tableOutOfBounds => "wasm trap: undefined element: out of bounds table access"
  | badSignature => "wasm trap: indirect call type mismatch"

/-- A value that an instruction uses. -/
inductive Operand where
  /-- A constant. -/
  | const (n : Int)
  /-- The number stored at an address, less a constant. -/
  | load (address : Nat) (less : Nat)
  deriving DecidableEq, Repr

/-- An instruction. -/
inductive Instr where
  /-- Stores a number of 32 bits. -/
  | store (address : Nat) (value : Operand)
  /-- Calls an import; the result is stored if an address is given. -/
  | call (function : String) (args : List (ValueType × Operand)) (resultAt : Option Nat)
  /-- Divides one by the number stored at an address. -/
  | divideOneBy (address : Nat)
  /-- Stops. -/
  | trap (cause : Trap)
  /-- Asks for more pages of memory. -/
  | grow (pages : Nat)
  /-- Leaves the function. -/
  | leave
  deriving DecidableEq, Repr

/-- What is exported as the entry point. -/
inductive EntryExport where
  /-- A function. -/
  | function (signature : Signature) (body : List Instr)
  /-- A global variable. -/
  | global
  deriving DecidableEq, Repr

/-- A module. -/
structure Module where
  /-- What it asks for, in order. -/
  imports : List Import
  /-- The number of pages of its own memory and the name under which it is exported. -/
  memory : Option (Nat × String)
  /-- The bytes placed in memory before anything runs, with their addresses. -/
  data : List (Nat × List UInt8)
  /-- The code that runs when the module is instantiated. -/
  start : Option (List Instr)
  /-- The other export and its name. -/
  entry : Option (String × EntryExport)
  deriving DecidableEq, Repr

/-- The name under which the entry point is looked up. -/
def entryName : String := "_start"

/-- The name under which the memory is looked up. -/
def memoryName : String := "memory"

/-- What a module exports as its entry point, with the type that entry points have. -/
def Module.entryPoint? (m : Module) : Option (List Instr) :=
  match m.entry with
  | some (name, .function ⟨[], []⟩ body) => if name == entryName then some body else none
  | _ => none

/-- A function from integers to an error number. -/
def Signature.call (params : List ValueType) : Signature :=
  ⟨params, [.i32]⟩

/-- The type of each function of the system interface. -/
def knownSignature? (name : String) : Option Signature :=
  let words (n : Nat) : Signature := .call (List.replicate n .i32)
  match name with
  | "fd_write" | "fd_read" | "poll_oneoff" => some (words 4)
  | "fd_fdstat_get" | "fd_prestat_get" | "environ_sizes_get" | "environ_get" | "args_sizes_get"
  | "args_get" | "random_get" | "fd_fdstat_set_flags" | "fd_filestat_get" | "clock_res_get"
  | "fd_renumber" | "fd_tell" => some (words 2)
  | "fd_prestat_dir_name" | "path_create_directory" => some (words 3)
  | "proc_exit" => some ⟨[.i32], []⟩
  | "clock_time_get" => some (.call [.i32, .i64, .i32])
  | "fd_seek" => some (.call [.i32, .i64, .i32, .i32])
  | "fd_close" | "fd_sync" | "proc_raise" | "fd_datasync" => some (words 1)
  | "sched_yield" => some (words 0)
  | "fd_readdir" => some (.call [.i32, .i32, .i32, .i64, .i32])
  | "path_open" => some (.call [.i32, .i32, .i32, .i32, .i32, .i64, .i64, .i32, .i32])
  | _ => none

end Sandbox.Guest
