import Sandbox.Guest.Module

/-!
# Assembling guests

A guest is written as a list of steps, such as printing a text or exiting. Assembling places the
texts in memory, adds the imports that the steps need and turns every step into instructions.

## Main definitions

* `Step` : the steps.
* `Source` : the description of a guest.
* `Source.assemble` : its module.
-/

namespace Sandbox.Guest

/-- A step of a guest. -/
inductive Step where
  /-- Stores a number. -/
  | store (address : Nat) (value : Operand)
  /-- Calls an import. -/
  | call (function : String) (args : List Operand) (resultAt : Option Nat)
  /-- Exits with a code. -/
  | exit (code : Operand)
  /-- Writes a text to a file descriptor. -/
  | print (fd : Int) (text : List UInt8)
  /-- Writes the program that an interpreter was given to a file descriptor. -/
  | echoProgram (fd : Int)
  /-- Stops. -/
  | trap (cause : Trap)
  /-- Asks for more memory. -/
  | grow (pages : Nat)
  /-- Leaves the function. -/
  | leave
  deriving DecidableEq, Repr

/-- What stands under the name of the entry point. -/
inductive EntryShape where
  /-- A function without parameters and results. -/
  | plain
  /-- A function with a parameter. -/
  | param
  /-- A function with a result. -/
  | result
  /-- A global variable. -/
  | global
  /-- Nothing. -/
  | absent
  deriving DecidableEq, Repr

/-- The description of a guest. -/
structure Source where
  /-- The imports that are there whether or not a step needs them. -/
  imports : List Import
  /-- The number of pages of memory. -/
  pages : Nat
  /-- The name under which the memory is exported. -/
  memoryExport : String
  /-- Bytes placed in memory. -/
  data : List (Nat × List UInt8)
  /-- The steps of the start function, if there is one. -/
  start : Option (List Step)
  /-- The steps of the entry point. -/
  entry : List Step
  /-- The name of the entry point. -/
  entryExport : String
  /-- What stands under that name. -/
  shape : EntryShape
  deriving DecidableEq, Repr

namespace Assembly

/-- The state of assembling. -/
structure State where
  /-- The imports so far. -/
  imports : List Import
  /-- The next free address for texts. -/
  next : Nat
  /-- The data so far. -/
  data : List (Nat × List UInt8)

/-- The first address for texts. -/
def firstText : Nat := 4096

/-- Where the single record of a write lies, and where its count goes. -/
def recordAt : Nat := 16

/-- The parameter types of the function called `name`, which becomes an import if it is none. -/
def paramsOf (name : String) : StateM State (List ValueType) := do
  let state ← get
  match state.imports.find? fun i => i.name == name with
  | some ⟨_, _, .function signature⟩ => return signature.params
  | some _ => return []
  | none =>
    let signature : Signature := (knownSignature? name).getD ⟨[], []⟩
    let added : Import := ⟨systemModule, name, .function signature⟩
    set { state with imports := state.imports ++ [added] }
    return signature.params

/-- A call with as many arguments as the function has parameters. -/
def callOf (name : String) (args : List Operand) (resultAt : Option Nat) :
    StateM State (List Instr) := do
  let params ← paramsOf name
  return [.call name (params.zip args) resultAt]

/-- Writes the text whose address and length are stored in the record. -/
def writeRecord (fd : Int) : StateM State (List Instr) :=
  callOf "fd_write" [.const fd, .const recordAt, .const 1, .const (recordAt + 8)] none

/-- The instructions of a step. -/
def instructions : Step → StateM State (List Instr)
  | .store address value => return [.store address value]
  | .call function args resultAt => callOf function args resultAt
  | .exit code => callOf "proc_exit" [code] none
  | .print fd text => do
    let state ← get
    set { state with next := state.next + text.length, data := state.data ++ [(state.next, text)] }
    let write ← writeRecord fd
    return .store recordAt (.const state.next) ::
      .store (recordAt + 4) (.const text.length) :: write
  | .echoProgram fd => do
    let sizes ← callOf "args_sizes_get" [.const 32, .const 36] none
    let next := (← get).next
    let args ← callOf "args_get" [.const 40, .const (firstText + next)] none
    let write ← writeRecord fd
    return sizes ++ args ++
      [.store recordAt (.load 48 0), .store (recordAt + 4) (.load 36 11)] ++ write
  | .trap .divideByZero => return [.divideOneBy 60]
  | .trap cause => return [.trap cause]
  | .grow pages => return [.grow pages]
  | .leave => return [.leave]

/-- The instructions of steps in order. -/
def body : List Step → StateM State (List Instr)
  | [] => return []
  | step :: steps => do
    let first ← instructions step
    let rest ← body steps
    return first ++ rest

end Assembly

/-- What is exported under the name of the entry point. -/
def EntryShape.toExport? (body : List Instr) : EntryShape → Option EntryExport
  | plain => some (.function ⟨[], []⟩ body)
  | param => some (.function ⟨[.i32], []⟩ body)
  | result => some (.function ⟨[], [.i32]⟩ body)
  | global => some .global
  | absent => none

/-- The module of a guest. The start function is assembled before the entry point. -/
def Source.assemble (source : Source) : Module :=
  let build : StateM Assembly.State (Option (List Instr) × List Instr) := do
    let start ← match source.start with
      | some steps => some <$> Assembly.body steps
      | none => pure none
    let entry ← Assembly.body source.entry
    return (start, entry)
  let ((start, entry), state) := build.run ⟨source.imports, Assembly.firstText, []⟩
  let ownsMemory := !source.imports.any fun i => i.kind == .memory
  { imports := state.imports
    memory := if ownsMemory then some (source.pages, source.memoryExport) else none
    data := source.data ++ state.data
    start := start
    entry := (source.shape.toExport? entry).map fun shape => (source.entryExport, shape) }

end Sandbox.Guest
