import Sandbox.Guest.Memory
import Sandbox.Guest.Module

/-!
# Running code

The code of a guest changes its memory and calls its host. A run goes on until the code is at its
end, leaves its function, or is stopped by an exit, a trap or a failing call.

## Main definitions

* `Instance` : the memory of a running guest and the state of its host.
* `Stop` : what stops a guest before its end.
* `Host` : what answers the calls of a guest.
* `execute` : a run of instructions.

## Main results

* `execute_append` : a run of two pieces of code runs the second one if the first comes to its end.
-/

namespace Sandbox.Guest

/-- What is wrong with linking a module. -/
inductive LinkFault where
  /-- An import from a module that is not served. -/
  | foreign (origin name : String)
  /-- An import of the system interface that is no function. -/
  | notAFunction (name : String)
  /-- An import of the system interface that is defined already. -/
  | definedTwice (name : String)
  deriving DecidableEq, Repr

/-- The wording of a link fault. -/
def LinkFault.message : LinkFault → String
  | foreign origin name => "unsupported import " ++ origin ++ "::" ++ name
  | notAFunction name => systemModule ++ "::" ++ name ++ " is not a function import"
  | definedTwice name => "import of `" ++ systemModule ++ "::" ++ name ++ "` defined twice"

/-- What the host cannot do for a guest, as opposed to failures of the guest. -/
inductive Defect where
  /-- A system call that is not served. -/
  | gap (syscall : String)
  /-- A system call that needs the guest's memory before the host knows it. -/
  | memoryUnbound (syscall : String)
  /-- The module could not be linked. -/
  | link (fault : LinkFault)
  deriving DecidableEq, Repr

/-- The wording of a defect. -/
def Defect.message : Defect → String
  | gap syscall => "unimplemented syscall: " ++ systemModule ++ "::" ++ syscall
  | memoryUnbound syscall =>
    "syscall " ++ syscall ++ " invoked before guest memory was bound"
  | link fault => "failed to link guest module: " ++ fault.message

/-- What stops a guest before the end of its code. -/
inductive Stop where
  /-- The guest asked to exit. -/
  | exit (code : Int)
  /-- The code trapped. -/
  | trap (cause : Trap)
  /-- The host could not serve the guest. -/
  | defect (cause : Defect)
  deriving DecidableEq, Repr

/-- The wording of an exit. -/
def exitMessage (code : Int) : String :=
  "guest exited with code " ++ toString code

/-- A running guest. -/
structure Instance (σ : Type) where
  /-- Its memory. -/
  memory : Memory
  /-- The state of its host. -/
  host : σ

/-- The arguments of a call, as numbers of 64 bits; those of 32 bits are the lower halves. -/
abbrev Args : Type := List UInt64

/-- What answers the calls of guests. -/
structure Host (σ : Type) where
  /-- The answer to a call of the function with that name. -/
  call : String → Args → Instance σ → Except Stop UInt32 × Instance σ

/-- How a piece of code ends. -/
inductive Ending where
  /-- It came to its end. -/
  | completed
  /-- It left its function. -/
  | left
  /-- It was stopped. -/
  | stopped (cause : Stop)
  deriving DecidableEq, Repr

/-- The integer as a number of 64 bits. -/
def wordOf (n : Int) : UInt64 :=
  UInt64.ofNat (n % 0x10000000000000000).toNat

/-- The integer of a number of 32 bits with sign. -/
def signed (w : UInt32) : Int :=
  if w.toNat < 0x80000000 then w.toNat else (w.toNat : Int) - 0x100000000

namespace Instance

variable {σ : Type}

/-- The bytes that a type takes in memory. -/
def width : ValueType → Nat
  | .i32 | .f32 => 4
  | .i64 | .f64 => 8

/-- The value of an operand of a type; loading outside memory traps. -/
def value (s : Instance σ) (type : ValueType) : Operand → Except Stop UInt64
  | .const n => .ok (wordOf n)
  | .load address less =>
    match s.memory.slice address (width type) with
    | .ok bytes => .ok (wordOf ((Memory.ofBytes bytes : Int) - less))
    | .error _ => .error (.trap .outOfBounds)

/-- The values of operands, in order. -/
def values (s : Instance σ) : List (ValueType × Operand) → Except Stop Args
  | [] => .ok []
  | (type, operand) :: operands => do
    let first ← s.value type operand
    let rest ← s.values operands
    return first :: rest

/-- Stores a number of 32 bits; storing outside memory traps. -/
def store (s : Instance σ) (address : Nat) (w : UInt32) : Except Stop (Instance σ) :=
  match s.memory.writeU32 address w with
  | .ok memory => .ok { s with memory := memory }
  | .error _ => .error (.trap .outOfBounds)

end Instance

variable {σ : Type}

/-- The end of a step that gives another instance, or is stopped in `s`. -/
def endStep (s : Instance σ) : Except Stop (Instance σ) → Ending × Instance σ
  | .ok next => (.completed, next)
  | .error cause => (.stopped cause, s)

/-- Runs one instruction. -/
def Instr.run (host : Host σ) (s : Instance σ) : Instr → Ending × Instance σ
  | store address operand =>
    endStep s do
      let w ← s.value .i32 operand
      s.store address w.toUInt32
  | call function args resultAt =>
    match s.values args with
    | .error cause => (.stopped cause, s)
    | .ok args =>
      match host.call function args s with
      | (.error cause, s) => (.stopped cause, s)
      | (.ok result, s) =>
        match resultAt with
        | some address => endStep s (s.store address result)
        | none => (.completed, s)
  | divideOneBy address =>
    match s.value .i32 (.load address 0) with
    | .error cause => (.stopped cause, s)
    | .ok w => if w = 0 then (.stopped (.trap .divideByZero), s) else (.completed, s)
  | trap cause => (.stopped (.trap cause), s)
  | grow pages => (.completed, { s with memory := s.memory.grow pages })
  | leave => (.left, s)

/-- Runs instructions in order until one does not complete. -/
def execute (host : Host σ) : List Instr → Instance σ → Ending × Instance σ
  | [], s => (.completed, s)
  | instr :: instrs, s =>
    match instr.run host s with
    | (.completed, s) => execute host instrs s
    | stopped => stopped

/-- Places data in memory; data that does not fit traps. -/
def placeData (memory : Memory) : List (Nat × List UInt8) → Except Stop Memory
  | [] => .ok memory
  | (address, bytes) :: data =>
    match memory.writeBytes address bytes with
    | .ok memory => placeData memory data
    | .error _ => .error (.trap .outOfBounds)

theorem execute_append (host : Host σ) (p q : List Instr) (s : Instance σ) :
    execute host (p ++ q) s =
      match execute host p s with
      | (.completed, t) => execute host q t
      | ended => ended := by
  induction p generalizing s with
  | nil => rfl
  | cons instr p ih =>
    simp only [List.cons_append, execute]
    rcases instr.run host s with ⟨ending, t⟩
    cases ending <;> simp [ih]

end Sandbox.Guest
