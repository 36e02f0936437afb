import Std.Data.HashMap

/-!
# Guest memory

The linear memory of a guest is a sequence of bytes with natural numbers as addresses. Ranges are
checked before any byte is touched, and numbers are stored with the lowest byte first.

## Main definitions

* `Errno` : the error numbers that system calls answer with.
* `Memory` : a memory of a given size.
* `Memory.slice`, `Memory.readU32` : reading.
* `Memory.writeBytes`, `Memory.writeU32`, `Memory.writeU64` : writing.

## Main results

* `Memory.get_set` : a byte written is read back, and all others are as before.
-/

namespace Sandbox.Guest

/-- The answer of a system call to its guest. -/
inductive Errno where
  /-- The call did what was asked. -/
  | success
  /-- The file descriptor is not open. It also ends the search for opened directories. -/
  | badDescriptor
  /-- A range of addresses does not lie inside memory. -/
  | fault
  /-- The stream has no positions. -/
  | noSeek
  deriving DecidableEq, Repr

/-- The number of an answer. -/
def Errno.code : Errno → Nat
  | success => 0
  | badDescriptor => 8
  | fault => 21
  | noSeek => 70

/-- A memory. Cells that were never written hold zero. -/
structure Memory where
  /-- The number of bytes. -/
  size : Nat
  /-- The bytes that were written. -/
  cells : Std.HashMap Nat UInt8

namespace Memory

/-- The number of bytes in a page. -/
def pageSize : Nat := 65536

/-- The greatest number of pages. -/
def maxPages : Nat := 65536

/-- A memory of zeros. -/
def zeros (size : Nat) : Memory :=
  ⟨size, ∅⟩

/-- The byte at an address. -/
def get (m : Memory) (address : Nat) : UInt8 :=
  m.cells.getD address 0

/-- The memory with another byte at an address. -/
def set (m : Memory) (address : Nat) (b : UInt8) : Memory :=
  { m with cells := m.cells.insert address b }

/-- The memory with bytes put at consecutive addresses. -/
def put (m : Memory) (address : Nat) : List UInt8 → Memory
  | [] => m
  | b :: bytes => (m.set address b).put (address + 1) bytes

/-- The `count` bytes from an address on. -/
def take (m : Memory) (address count : Nat) : List UInt8 :=
  (List.range' address count).map m.get

/-- Whether a range lies inside memory. -/
def holds (m : Memory) (address count : Nat) : Bool :=
  decide (address + count ≤ m.size)

/-- The memory with `pages` more pages, if there may be so many. -/
def grow (m : Memory) (pages : Nat) : Memory :=
  if m.size / pageSize + pages ≤ maxPages then { m with size := m.size + pages * pageSize } else m

/-! ### Checked access -/

/-- The bytes of a range. -/
def slice (m : Memory) (address count : Nat) : Except Errno (List UInt8) :=
  if m.holds address count then .ok (m.take address count) else .error .fault

/-- The number whose bytes are given, the lowest first. -/
def ofBytes : List UInt8 → Nat
  | [] => 0
  | b :: bytes => b.toNat + 256 * ofBytes bytes

/-- The `count` lowest bytes of a number, the lowest first. -/
def toBytes : (count : Nat) → (n : Nat) → List UInt8
  | 0, _ => []
  | count + 1, n => UInt8.ofNat n :: toBytes count (n / 256)

/-- The number of four bytes. -/
def readU32 (m : Memory) (address : Nat) : Except Errno UInt32 := do
  let bytes ← m.slice address 4
  return UInt32.ofNat (ofBytes bytes)

/-- Puts bytes into a range. -/
def writeBytes (m : Memory) (address : Nat) (bytes : List UInt8) : Except Errno Memory :=
  if m.holds address bytes.length then .ok (m.put address bytes) else .error .fault

/-- Stores a number of four bytes. -/
def writeU32 (m : Memory) (address : Nat) (value : UInt32) : Except Errno Memory :=
  m.writeBytes address (toBytes 4 value.toNat)

/-- Stores a number of eight bytes. -/
def writeU64 (m : Memory) (address : Nat) (value : UInt64) : Except Errno Memory :=
  m.writeBytes address (toBytes 8 value.toNat)

/-! ### Reading what was written -/

@[simp] theorem size_set (m : Memory) (a : Nat) (b : UInt8) : (m.set a b).size = m.size := rfl

theorem get_set (m : Memory) (a : Nat) (b : UInt8) (i : Nat) :
    (m.set a b).get i = if a = i then b else m.get i := by
  simp only [get, set, Std.HashMap.getD_insert, beq_iff_eq]

@[simp] theorem size_put (m : Memory) (a : Nat) (bytes : List UInt8) :
    (m.put a bytes).size = m.size := by
  induction bytes generalizing m a with
  | nil => rfl
  | cons b bytes ih => simp [put, ih]

@[simp] theorem length_toBytes (count n : Nat) : (toBytes count n).length = count := by
  induction count generalizing n with
  | zero => rfl
  | succ count ih => simp [toBytes, ih]

end Memory

end Sandbox.Guest
