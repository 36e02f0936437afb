import Mathlib.Data.Nat.Digits.Defs
import Sandbox.Proofs.Guest.Answering

/-!
# Sequences of accesses to memory

Memory behaves as a flat array of bytes whose addresses are natural numbers. Each access names a
range by numbers of 32 bits. It succeeds if the range ends inside memory, where the end is the sum
of the two natural numbers, which does not wrap around, and otherwise it is a fault and changes
nothing. A write that succeeds replaces the bytes of its range and no others, so that after any
sequence of accesses each byte is the one that the latest write over its address put there, and a
number is read from the latest bytes of its four addresses, whichever writes they come from.

## Main definitions

* `Access` : the accesses, with the range of each, the bytes that it writes and what it answers.
* `Access.onMemory`, `Access.onBytes` : an access to memory and to a flat array.
* `Access.inOrder` : a sequence of accesses.
* `Access.Acts` : what one access does to the memory before it.
* `Memory.bytes` : the flat array that a memory holds.
* `latest` : the byte that the latest write over an address put there.

## Main results

* `Access.onMemory_eq` : what one access does.
* `Access.onBytes_bytes`, `Access.inOrder_bytes` : memory behaves as the flat array that it holds.
* `Access.get_inOrder` : the bytes after a sequence of accesses are the latest ones.
* `Access.inOrder_onMemory` : what a sequence of accesses does, and what each access of it does.
-/

namespace Sandbox.Guest

/-! ### Numbers as bytes -/

/-- The number whose bytes are given, the lowest first. -/
def numberOf (bytes : List UInt8) : Nat :=
  Nat.ofDigits 256 (bytes.map UInt8.toNat)

/-- The `count` lowest bytes of a number, the lowest first. -/
def lowestBytes (count n : Nat) : List UInt8 :=
  (List.range count).map fun k => UInt8.ofNat (n / 256 ^ k)

@[simp] theorem length_lowestBytes (count n : Nat) : (lowestBytes count n).length = count := by
  rw [lowestBytes, List.length_map, List.length_range]

namespace Memory

theorem ofBytes_eq (bytes : List UInt8) : ofBytes bytes = numberOf bytes := by
  induction bytes with
  | nil => rfl
  | cons b bytes ih => rw [ofBytes, ih, numberOf, numberOf, List.map_cons, Nat.ofDigits_cons]

theorem toBytes_eq (count n : Nat) : toBytes count n = lowestBytes count n := by
  induction count generalizing n with
  | zero => rfl
  | succ count ih =>
    rw [toBytes, ih, lowestBytes, lowestBytes, List.range_succ_eq_map, List.map_cons, List.map_map,
      pow_zero, Nat.div_one]
    refine congrArg (UInt8.ofNat n :: ·) (List.map_congr_left fun k _ => ?_)
    rw [Function.comp_apply, Nat.succ_eq_add_one, pow_succ', Nat.div_div_eq_div_mul]

/-! ### Memory as a flat array -/

/-- All bytes of a memory, in the order of their addresses. -/
def bytes (m : Memory) : List UInt8 :=
  m.take 0 m.size

@[simp] theorem length_bytes (m : Memory) : m.bytes.length = m.size :=
  length_take _ _ _

theorem take_add (m : Memory) (start first second : Nat) :
    m.take start (first + second) = m.take start first ++ m.take (start + first) second := by
  rw [take, ← List.range'_append_1, List.map_append, ← take, ← take]

/-- A range that ends inside memory, cut from the flat array. -/
theorem take_drop_bytes {m : Memory} {start count : Nat} (h : start + count ≤ m.size) :
    (m.bytes.drop start).take count = m.take start count := by
  obtain ⟨rest, hrest⟩ := Nat.exists_eq_add_of_le h
  rw [bytes, hrest, Nat.add_assoc, take_add, take_add, Nat.zero_add,
    List.drop_left' (length_take m 0 start), List.take_left' (length_take m start count)]

theorem take_put_of_disjoint {m : Memory} {start count address : Nat} {data : List UInt8}
    (h : start + count ≤ address ∨ address + data.length ≤ start) :
    (m.put address data).take start count = m.take start count := by
  refine List.map_congr_left fun i hi => ?_
  have hi := List.mem_range'_1.mp hi
  rw [get_put, if_neg (by omega)]

/-- Bytes put into memory replace as many bytes of the flat array. -/
theorem bytes_put {m : Memory} {address : Nat} {data : List UInt8}
    (h : address + data.length ≤ m.size) :
    (m.put address data).bytes =
      m.bytes.take address ++ data ++ m.bytes.drop (address + data.length) := by
  obtain ⟨rest, hrest⟩ := Nat.exists_eq_add_of_le h
  have hbefore : m.bytes.take address = m.take 0 address := by
    have hfits : 0 + address ≤ m.size := by omega
    rw [← take_drop_bytes hfits, List.drop_zero]
  have hbehind : m.bytes.drop (address + data.length) = m.take (address + data.length) rest := by
    rw [← take_drop_bytes hrest.ge, List.take_of_length_le]
    rw [List.length_drop, length_bytes]
    omega
  rw [hbefore, hbehind, bytes, size_put, hrest, take_add, take_add, Nat.zero_add, Nat.zero_add,
    take_put, take_put_of_disjoint (.inl (Nat.zero_add address).le),
    take_put_of_disjoint (.inr le_rfl)]

end Memory

/-! ### Accesses -/

/-- An access to memory. Addresses and lengths are numbers of 32 bits. -/
inductive Access where
  /-- Reads the bytes of a range. -/
  | slice (address count : UInt32)
  /-- Reads a number of four bytes. -/
  | readU32 (address : UInt32)
  /-- Writes bytes, fewer than `2 ^ 32`. -/
  | writeBytes (address : UInt32) (bytes : List UInt8) (hshort : bytes.length < 0x100000000)
  /-- Stores a number of four bytes. -/
  | writeU32 (address value : UInt32)
  /-- Stores a number of eight bytes. -/
  | writeU64 (address : UInt32) (value : UInt64)

namespace Access

/-- What an access answers that succeeds. -/
inductive Value where
  /-- The bytes that were read. -/
  | bytes (bytes : List UInt8)
  /-- The number that was read. -/
  | number (n : UInt32)
  /-- A write has nothing to tell. -/
  | nothing
  deriving DecidableEq, Repr

/-- The answer to a write, and the memory after it. A write that fails leaves memory as it was. -/
def storing (m : Memory) (stored : Except Errno Memory) : Except Errno Value × Memory :=
  match stored with
  | .ok m => (.ok .nothing, m)
  | .error errno => (.error errno, m)

/-- An access to memory: its answer, and the memory after it. -/
def onMemory (access : Access) (m : Memory) : Except Errno Value × Memory :=
  match access with
  | slice address count => ((m.slice address.toNat count.toNat).map .bytes, m)
  | readU32 address => ((m.readU32 address.toNat).map .number, m)
  | writeBytes address bytes _ => storing m (m.writeBytes address.toNat bytes)
  | writeU32 address value => storing m (m.writeU32 address.toNat value)
  | writeU64 address value => storing m (m.writeU64 address.toNat value)

/-- The range of an access, in natural numbers. -/
def span : Access → Span
  | slice address count => ⟨address.toNat, count.toNat⟩
  | readU32 address => ⟨address.toNat, 4⟩
  | writeBytes address bytes _ => ⟨address.toNat, bytes.length⟩
  | writeU32 address _ => ⟨address.toNat, 4⟩
  | writeU64 address _ => ⟨address.toNat, 8⟩

/-- The bytes that an access writes into its range. Reading writes none. -/
def data : Access → List UInt8
  | slice _ _ | readU32 _ => []
  | writeBytes _ bytes _ => bytes
  | writeU32 _ value => lowestBytes 4 value.toNat
  | writeU64 _ value => lowestBytes 8 value.toNat

/-- The answer of an access whose range holds some bytes. -/
def value (access : Access) (found : List UInt8) : Value :=
  match access with
  | slice _ _ => .bytes found
  | readU32 _ => .number (UInt32.ofNat (numberOf found))
  | writeBytes _ _ _ | writeU32 _ _ | writeU64 _ _ => .nothing

/-- An access to a flat array of bytes: its answer, and the array after it. -/
def onBytes (access : Access) (cells : List UInt8) : Except Errno Value × List UInt8 :=
  let start := access.span.start
  if access.span.start + access.span.count ≤ cells.length then
    (.ok (access.value ((cells.drop start).take access.span.count)),
      cells.take start ++ access.data ++ cells.drop (start + access.data.length))
  else (.error .fault, cells)

/-- The byte that an access puts at an address of a memory of a size, if it puts one there. -/
def puts (size i : Nat) (access : Access) : Option UInt8 :=
  if access.span.start + access.span.count ≤ size ∧ access.span.start ≤ i then
    access.data[i - access.span.start]?
  else none

/-- The accesses in order, each to what the one before left behind: their answers, and what the last
one left behind. -/
def inOrder {σ : Type} (perform : Access → σ → Except Errno Value × σ) :
    List Access → σ → List (Except Errno Value) × σ
  | [], s => ([], s)
  | access :: accesses, s =>
    let (answer, t) := perform access s
    let (answers, u) := inOrder perform accesses t
    (answer :: answers, u)

end Access

/-- The byte that the latest of the accesses that put one at an address has put there, or the one
that memory held there before all of them. -/
def latest (m : Memory) (accesses : List Access) (i : Nat) : UInt8 :=
  (accesses.reverse.findSome? (Access.puts m.size i)).getD (m.get i)

namespace Access

/-! ### One access -/

section Single

variable (access : Access) (m : Memory)

/-- An access writes its whole range or nothing at all. -/
theorem data_cases : access.data.length = access.span.count ∨ access.data = [] := by
  cases access with
  | slice _ _ | readU32 _ => exact .inr rfl
  | writeBytes _ _ _ => exact .inl rfl
  | writeU32 _ _ | writeU64 _ _ => exact .inl (length_lowestBytes _ _)

theorem length_data_le : access.data.length ≤ access.span.count := by
  rcases access.data_cases with h | h
  · exact h.le
  · simp [h]

theorem storing_writeBytes (address : Nat) (bytes : List UInt8) :
    storing m (m.writeBytes address bytes) =
      if address + bytes.length ≤ m.size then (.ok .nothing, m.put address bytes)
      else (.error .fault, m) := by
  rw [Memory.writeBytes_eq]
  split <;> rfl

/-- What an access does: it answers what its range holds, and replaces the bytes of the range, if
the range ends inside memory. -/
theorem onMemory_eq : access.onMemory m =
    if access.span.start + access.span.count ≤ m.size then
      (.ok (access.value (m.take access.span.start access.span.count)),
        m.put access.span.start access.data)
    else (.error .fault, m) := by
  cases access with
  | slice address count =>
    rw [onMemory, Memory.slice_eq]
    change _ = if address.toNat + count.toNat ≤ m.size then _ else _
    split <;> rfl
  | readU32 address =>
    rw [onMemory, Memory.readU32_eq, Memory.word, Memory.ofBytes_eq]
    change _ = if address.toNat + 4 ≤ m.size then _ else _
    split <;> rfl
  | writeBytes address bytes hshort => exact storing_writeBytes m address.toNat bytes
  | writeU32 address value =>
    rw [onMemory, Memory.writeU32, Memory.toBytes_eq, storing_writeBytes, length_lowestBytes]
    rfl
  | writeU64 address value =>
    rw [onMemory, Memory.writeU64, Memory.toBytes_eq, storing_writeBytes, length_lowestBytes]
    rfl

@[simp] theorem size_onMemory : (access.onMemory m).2.size = m.size := by
  rw [onMemory_eq]
  split
  · exact Memory.size_put _ _ _
  · rfl

theorem get_onMemory (i : Nat) :
    (access.onMemory m).2.get i = (access.puts m.size i).getD (m.get i) := by
  rw [onMemory_eq, puts]
  by_cases hfits : access.span.start + access.span.count ≤ m.size
  · rw [if_pos hfits, Memory.get_put]
    simp only [hfits, true_and]
    by_cases hstart : access.span.start ≤ i
    · simp only [hstart, true_and, if_true]
      split
      case isTrue hend =>
        rw [List.getD_eq_getElem?_getD, List.getElem?_eq_getElem (by omega), Option.getD_some,
          Option.getD_some]
      case isFalse hend => rw [List.getElem?_eq_none (by omega), Option.getD_none]
    · rw [if_neg (fun h => hstart h.1), if_neg hstart, Option.getD_none]
  · rw [if_neg hfits, if_neg (fun h => hfits h.1), Option.getD_none]

/-- Memory answers as the flat array that it holds, and holds that array changed in the same way. -/
theorem onBytes_bytes :
    access.onBytes m.bytes = ((access.onMemory m).1, (access.onMemory m).2.bytes) := by
  rw [onMemory_eq, onBytes, Memory.length_bytes]
  by_cases hfits : access.span.start + access.span.count ≤ m.size
  · have hdata : access.span.start + access.data.length ≤ m.size :=
      (Nat.add_le_add_left access.length_data_le _).trans hfits
    rw [if_pos hfits, if_pos hfits, Memory.take_drop_bytes hfits, Memory.bytes_put hdata]
  · rw [if_neg hfits, if_neg hfits]

end Single

/-- What one access does, given the memory before it, its answer and the memory after it. -/
structure Acts (access : Access) (s : Memory) (answer : Except Errno Value) (t : Memory) :
    Prop where
  /-- It succeeds exactly if its range, in natural numbers, ends inside memory. -/
  succeeds : (∃ value, answer = .ok value) ↔ access.span.start + access.span.count ≤ s.size
  /-- Otherwise it answers with a fault and changes nothing. -/
  faults : ¬ access.span.start + access.span.count ≤ s.size → answer = .error .fault ∧ t = s
  /-- Memory keeps its size. -/
  size : t.size = s.size
  /-- What it writes fills its range, unless it writes nothing. -/
  whole : access.data.length = access.span.count ∨ access.data = [] ∧ t = s
  /-- A write that succeeds puts its bytes into its range, one after another. -/
  inside : access.span.start + access.span.count ≤ s.size →
    ∀ k, ∀ hk : k < access.data.length, t.get (access.span.start + k) = access.data[k]
  /-- Bytes outside of the range are left alone. -/
  outside : ∀ i, ¬ access.span.Contains i → t.get i = s.get i

theorem acts_onMemory (access : Access) (m : Memory) :
    access.Acts m (access.onMemory m).1 (access.onMemory m).2 where
  succeeds := by
    rw [onMemory_eq]
    split
    case isTrue hfits => exact iff_of_true ⟨_, rfl⟩ hfits
    case isFalse hfits => exact iff_of_false (by simp) hfits
  faults hnot := by
    rw [onMemory_eq, if_neg hnot]
    exact ⟨rfl, rfl⟩
  size := size_onMemory access m
  whole := by
    refine access.data_cases.imp_right fun hdata => ⟨hdata, ?_⟩
    rw [onMemory_eq, hdata]
    split <;> rfl
  inside hfits k hk := by
    rw [get_onMemory, puts, if_pos ⟨hfits, Nat.le_add_right _ k⟩, Nat.add_sub_cancel_left,
      List.getElem?_eq_getElem hk, Option.getD_some]
  outside i hi := by
    rw [get_onMemory, puts]
    split
    case isTrue h =>
      have hbehind : access.span.start + access.span.count ≤ i :=
        Nat.not_lt.mp fun hlt => hi ⟨h.2, hlt⟩
      have hdata := access.length_data_le
      rw [List.getElem?_eq_none (by omega), Option.getD_none]
    case isFalse => rfl

/-! ### Sequences of accesses -/

section Sequence

variable {σ : Type} (perform : Access → σ → Except Errno Value × σ)

theorem inOrder_cons (access : Access) (accesses : List Access) (s : σ) :
    inOrder perform (access :: accesses) s =
      ((perform access s).1 :: (inOrder perform accesses (perform access s).2).1,
        (inOrder perform accesses (perform access s).2).2) := rfl

theorem answers_inOrder_append (before after : List Access) (s : σ) :
    (inOrder perform (before ++ after) s).1 =
      (inOrder perform before s).1 ++ (inOrder perform after (inOrder perform before s).2).1 := by
  induction before generalizing s with
  | nil => rfl
  | cons access before ih =>
    rw [List.cons_append, inOrder_cons, ih, inOrder_cons, List.cons_append]

end Sequence

variable (m : Memory) (accesses : List Access)

/-- A sequence of accesses to memory has the answers that it has from the flat array that memory
holds, and memory holds that array in the end as well. -/
theorem inOrder_bytes :
    inOrder onBytes accesses m.bytes =
      ((inOrder onMemory accesses m).1, (inOrder onMemory accesses m).2.bytes) := by
  induction accesses generalizing m with
  | nil => rfl
  | cons access accesses ih => rw [inOrder_cons, onBytes_bytes, ih, inOrder_cons]

@[simp] theorem size_inOrder : (inOrder onMemory accesses m).2.size = m.size := by
  induction accesses generalizing m with
  | nil => rfl
  | cons access accesses ih => rw [inOrder_cons, ih, size_onMemory]

/-- After a sequence of accesses, every byte is the latest one that was put at its address. -/
theorem get_inOrder (i : Nat) : (inOrder onMemory accesses m).2.get i = latest m accesses i := by
  induction accesses generalizing m with
  | nil => rfl
  | cons access accesses ih =>
    -- The first access is the last one to be asked for a byte.
    rw [inOrder_cons, ih, latest, latest, List.reverse_cons, List.findSome?_append, Option.getD_or,
      size_onMemory, get_onMemory, List.findSome?_singleton]

/-- A number is read from the latest bytes of its four addresses. -/
theorem readU32_inOrder {address : Nat} (h : address + 4 ≤ m.size) :
    ∃ n : UInt32, (inOrder onMemory accesses m).2.readU32 address = .ok n ∧
      n.toNat = numberOf ((List.range 4).map fun k => latest m accesses (address + k)) := by
  have hword : (inOrder onMemory accesses m).2.word address =
      numberOf ((List.range 4).map fun k => latest m accesses (address + k)) := by
    rw [Memory.word, Memory.ofBytes_eq, Memory.take, List.range'_eq_map_range, List.map_map]
    refine congrArg numberOf (List.map_congr_left fun k _ => ?_)
    rw [Function.comp_apply, get_inOrder]
  refine ⟨UInt32.ofNat ((inOrder onMemory accesses m).2.word address), ?_, ?_⟩
  · rw [Memory.readU32_eq, size_inOrder, if_pos h]
  · rw [UInt32.toNat_ofNat_of_lt' (Memory.word_lt _ _), hword]

/-- A sequence of accesses, any of which may fail. Memory gives the answers of the flat array that
it holds, and holds the array that the accesses leave behind; its size stays, and each byte is the
latest one that was put at its address. Each access of the sequence succeeds exactly if its range
ends inside memory, and otherwise is a fault and changes nothing. A write that succeeds changes the
bytes of its range and no others. A number that is read is composed of the latest bytes of its four
addresses, the lowest first, whichever of the accesses before have put them there. -/
theorem inOrder_onMemory :
    inOrder onBytes accesses m.bytes =
      ((inOrder onMemory accesses m).1, (inOrder onMemory accesses m).2.bytes) ∧
    (inOrder onMemory accesses m).2.size = m.size ∧
    (∀ i, (inOrder onMemory accesses m).2.get i = latest m accesses i) ∧
    ∀ before access after, accesses = before ++ access :: after →
      let s := (inOrder onMemory before m).2
      let answer := (access.onMemory s).1
      let t := (access.onMemory s).2
      (inOrder onMemory accesses m).1 =
        (inOrder onMemory before m).1 ++ answer :: (inOrder onMemory after t).1 ∧
      s.size = m.size ∧ access.Acts s answer t ∧
      ∀ address, access = .readU32 address → address.toNat + 4 ≤ m.size →
        ∃ n, answer = .ok (.number n) ∧ n.toNat =
          numberOf ((List.range 4).map fun k => latest m before (address.toNat + k)) := by
  refine ⟨inOrder_bytes m accesses, size_inOrder m accesses, get_inOrder m accesses, ?_⟩
  rintro before access after rfl
  refine ⟨answers_inOrder_append onMemory before (access :: after) m, size_inOrder m before,
    acts_onMemory access _, ?_⟩
  rintro address rfl hfits
  obtain ⟨n, hread, hn⟩ := readU32_inOrder m before hfits
  refine ⟨n, ?_, hn⟩
  rw [onMemory, hread]
  rfl

/-- The number lies across two writes, the second of which overlaps the first one. -/
example : (inOrder onMemory [.writeU32 0 0x11223344, .writeBytes 2 [0xaa, 0xbb, 0xcc] (by decide),
    .readU32 1, .writeU64 1 0, .slice 0xffffffff 2] (Memory.zeros 8)).1 =
    [.ok .nothing, .ok .nothing, .ok (.number 0xccbbaa33), .error .fault, .error .fault] := by
  cbv

end Access

end Sandbox.Guest
