import Sandbox.Guest.Memory

/-!
# Ranges and numbers in guest memory

Checked accesses succeed exactly if the range, taken in natural numbers, ends inside memory. Bytes
that are put somewhere are read back there, and all others are as before.

## Main definitions

* `Memory.word` : the number of four bytes, the lowest first.

## Main results

* `Memory.get_put` : a byte after bytes were put somewhere.
* `Memory.slice_eq`, `Memory.readU32_eq`, `Memory.writeBytes_eq` : when accesses succeed.
* `Memory.word_put_toBytes` : a number that is stored is read back.
-/

namespace Sandbox.Guest.Memory

/-- The number that the four bytes from an address on hold, the lowest first. -/
def word (m : Memory) (address : Nat) : Nat :=
  ofBytes (m.take address 4)

/-! ### Numbers as bytes -/

theorem ofBytes_toBytes (n : Nat) : ofBytes (toBytes 4 n) = n % 0x100000000 := by
  simp only [toBytes, ofBytes, UInt8.toNat_ofNat']
  omega

@[simp] theorem length_take (m : Memory) (address count : Nat) :
    (m.take address count).length = count := by
  rw [take, List.length_map, List.length_range']

theorem word_eq (m : Memory) (address : Nat) : m.word address =
    (m.get address).toNat + 256 * ((m.get (address + 1)).toNat +
      256 * ((m.get (address + 2)).toNat + 256 * (m.get (address + 3)).toNat)) := by
  simp [word, take, List.range', ofBytes]

theorem word_lt (m : Memory) (address : Nat) : m.word address < 0x100000000 := by
  have hget (i : Nat) : (m.get i).toNat < 256 := (m.get i).toNat_lt
  have h0 := hget address
  have h1 := hget (address + 1)
  have h2 := hget (address + 2)
  have h3 := hget (address + 3)
  rw [word_eq]
  omega

/-! ### Bytes that were put somewhere -/

@[simp] theorem get_zeros (size i : Nat) : (zeros size).get i = 0 :=
  Std.HashMap.getD_empty

theorem get_put (m : Memory) (address : Nat) (bytes : List UInt8) (i : Nat) :
    (m.put address bytes).get i =
      if address ≤ i ∧ i < address + bytes.length then bytes.getD (i - address) 0 else m.get i := by
  induction bytes generalizing m address with
  | nil => rw [put, if_neg (by simp only [List.length_nil]; omega)]
  | cons b bytes ih =>
    rw [put, ih, get_set, List.length_cons]
    by_cases hhead : address = i
    · subst hhead
      rw [if_neg (by omega), if_pos rfl, if_pos (by omega), Nat.sub_self, List.getD_cons_zero]
    · by_cases htail : address + 1 ≤ i ∧ i < address + 1 + bytes.length
      · rw [if_pos htail, if_pos (by omega),
          show i - address = i - (address + 1) + 1 by omega, List.getD_cons_succ]
      · rw [if_neg htail, if_neg hhead, if_neg (by omega)]

theorem take_put (m : Memory) (address : Nat) (bytes : List UInt8) :
    (m.put address bytes).take address bytes.length = bytes := by
  refine List.ext_getElem (length_take _ _ _) fun i _ hi => ?_
  simp only [take, List.getElem_map, List.getElem_range', get_put]
  rw [if_pos (by omega), show address + 1 * i - address = i by omega]
  exact (List.getElem_eq_getD 0).symm

theorem word_put_toBytes (m : Memory) (address n : Nat) :
    (m.put address (toBytes 4 n)).word address = n % 0x100000000 := by
  have h := m.take_put address (toBytes 4 n)
  rw [length_toBytes] at h
  rw [word, h, ofBytes_toBytes]

/-! ### Checked accesses -/

theorem slice_eq (m : Memory) (address count : Nat) : m.slice address count =
    if address + count ≤ m.size then .ok (m.take address count) else .error .fault := by
  simp only [slice, holds, decide_eq_true_eq]

theorem readU32_eq (m : Memory) (address : Nat) : m.readU32 address =
    if address + 4 ≤ m.size then .ok (UInt32.ofNat (m.word address)) else .error .fault := by
  rw [readU32, slice_eq]
  split <;> rfl

theorem writeBytes_eq (m : Memory) (address : Nat) (bytes : List UInt8) :
    m.writeBytes address bytes =
      if address + bytes.length ≤ m.size then .ok (m.put address bytes) else .error .fault := by
  simp only [writeBytes, holds, decide_eq_true_eq]

theorem writeU32_eq (m : Memory) (address : Nat) (value : UInt32) : m.writeU32 address value =
    if address + 4 ≤ m.size then .ok (m.put address (toBytes 4 value.toNat))
    else .error .fault := by
  rw [writeU32, writeBytes_eq, length_toBytes]

end Sandbox.Guest.Memory
