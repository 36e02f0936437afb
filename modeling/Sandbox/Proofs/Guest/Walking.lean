import Mathlib.Algebra.Ring.Nat
import Sandbox.Guest.Syscall
import Sandbox.Proofs.Guest.Memory

/-!
# The walk over records

A write walks over records of eight bytes, each with the address and the length of some bytes. The
addresses of records are numbers of 32 bits, and behind the last one comes the first one again. A
memory can have as many bytes as there are addresses, so nothing but the size of memory ends a walk
that goes on around. The bytes of all records before the first one that does not fit are forwarded,
one chunk for each.

## Main definitions

* `Memory.around` : addresses around and around.
* `Memory.RoundFits` : a record lies inside memory, and so do the bytes that it describes.
* `Memory.roundChunk` : the chunk that a record describes.

## Main results

* `writeRecords_of_roundFits`, `writeRecords_of_not_roundFits` : the walk over the records.
-/

namespace Sandbox.Guest

namespace Memory

variable (m : Memory) (records k : Nat)

/-- The address at a distance from another. -/
def around (address distance : Nat) : Nat :=
  (address + distance) % 0x100000000

/-- The address that record `k` holds, among the records from an address on. -/
def roundStart : Nat :=
  m.word (around records (8 * k))

/-- The length that record `k` holds. -/
def roundLength : Nat :=
  m.word (around records (8 * k + 4))

/-- The bytes that record `k` describes lie inside memory. -/
def SliceFits : Prop :=
  m.roundStart records k + m.roundLength records k ≤ m.size

/-- Record `k` lies inside memory, and so do the bytes that it describes. -/
def RoundFits : Prop :=
  (around records (8 * k) + 4 ≤ m.size ∧ around records (8 * k + 4) + 4 ≤ m.size) ∧
    m.SliceFits records k

instance : Decidable (m.SliceFits records k) :=
  inferInstanceAs (Decidable (_ ≤ _))

instance : Decidable (m.RoundFits records k) :=
  inferInstanceAs (Decidable (_ ∧ _))

/-- The chunk of the bytes that record `k` describes. -/
def roundChunk (stream : Stream) : Chunk :=
  ⟨stream, m.take (m.roundStart records k) (m.roundLength records k)⟩

/-! ### Addresses -/

theorem around_of_lt {address distance : Nat} (h : address + distance < 0x100000000) :
    around address distance = address + distance :=
  Nat.mod_eq_of_lt h

theorem around_around (address distance further : Nat) :
    around (around address distance) further = around address (distance + further) := by
  unfold around
  omega

theorem toNat_add_eq_around (address distance : UInt32) :
    (address + distance).toNat = around address.toNat distance.toNat :=
  UInt32.toNat_add ..

/-! ### The first record and the records after it -/

theorem roundStart_zero (address : UInt32) :
    m.roundStart address.toNat 0 = m.word address.toNat := by
  rw [roundStart, around_of_lt address.toNat_lt]
  rfl

theorem roundLength_zero (address : UInt32) :
    m.roundLength address.toNat 0 = m.word (address + 4).toNat := by
  rw [roundLength, toNat_add_eq_around]
  rfl

theorem roundFits_zero (address : UInt32) :
    m.RoundFits address.toNat 0 ↔
      (address.toNat + 4 ≤ m.size ∧ (address + 4).toNat + 4 ≤ m.size) ∧
        m.word address.toNat + m.word (address + 4).toNat ≤ m.size := by
  rw [RoundFits, SliceFits, roundStart_zero, roundLength_zero, toNat_add_eq_around,
    around_of_lt address.toNat_lt]
  rfl

theorem roundStart_around_eight :
    m.roundStart (around records 8) k = m.roundStart records (k + 1) := by
  rw [roundStart, roundStart, around_around, show 8 + 8 * k = 8 * (k + 1) by omega]

theorem roundLength_around_eight :
    m.roundLength (around records 8) k = m.roundLength records (k + 1) := by
  rw [roundLength, roundLength, around_around, show 8 + (8 * k + 4) = 8 * (k + 1) + 4 by omega]

theorem roundFits_around_eight :
    m.RoundFits (around records 8) k ↔ m.RoundFits records (k + 1) := by
  rw [RoundFits, RoundFits, SliceFits, SliceFits, roundStart_around_eight,
    roundLength_around_eight, around_around, around_around,
    show 8 + 8 * k = 8 * (k + 1) by omega, show 8 + (8 * k + 4) = 8 * (k + 1) + 4 by omega]

theorem roundChunk_around_eight (stream : Stream) :
    m.roundChunk (around records 8) k stream = m.roundChunk records (k + 1) stream := by
  rw [roundChunk, roundChunk, roundStart_around_eight, roundLength_around_eight]

end Memory

/-! ### The walk -/

/-- All records are of a kind, or there is a first one that is not. -/
theorem forall_lt_or_first (kind : Nat → Prop) (count : Nat) :
    (∀ k < count, kind k) ∨ ∃ k < count, (∀ j < k, kind j) ∧ ¬ kind k := by
  induction count with
  | zero => exact .inl fun k hk => absurd hk (Nat.not_lt_zero k)
  | succ count ih =>
    obtain hall | ⟨k, hk, hfirst⟩ := ih
    · by_cases hlast : kind count
      · refine .inl fun k hk => ?_
        obtain hlt | rfl := Nat.lt_succ_iff_lt_or_eq.1 hk
        · exact hall k hlt
        · exact hlast
      · exact .inr ⟨count, Nat.lt_succ_self count, hall, hlast⟩
    · exact .inr ⟨k, Nat.lt_succ_of_lt hk, hfirst⟩

section Walk

variable {m : Memory} {address : UInt32} {count k : Nat} (stream : Stream)

/-- What a walk does first. -/
theorem writeRecords_succ (count : Nat) (total : UInt32) (done : List Chunk) :
    writeRecords m stream (count + 1) address total done =
      if m.RoundFits address.toNat 0 then
        writeRecords m stream count (address + 8)
          (total + UInt32.ofNat (m.roundLength address.toNat 0))
          (m.roundChunk address.toNat 0 stream :: done)
      else (done.reverse, .error .fault) := by
  have hword (place : Nat) : (UInt32.ofNat (m.word place)).toNat = m.word place :=
    UInt32.toNat_ofNat_of_lt' (m.word_lt place)
  have hzero := m.roundFits_zero address
  rw [writeRecords, Memory.readU32_eq, Memory.readU32_eq, Memory.roundChunk,
    Memory.roundStart_zero, Memory.roundLength_zero]
  by_cases hstart : address.toNat + 4 ≤ m.size
  · by_cases hlength : (address + 4).toNat + 4 ≤ m.size
    · rw [if_pos hstart, if_pos hlength]
      simp only [bind, Except.bind, Memory.slice_eq, hword]
      by_cases hslice : m.word address.toNat + m.word (address + 4).toNat ≤ m.size
      · rw [if_pos hslice, if_pos (hzero.2 ⟨⟨hstart, hlength⟩, hslice⟩)]
        rfl
      · rw [if_neg hslice, if_neg (mt hzero.1 fun hfits => hslice hfits.2)]
    · rw [if_pos hstart, if_neg hlength, if_neg (mt hzero.1 fun hfits => hlength hfits.1.2)]
      rfl
  · rw [if_neg hstart, if_neg (mt hzero.1 fun hfits => hstart hfits.1.1)]
    rfl

variable (address) in
/-- The records after the first one are those from the next address on. -/
theorem roundFits_succ : m.RoundFits (address + 8).toNat k ↔ m.RoundFits address.toNat (k + 1) := by
  rw [Memory.toNat_add_eq_around]
  exact m.roundFits_around_eight _ _

variable (m address) in
theorem map_roundChunk_succ (count : Nat) :
    (List.range (count + 1)).map (m.roundChunk address.toNat · stream) =
      m.roundChunk address.toNat 0 stream ::
        (List.range count).map (m.roundChunk (address + 8).toNat · stream) := by
  have height : (address + 8).toNat = Memory.around address.toNat 8 :=
    Memory.toNat_add_eq_around address 8
  rw [List.range_succ_eq_map, List.map_cons, List.map_map, height]
  simp only [Function.comp_def, Memory.roundChunk_around_eight]

variable (m address) in
theorem map_roundLength_succ (count : Nat) :
    (List.range (count + 1)).map (m.roundLength address.toNat ·) =
      m.roundLength address.toNat 0 ::
        (List.range count).map (m.roundLength (address + 8).toNat ·) := by
  have height : (address + 8).toNat = Memory.around address.toNat 8 :=
    Memory.toNat_add_eq_around address 8
  rw [List.range_succ_eq_map, List.map_cons, List.map_map, height]
  simp only [Function.comp_def, Memory.roundLength_around_eight]

/-- If all records fit, the bytes of all are forwarded. -/
theorem writeRecords_of_roundFits (h : ∀ k < count, m.RoundFits address.toNat k) (total : UInt32)
    (done : List Chunk) :
    writeRecords m stream count address total done =
      (done.reverse ++ (List.range count).map (m.roundChunk address.toNat · stream),
        .ok (total +
          UInt32.ofNat ((List.range count).map (m.roundLength address.toNat ·)).sum)) := by
  induction count generalizing address total done with
  | zero => simp [writeRecords]
  | succ count ih =>
    have htail : ∀ k < count, m.RoundFits (address + 8).toNat k := fun k hk =>
      (roundFits_succ address).2 (h (k + 1) (Nat.succ_lt_succ hk))
    rw [writeRecords_succ, if_pos (h 0 (Nat.succ_pos count)), ih htail, map_roundChunk_succ,
      map_roundLength_succ, List.sum_cons, UInt32.ofNat_add, UInt32.add_assoc, List.reverse_cons,
      List.append_assoc]
    rfl

/-- If some record does not fit, the bytes of the records before the first such one are forwarded.
-/
theorem writeRecords_of_not_roundFits (hk : k < count) (h : ∀ j < k, m.RoundFits address.toNat j)
    (hnot : ¬ m.RoundFits address.toNat k) (total : UInt32) (done : List Chunk) :
    writeRecords m stream count address total done =
      (done.reverse ++ (List.range k).map (m.roundChunk address.toNat · stream),
        .error .fault) := by
  obtain ⟨count, rfl⟩ := Nat.exists_eq_succ_of_ne_zero (Nat.ne_zero_of_lt hk)
  induction k generalizing address count total done with
  | zero => rw [writeRecords_succ, if_neg hnot, List.range_zero, List.map_nil, List.append_nil]
  | succ k ih =>
    obtain ⟨count, rfl⟩ := Nat.exists_eq_succ_of_ne_zero
      (Nat.ne_zero_of_lt (Nat.lt_of_succ_lt_succ hk))
    have htail : ∀ j < k, m.RoundFits (address + 8).toNat j := fun j hj =>
      (roundFits_succ address).2 (h (j + 1) (Nat.succ_lt_succ hj))
    rw [writeRecords_succ, if_pos (h 0 (Nat.succ_pos k)),
      ih htail (mt (roundFits_succ address).1 hnot) _ _ count (Nat.lt_of_succ_lt_succ hk),
      map_roundChunk_succ, List.reverse_cons, List.append_assoc]
    rfl

end Walk

end Sandbox.Guest
