import Sandbox.Proofs.Guest.Walking

/-!
# Writing records

A write names records, each with the address and the length of some bytes. Addresses of records are
numbers of 32 bits and could wrap around, but the walk over the records stops at the first one that
does not fit before that happens: in a memory of less than `2 ^ 32` bytes everything is as if
addresses were natural numbers. The bytes of all records before the first one that does not fit are
forwarded, one chunk for each. Memory changes only if the count of bytes is stored at the end, so
all records are read as memory held them before, wherever the count goes.

## Main definitions

* `Memory.RecordFits` : a record lies inside memory, and so do the bytes that it describes.
* `Memory.recordChunk` : the chunk that a record describes.

## Main results

* `writeRecords_eq_of_fits`, `writeRecords_eq_of_not_fits` : the walk over the records.
* `invoke_fdWrite` : what a write does.
-/

namespace Sandbox.Guest

namespace Memory

variable (m : Memory) (records k : Nat)

/-- The address that record `k` holds, among the records from an address on. -/
def recordStart : Nat :=
  m.word (records + 8 * k)

/-- The length that record `k` holds. -/
def recordLength : Nat :=
  m.word (records + 8 * k + 4)

/-- Record `k` lies inside memory, and so do the bytes that it describes. -/
def RecordFits : Prop :=
  records + 8 * k + 8 ≤ m.size ∧ m.recordStart records k + m.recordLength records k ≤ m.size

/-- The chunk of the bytes that record `k` describes. -/
def recordChunk (stream : Stream) : Chunk :=
  ⟨stream, m.take (m.recordStart records k) (m.recordLength records k)⟩

variable {m} {records k}

/-! ### Records that do not turn around -/

section Straight

variable (h : records + 8 * k + 8 ≤ 0x100000000)

include h

theorem roundStart_eq : m.roundStart records k = m.recordStart records k := by
  rw [roundStart, around_of_lt (by omega), recordStart]

theorem roundLength_eq : m.roundLength records k = m.recordLength records k := by
  rw [roundLength, around_of_lt (by omega), recordLength, Nat.add_assoc]

theorem roundChunk_eq (stream : Stream) :
    m.roundChunk records k stream = m.recordChunk records k stream := by
  rw [roundChunk, roundStart_eq h, roundLength_eq h, recordChunk]

theorem roundFits_iff : m.RoundFits records k ↔ m.RecordFits records k := by
  rw [RoundFits, SliceFits, RecordFits, roundStart_eq h, roundLength_eq h,
    around_of_lt (by omega), around_of_lt (by omega)]
  refine and_congr_left fun _ => ?_
  omega

end Straight

/-- A record that fits with natural numbers as addresses fits. -/
theorem RecordFits.roundFits (h : m.RecordFits records k) (hsize : m.size ≤ 0x100000000) :
    m.RoundFits records k :=
  (roundFits_iff (Nat.le_trans h.1 hsize)).2 h

theorem map_roundChunk_eq {count : Nat} (h : ∀ k < count, m.RecordFits records k)
    (hsize : m.size ≤ 0x100000000) (stream : Stream) :
    (List.range count).map (m.roundChunk records · stream) =
      (List.range count).map (m.recordChunk records · stream) :=
  List.map_congr_left fun k hk =>
    roundChunk_eq (Nat.le_trans (h k (List.mem_range.1 hk)).1 hsize) stream

/-- No record fits that has its first byte inside memory and turns around, unless memory has all
addresses and the record turns around between its two numbers. -/
theorem roundFits_iff_of_lt (hsize : m.size ≤ 0x100000000)
    (hturns : m.size = 0x100000000 → records % 4 ≠ 0) (hbegins : records + 8 * k < 0x100000000) :
    m.RoundFits records k ↔ m.RecordFits records k := by
  by_cases h : records + 8 * k + 8 ≤ 0x100000000
  · exact roundFits_iff h
  · refine iff_of_false (fun hfits => ?_) fun hfits => ?_
    · obtain ⟨⟨hstart, hlength⟩, -⟩ := hfits
      unfold around at hstart hlength
      omega
    · have := hfits.1
      omega

/-- Where a walk has come to, if all records before fit. -/
theorem lt_of_recordFits (hsize : m.size ≤ 0x100000000)
    (hturns : m.size = 0x100000000 → records % 4 ≠ 0) (hrecords : records < 0x100000000)
    (hbefore : ∀ j < k, m.RecordFits records j) : records + 8 * k < 0x100000000 := by
  cases k with
  | zero => exact hrecords
  | succ k =>
    have := (hbefore k (Nat.lt_succ_self k)).1
    omega

end Memory

/-! ### The walk over the records -/

section Walk

variable {m : Memory} (hm : m.size < 0x100000000) (stream : Stream)

include hm

/-- If all records fit, the bytes of all are forwarded. -/
theorem writeRecords_eq_of_fits {a : UInt32} {count : Nat}
    (h : ∀ k < count, m.RecordFits a.toNat k) (total : UInt32) (done : List Chunk) :
    writeRecords m stream count a total done =
      (done.reverse ++ (List.range count).map (m.recordChunk a.toNat · stream),
        .ok (total + UInt32.ofNat ((List.range count).map (m.recordLength a.toNat ·)).sum)) := by
  have hsize := Nat.le_of_lt hm
  have hlengths : (List.range count).map (m.roundLength a.toNat ·) =
      (List.range count).map (m.recordLength a.toNat ·) :=
    List.map_congr_left fun k hk =>
      Memory.roundLength_eq (Nat.le_trans (h k (List.mem_range.1 hk)).1 hsize)
  rw [writeRecords_of_roundFits stream fun k hk => (h k hk).roundFits hsize,
    Memory.map_roundChunk_eq h hsize, hlengths]

/-- If some record does not fit, the bytes of the records before the first such one are forwarded.
-/
theorem writeRecords_eq_of_not_fits {a : UInt32} {count k : Nat} (hk : k < count)
    (h : ∀ j < k, m.RecordFits a.toNat j) (hnot : ¬ m.RecordFits a.toNat k) (total : UInt32)
    (done : List Chunk) :
    writeRecords m stream count a total done =
      (done.reverse ++ (List.range k).map (m.recordChunk a.toNat · stream), .error .fault) := by
  have hsize := Nat.le_of_lt hm
  have hturns : m.size = 0x100000000 → a.toNat % 4 ≠ 0 := fun hfull =>
    absurd hfull (Nat.ne_of_lt hm)
  have hnot' : ¬ m.RoundFits a.toNat k := by
    rwa [Memory.roundFits_iff_of_lt hsize hturns
      (Memory.lt_of_recordFits hsize hturns a.toNat_lt h)]
  rw [writeRecords_of_not_roundFits stream hk (fun j hj => (h j hj).roundFits hsize) hnot',
    Memory.map_roundChunk_eq h hsize]

end Walk

/-! ### The system call -/

section Answer

variable {m : Memory} (hm : m.size < 0x100000000) {fd : UInt32} (records count countAt : UInt32)

theorem fdWrite_of_none (h : Stream.ofDescriptor? (signed fd) = none) :
    fdWrite m fd records count countAt = ⟨.badDescriptor, m, []⟩ := by
  simp only [fdWrite, h]

variable {stream : Stream} (hfd : Stream.ofDescriptor? (signed fd) = some stream)
  {chunks : List Chunk}

include hfd

variable {records count} in
theorem fdWrite_of_error {errno : Errno}
    (h : writeRecords m stream count.toNat records 0 [] = (chunks, .error errno)) :
    fdWrite m fd records count countAt = ⟨errno, m, chunks⟩ := by
  simp only [fdWrite, hfd, h]

variable {records count} in
theorem fdWrite_of_ok {total : UInt32}
    (h : writeRecords m stream count.toNat records 0 [] = (chunks, .ok total)) :
    fdWrite m fd records count countAt =
      if countAt.toNat + 4 ≤ m.size then
        ⟨.success, m.put countAt.toNat (Memory.toBytes 4 total.toNat), chunks⟩
      else ⟨.fault, m, chunks⟩ := by
  by_cases hroom : countAt.toNat + 4 ≤ m.size <;>
    simp only [fdWrite, hfd, h, Memory.writeU32_eq, hroom, if_true, if_false]

include hm

theorem fdWrite_of_not_fits {k : Nat} (hk : k < count.toNat)
    (h : ∀ j < k, m.RecordFits records.toNat j) (hnot : ¬ m.RecordFits records.toNat k) :
    fdWrite m fd records count countAt =
      ⟨.fault, m, (List.range k).map (m.recordChunk records.toNat · stream)⟩ :=
  fdWrite_of_error countAt hfd (writeRecords_eq_of_not_fits hm stream hk h hnot 0 [])

theorem fdWrite_of_fits (h : ∀ k < count.toNat, m.RecordFits records.toNat k) :
    let total := ((List.range count.toNat).map (m.recordLength records.toNat ·)).sum
    let chunks := (List.range count.toNat).map (m.recordChunk records.toNat · stream)
    fdWrite m fd records count countAt =
      if countAt.toNat + 4 ≤ m.size then
        ⟨.success, m.put countAt.toNat (Memory.toBytes 4 (total % 0x100000000)), chunks⟩
      else ⟨.fault, m, chunks⟩ := by
  have hanswer := fdWrite_of_ok countAt hfd (writeRecords_eq_of_fits hm stream h 0 [])
  rw [UInt32.zero_add, UInt32.toNat_ofNat'] at hanswer
  exact hanswer

end Answer

/-- Once the memory is known, a write answers with its error number and adds its chunks to what was
written. -/
theorem invoke_fdWrite_eq {s : Instance Console} (hbound : s.host.bound = true) (args : Args) :
    Syscall.fdWrite.invoke args s =
      let answer := fdWrite s.memory (Args.word args 0) (Args.word args 1) (Args.word args 2)
        (Args.word args 3)
      (.ok (UInt32.ofNat answer.errno.code),
        ⟨answer.memory, { s.host with written := s.host.written ++ answer.chunks }⟩) := by
  simp [Syscall.invoke, Syscall.needsMemory, Syscall.answer, hbound]

/-- The descriptor of a stream. -/
def descriptor : Stream → Int
  | .stdout => 1
  | .stderr => 2

theorem ofDescriptor?_descriptor (stream : Stream) :
    Stream.ofDescriptor? (descriptor stream) = some stream := by
  cases stream <;> rfl

/-- A write, in a memory of less than `2 ^ 32` bytes, whatever overlaps. To another descriptor than
those of the console it answers that the descriptor is not open and changes nothing. Otherwise, if
record `k` is the first one that does not fit, it forwards the bytes of the records before, answers
with a fault and leaves memory as it was. If all records fit, it forwards the bytes of all, as
memory held them before, and stores their number modulo `2 ^ 32`; if that number does not fit into
memory, it answers with a fault and leaves memory as it was. -/
theorem invoke_fdWrite {s : Instance Console} (hbound : s.host.bound = true)
    (hsize : s.memory.size < 0x100000000) (args : Args) :
    let fd := signed (Args.word args 0)
    let records := (Args.word args 1).toNat
    let count := (Args.word args 2).toNat
    let countAt := (Args.word args 3).toNat
    let chunks (stream : Stream) (k : Nat) :=
      (List.range k).map (s.memory.recordChunk records · stream)
    let (result, after) := Syscall.fdWrite.invoke args s
    (fd ≠ 1 → fd ≠ 2 → result = .ok 8 ∧ after = s) ∧
      ∀ stream : Stream, fd = descriptor stream →
        (∀ k < count, (∀ j < k, s.memory.RecordFits records j) →
          ¬ s.memory.RecordFits records k →
            result = .ok 21 ∧ after.memory = s.memory ∧
              after.host = { s.host with written := s.host.written ++ chunks stream k }) ∧
        ((∀ k < count, s.memory.RecordFits records k) →
          after.host = { s.host with written := s.host.written ++ chunks stream count } ∧
            (countAt + 4 ≤ s.memory.size →
              result = .ok 0 ∧ after.memory.size = s.memory.size ∧
                after.memory.word countAt =
                  ((List.range count).map (s.memory.recordLength records ·)).sum % 0x100000000 ∧
                ∀ i, i < countAt ∨ countAt + 4 ≤ i → after.memory.get i = s.memory.get i) ∧
            (s.memory.size < countAt + 4 → result = .ok 21 ∧ after.memory = s.memory)) := by
  intro fd records count countAt chunks
  rw [invoke_fdWrite_eq hbound]
  refine ⟨fun h1 h2 => ?_, fun stream hfd => ?_⟩
  · have hnone : Stream.ofDescriptor? fd = none := by
      rw [Stream.ofDescriptor?, if_neg h1, if_neg h2]
    rw [fdWrite_of_none _ _ _ hnone]
    exact ⟨rfl, by simp⟩
  have hsome : Stream.ofDescriptor? fd = some stream := by
    rw [hfd, ofDescriptor?_descriptor]
  refine ⟨fun k hk hbefore hnot => ?_, fun hall => ?_⟩
  · rw [fdWrite_of_not_fits hsize _ _ _ hsome hk hbefore hnot]
    exact ⟨rfl, rfl, rfl⟩
  · have hanswer := fdWrite_of_fits hsize _ _ (Args.word args 3) hsome hall
    dsimp only at hanswer
    by_cases hfits : countAt + 4 ≤ s.memory.size
    · rw [hanswer, if_pos hfits]
      refine ⟨rfl, fun _ => ⟨rfl, Memory.size_put _ _ _, ?_, fun i hi => ?_⟩,
        fun hnot => absurd hnot (by omega)⟩
      · exact (Memory.word_put_toBytes _ _ _).trans (Nat.mod_mod _ _)
      · dsimp only
        rw [Memory.get_put, Memory.length_toBytes, if_neg (by omega)]
    · rw [hanswer, if_neg hfits]
      exact ⟨rfl, fun hnot => absurd hnot hfits, fun _ => ⟨rfl, rfl⟩⟩

/-- One record that describes the eight bytes that it consists of, and a count that is stored over
it: the bytes are forwarded as they were before. -/
theorem invoke_fdWrite_over_record :
    let s : Instance Console := ⟨(Memory.zeros 16).put 4 [8], { Console.start with bound := true }⟩
    let (result, after) := Syscall.fdWrite.invoke [1, 0, 1, 0] s
    s.host.bound = true ∧ s.memory.size < 0x100000000 ∧ result = .ok 0 ∧ after.memory.word 0 = 8 ∧
      after.host.written = #[⟨.stdout, [0, 0, 0, 0, 8, 0, 0, 0]⟩] := by
  intro s
  have hget (i : Nat) : s.memory.get i = if i = 4 then 8 else 0 := by
    rw [Memory.get_put]
    by_cases hi : i = 4
    · simp [hi]
    · rw [if_neg (by simp only [List.length_singleton]; omega), if_neg hi, Memory.get_zeros]
  have hstart : s.memory.recordStart 0 0 = 0 := by
    simp [Memory.recordStart, Memory.word_eq, hget]
  have hlength : s.memory.recordLength 0 0 = 8 := by
    simp [Memory.recordLength, Memory.word_eq, hget]
  have hall : ∀ k < 1, s.memory.RecordFits 0 k := by
    intro k hk
    obtain rfl : k = 0 := by omega
    refine ⟨by decide, ?_⟩
    rw [hstart, hlength]
    decide
  have h := (invoke_fdWrite (s := s) rfl (by decide) [1, 0, 1, 0]).2 .stdout rfl
  obtain ⟨hhost, hstored, -⟩ := h.2 hall
  obtain ⟨hresult, -, hword, -⟩ := hstored (by decide)
  refine ⟨rfl, by decide, hresult, ?_, ?_⟩
  · refine hword.trans ?_
    change (s.memory.recordLength 0 0 + 0) % 0x100000000 = 8
    rw [hlength]
  · rw [hhost]
    change #[] ++ [s.memory.recordChunk 0 0 .stdout] = _
    rw [Memory.recordChunk, hstart, hlength]
    simp [Memory.take, List.range', hget]

end Sandbox.Guest
