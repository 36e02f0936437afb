import Sandbox.Proofs.Guest.Writing

/-!
# Records that turn around

A memory can have all `2 ^ 32` addresses. A write whose records do not lie inside such a memory is
still stopped at its end, if a number there would lie partly outside; but if the records begin at a
multiple of four, each number lies inside memory, and the walk goes on with the bytes at the
beginning of memory. In all other cases, also with the greatest addresses and counts, no record is
taken but those that lie inside memory, with addresses as natural numbers, and a write whose records
do not all lie there faults.

## Main definitions

* `WritesAll` : what a write does with records that are taken one by one.
* `TurnsAround` : the writes that go on at the beginning of memory.

## Main results

* `writesAll_invoke` : every write, with addresses around and around.
* `writesAll_of_not_turnsAround`, `fault_of_not_turnsAround` : the writes that do not turn around.
* `invoke_fdWrite_around` : what a write does in a memory of any size.
-/

namespace Sandbox.Guest

/-- What a write with `count` records does, if each of them fits or not and describes a chunk. The
chunks of the records before the first one that does not fit are forwarded. If all fit, the number
of their bytes is stored, if there is room for it. -/
structure WritesAll (s : Instance Console) (count countAt : Nat) (fits : Nat → Prop)
    (chunk : Nat → Chunk) (result : Except Stop UInt32) (after : Instance Console) : Prop where
  /-- A record that does not fit. -/
  stopped : ∀ k < count, (∀ j < k, fits j) → ¬ fits k →
    result = .ok 21 ∧ after =
      ⟨s.memory, { s.host with written := s.host.written ++ (List.range k).map chunk }⟩
  /-- All records fit. -/
  complete : (∀ k < count, fits k) →
    after.host = { s.host with written := s.host.written ++ (List.range count).map chunk } ∧
    (countAt + 4 ≤ s.memory.size → result = .ok 0 ∧
      after.memory = s.memory.put countAt (Memory.toBytes 4
        (((List.range count).map fun k => (chunk k).bytes.length).sum % 0x100000000))) ∧
    (s.memory.size < countAt + 4 → result = .ok 21 ∧ after.memory = s.memory)

/-- The writes that go on at the beginning of memory: memory has all addresses, and the records
begin at a multiple of four and do not end inside memory. -/
def TurnsAround (size records count : Nat) : Prop :=
  size = 0x100000000 ∧ records % 4 = 0 ∧ size < records + 8 * count

namespace WritesAll

variable {s after : Instance Console} {count countAt : Nat} {fits fits' : Nat → Prop}
  {chunk chunk' : Nat → Chunk} {result : Except Stop UInt32}

/-- A record has to be looked at only if all records before it fit. -/
theorem congr (h : WritesAll s count countAt fits chunk result after)
    (hfits : ∀ k < count, (∀ j < k, fits' j) → (fits k ↔ fits' k))
    (hchunk : ∀ k < count, fits' k → chunk k = chunk' k) :
    WritesAll s count countAt fits' chunk' result after := by
  have hbefore {k : Nat} (hk : k ≤ count) (hall : ∀ j < k, fits' j) : ∀ j < k, fits j :=
    fun j hj => (hfits j (Nat.lt_of_lt_of_le hj hk) fun i hi =>
      hall i (Nat.lt_trans hi hj)).2 (hall j hj)
  have hsame {k : Nat} (hk : k ≤ count) (hall : ∀ j < k, fits' j) :
      (List.range k).map chunk = (List.range k).map chunk' :=
    List.map_congr_left fun j hj =>
      have hj := List.mem_range.1 hj
      hchunk j (Nat.lt_of_lt_of_le hj hk) (hall j hj)
  refine ⟨fun k hk hall hnot => ?_, fun hall => ?_⟩
  · have hle := Nat.le_of_lt hk
    rw [← hsame hle hall]
    exact h.stopped k hk (hbefore hle hall) (mt (hfits k hk hall).1 hnot)
  · have hlengths : (List.range count).map (fun k => (chunk' k).bytes.length) =
        (List.range count).map (fun k => (chunk k).bytes.length) :=
      List.map_congr_left fun k hk => by
        have hk := List.mem_range.1 hk
        rw [hchunk k hk (hall k hk)]
    rw [← hsame (Nat.le_refl count) hall, hlengths]
    exact h.complete (hbefore (Nat.le_refl count) hall)

/-- A record that does not fit, wherever it is, makes the write fault. -/
theorem fault (h : WritesAll s count countAt fits chunk result after)
    (hnot : ∃ k < count, ¬ fits k) : result = .ok 21 ∧ after.memory = s.memory := by
  obtain hall | ⟨k, hk, hbefore, hfirst⟩ := forall_lt_or_first fits count
  · obtain ⟨k, hk, hnot⟩ := hnot
    exact absurd (hall k hk) hnot
  · obtain ⟨hresult, rfl⟩ := h.stopped k hk hbefore hfirst
    exact ⟨hresult, rfl⟩

/-- The writes that succeed. -/
theorem success_iff (h : WritesAll s count countAt fits chunk result after) :
    result = .ok 0 ↔ (∀ k < count, fits k) ∧ countAt + 4 ≤ s.memory.size := by
  have hne : (.ok 21 : Except Stop UInt32) ≠ .ok 0 := fun heq =>
    absurd (Except.ok.inj heq) (by decide)
  constructor
  · intro hresult
    have hall : ∀ k < count, fits k := fun k hk => Classical.byContradiction fun hnot =>
      hne ((h.fault ⟨k, hk, hnot⟩).1.symm.trans hresult)
    refine ⟨hall, Nat.not_lt.1 fun hroom => ?_⟩
    exact hne (((h.complete hall).2.2 hroom).1.symm.trans hresult)
  · exact fun ⟨hall, hroom⟩ => ((h.complete hall).2.1 hroom).1

end WritesAll

section Invoke

variable {s : Instance Console} (args : Args) {stream : Stream}

/-- Every write to the console, with addresses around and around. -/
theorem writesAll_invoke (hbound : s.host.bound = true)
    (hfd : signed (Args.word args 0) = descriptor stream) :
    let records := (Args.word args 1).toNat
    let (result, after) := Syscall.fdWrite.invoke args s
    WritesAll s (Args.word args 2).toNat (Args.word args 3).toNat (s.memory.RoundFits records)
      (s.memory.roundChunk records · stream) result after := by
  intro records
  have hsome : Stream.ofDescriptor? (signed (Args.word args 0)) = some stream := by
    rw [hfd, ofDescriptor?_descriptor]
  rw [invoke_fdWrite_eq hbound]
  refine ⟨fun k hk hbefore hnot => ?_, fun hall => ?_⟩
  · rw [fdWrite_of_error _ hsome (writeRecords_of_not_roundFits stream hk hbefore hnot 0 [])]
    exact ⟨rfl, rfl⟩
  · rw [fdWrite_of_ok _ hsome (writeRecords_of_roundFits stream hall 0 []), UInt32.zero_add,
      UInt32.toNat_ofNat']
    have hlengths (k : Nat) : (s.memory.roundChunk records k stream).bytes.length =
        s.memory.roundLength records k := Memory.length_take _ _ _
    by_cases hroom : (Args.word args 3).toNat + 4 ≤ s.memory.size
    · rw [if_pos hroom]
      simp only [hlengths]
      exact ⟨rfl, fun _ => ⟨rfl, rfl⟩, fun hnone => absurd hroom (Nat.not_le.2 hnone)⟩
    · rw [if_neg hroom]
      exact ⟨rfl, fun hroom' => absurd hroom' hroom, fun _ => ⟨rfl, rfl⟩⟩

end Invoke

/-! ### Records that turn around -/

namespace Memory

variable {m : Memory} {records count k : Nat}

theorem roundFits_iff_sliceFits (h : TurnsAround m.size records count) :
    m.RoundFits records k ↔ m.SliceFits records k := by
  obtain ⟨hsize, hrecords, -⟩ := h
  refine and_iff_right ?_
  unfold around
  omega

/-- A write that does not turn around takes only records that lie inside memory. -/
theorem roundFits_iff_recordFits (hsize : m.size ≤ 0x100000000) (hrecords : records < 0x100000000)
    (h : ¬ TurnsAround m.size records count) (hk : k < count)
    (hbefore : ∀ j < k, m.RecordFits records j) :
    m.RoundFits records k ↔ m.RecordFits records k := by
  by_cases hinside : records + 8 * count ≤ m.size
  · exact roundFits_iff (by omega)
  · have hturns : m.size = 0x100000000 → records % 4 ≠ 0 := fun hfull haligned =>
      h ⟨hfull, haligned, Nat.not_le.1 hinside⟩
    exact roundFits_iff_of_lt hsize hturns (lt_of_recordFits hsize hturns hrecords hbefore)

end Memory

/-- A write to the console, in a memory with up to all `2 ^ 32` addresses. If it does not turn
around, the records that count are those whose addresses, as natural numbers, lie inside memory with
the bytes that they describe; so it faults if there are records and they do not end inside memory.
If it turns around, its records lie inside memory wherever they are, and it succeeds exactly if the
bytes that they describe do so too, and there is room for the count. -/
theorem invoke_fdWrite_around {s : Instance Console} (hbound : s.host.bound = true)
    (hsize : s.memory.size ≤ 0x100000000) (args : Args) {stream : Stream}
    (hfd : signed (Args.word args 0) = descriptor stream) :
    let m := s.memory
    let records := (Args.word args 1).toNat
    let count := (Args.word args 2).toNat
    let countAt := (Args.word args 3).toNat
    let (result, after) := Syscall.fdWrite.invoke args s
    (¬ TurnsAround m.size records count →
      WritesAll s count countAt (m.RecordFits records) (m.recordChunk records · stream) result
        after ∧
      (0 < count → m.size < records + 8 * count → result = .ok 21 ∧ after.memory = m)) ∧
    (TurnsAround m.size records count →
      WritesAll s count countAt (m.SliceFits records) (m.roundChunk records · stream) result
        after ∧
      (result = .ok 0 ↔
        (∀ k < count, m.SliceFits records k) ∧ countAt + 4 ≤ 0x100000000)) := by
  intro m records count countAt
  have hwrites := writesAll_invoke args hbound hfd
  generalize Syscall.fdWrite.invoke args s = answer at hwrites
  obtain ⟨result, after⟩ := answer
  refine ⟨fun hstraight => ?_, fun hturns => ?_⟩
  · have hwrites' : WritesAll s count countAt (m.RecordFits records)
        (m.recordChunk records · stream) result after :=
      hwrites.congr
        (fun k hk hbefore => Memory.roundFits_iff_recordFits hsize (Args.word args 1).toNat_lt
          hstraight hk hbefore)
        fun k _ hfits => Memory.roundChunk_eq (Nat.le_trans hfits.1 hsize) stream
    refine ⟨hwrites', fun hsome hbeyond => hwrites'.fault ⟨count - 1, ?_, fun hfits => ?_⟩⟩
    · exact Nat.sub_one_lt_of_lt hsome
    · have := hfits.1
      omega
  · have hwrites' : WritesAll s count countAt (m.SliceFits records)
        (m.roundChunk records · stream) result after :=
      hwrites.congr (fun k _ _ => Memory.roundFits_iff_sliceFits hturns) fun _ _ _ => rfl
    refine ⟨hwrites', ?_⟩
    rw [hwrites'.success_iff, hturns.1]

/-! ### A memory with all addresses -/

section Sample

/-- A memory with all addresses that begins with a record of the three bytes behind it. -/
def fullMemory : Memory :=
  (Memory.zeros 0x100000000).put 0 [8, 0, 0, 0, 3, 0, 0, 0, 0x6C, 0x6F, 0x77]

/-- A guest with this memory. -/
def fullInstance : Instance Console :=
  ⟨fullMemory, { Console.start with bound := true }⟩

theorem get_fullMemory (i : Nat) :
    fullMemory.get i = [8, 0, 0, 0, 3, 0, 0, 0, 0x6C, 0x6F, 0x77].getD i 0 := by
  rw [fullMemory, Memory.get_put]
  split
  · rfl
  · next hbeyond =>
    rw [Memory.get_zeros, List.getD_eq_getElem?_getD,
      List.getElem?_eq_none (by simpa using hbeyond)]
    rfl

/-- Two records from seven bytes before the end of memory are not taken from its beginning. -/
theorem invoke_fdWrite_around_full :
    let s := fullInstance
    let (result, after) := Syscall.fdWrite.invoke [1, 0xFFFFFFF9, 2, 64] s
    s.host.bound = true ∧ s.memory.size ≤ 0x100000000 ∧ ¬ TurnsAround s.memory.size 0xFFFFFFF9 2 ∧
      result = .ok 21 ∧ after.memory = s.memory := by
  intro s
  have hsize : s.memory.size = 0x100000000 := Memory.size_put _ _ _
  have hstraight : ¬ TurnsAround s.memory.size 0xFFFFFFF9 2 := fun h => absurd h.2.1 (by decide)
  have hfd : signed (Args.word [1, 0xFFFFFFF9, 2, 64] 0) = descriptor .stdout := rfl
  have h := (invoke_fdWrite_around (s := s) rfl (Nat.le_of_eq hsize) _ hfd).1 hstraight
  refine ⟨rfl, Nat.le_of_eq hsize, hstraight, h.2 (by decide) ?_⟩
  rw [hsize]
  decide

/-- Two records from eight bytes before the end of memory: the second is at the beginning, and what
it describes is forwarded. -/
theorem fdWrite_turns_around :
    let s := fullInstance
    let (result, after) := Syscall.fdWrite.invoke [1, 0xFFFFFFF8, 2, 64] s
    s.memory.size = 0x100000000 ∧ s.memory.size < 0xFFFFFFF8 + 8 * 2 ∧ result = .ok 0 ∧
      after.host.written = #[⟨.stdout, []⟩, ⟨.stdout, [0x6C, 0x6F, 0x77]⟩] := by
  intro s
  have hsize : s.memory.size = 0x100000000 := Memory.size_put _ _ _
  have hturns : TurnsAround s.memory.size 0xFFFFFFF8 2 :=
    ⟨hsize, by decide, by rw [hsize]; decide⟩
  have hfd : signed (Args.word [1, 0xFFFFFFF8, 2, 64] 0) = descriptor .stdout := rfl
  have hword (place : Nat) : s.memory.word place =
      (fullMemory.get place).toNat + 256 * ((fullMemory.get (place + 1)).toNat +
        256 * ((fullMemory.get (place + 2)).toNat + 256 * (fullMemory.get (place + 3)).toNat)) :=
    Memory.word_eq _ _
  simp only [get_fullMemory] at hword
  have hfirst : s.memory.roundStart 0xFFFFFFF8 0 = 0 ∧ s.memory.roundLength 0xFFFFFFF8 0 = 0 :=
    ⟨(hword _).trans (by decide +kernel), (hword _).trans (by decide +kernel)⟩
  have hsecond : s.memory.roundStart 0xFFFFFFF8 1 = 8 ∧ s.memory.roundLength 0xFFFFFFF8 1 = 3 :=
    ⟨(hword _).trans (by decide +kernel), (hword _).trans (by decide +kernel)⟩
  have hall : ∀ k < 2, s.memory.RoundFits 0xFFFFFFF8 k := by
    intro k hk
    rw [Memory.roundFits_iff_sliceFits hturns, Memory.SliceFits, hsize]
    obtain rfl | rfl : k = 0 ∨ k = 1 := by omega
    · rw [hfirst.1, hfirst.2]
      decide
    · rw [hsecond.1, hsecond.2]
      decide
  obtain ⟨hhost, hstored, -⟩ := (writesAll_invoke (s := s) _ rfl hfd).complete hall
  have hroom : (64 : Nat) + 4 ≤ s.memory.size := by
    rw [hsize]
    decide
  refine ⟨hsize, by rw [hsize]; decide, (hstored hroom).1, ?_⟩
  have hlow : s.memory.take 8 3 = [0x6C, 0x6F, 0x77] := by
    change [fullMemory.get 8, fullMemory.get 9, fullMemory.get 10] = _
    simp only [get_fullMemory]
    decide
  rw [hhost]
  change #[] ++ [s.memory.roundChunk 0xFFFFFFF8 0 .stdout,
    s.memory.roundChunk 0xFFFFFFF8 1 .stdout] = _
  rw [Memory.roundChunk, Memory.roundChunk, hfirst.1, hfirst.2, hsecond.1, hsecond.2, hlow]
  rfl

end Sample

end Sandbox.Guest
