import Mathlib.Algebra.Order.BigOperators.Group.List
import Mathlib.Algebra.Order.Ring.Nat
import Sandbox.Proofs.Guest.Writing

/-!
# The count that a write stores

A write counts the bytes that it forwards in a number of 32 bits, which starts again from zero when
it is full. Records may describe the same bytes many times, so that the bytes forwarded are not
bounded by the size of memory, but by its size times the number of records that it has room for. The
number stored is right in all memories for which this bound has 32 bits, those of one or two pages
among them, and in no others: a memory of three pages has room for enough records of its whole
length.

## Main definitions

* `byteCount` : the number of bytes of chunks.
* `CountsTruly` : all successful writes in memories of a size store the number of bytes forwarded.
* `Memory.crowded` : a memory of records which all describe the same bytes.

## Main results

* `toNat_of_writeRecords` : what the walk over the records counts.
* `byteCount_le_of_writeRecords` : the bytes that a write can forward.
* `invoke_fdWrite_crowded` : the write of a crowded memory.
* `countsTruly_iff` : the sizes of memory in which the number stored is right.
* `stored_count` : the number stored is right up to multiples of `2 ^ 32`, and where it is right.
-/

namespace Sandbox.Guest

/-- The number of bytes of chunks. -/
def byteCount (chunks : List Chunk) : Nat :=
  (chunks.map fun chunk => chunk.bytes.length).sum

@[simp] theorem byteCount_nil : byteCount [] = 0 := rfl

@[simp] theorem byteCount_cons (chunk : Chunk) (chunks : List Chunk) :
    byteCount (chunk :: chunks) = chunk.bytes.length + byteCount chunks :=
  List.sum_cons

/-- In memories of a size, the number that a successful write stores is the number of bytes that it
forwarded. -/
def CountsTruly (size : Nat) : Prop :=
  ∀ (s after : Instance Console) (args : Args) (chunks : List Chunk),
    s.host.bound = true → s.memory.size = size →
      Syscall.fdWrite.invoke args s = (.ok 0, after) →
        after.host.written = s.host.written ++ chunks →
          after.memory.word (Args.word args 3).toNat = byteCount chunks

/-! ### What is counted -/

section Walk

variable {m : Memory} {stream : Stream}

variable (m stream) in
/-- The walk ends at a record out of bounds, or goes on behind it. -/
theorem writeRecords_succ_cases (count : Nat) (address total : UInt32) (done : List Chunk) :
    writeRecords m stream (count + 1) address total done = (done.reverse, .error .fault) ∨
      ∃ (length : UInt32) (bytes : List UInt8), bytes.length = length.toNat ∧
        writeRecords m stream (count + 1) address total done =
          writeRecords m stream count (address + 8) (total + length)
            (⟨stream, bytes⟩ :: done) := by
  rw [writeRecords_succ]
  split
  · refine .inr ⟨_, _, ?_, rfl⟩
    rw [Memory.length_take]
    exact (UInt32.toNat_ofNat_of_lt' (m.word_lt _)).symm
  · exact .inl rfl

/-- A walk that does not come to its end faults. -/
theorem fault_of_writeRecords {count : Nat} {address total : UInt32} {done chunks : List Chunk}
    {errno : Errno} (h : writeRecords m stream count address total done = (chunks, .error errno)) :
    errno = .fault := by
  induction count generalizing address total done with
  | zero => cases h
  | succ count ih =>
    rcases writeRecords_succ_cases m stream count address total done with
      hends | ⟨length, bytes, -, hgoes⟩
    · rw [hends] at h
      exact (Except.error.inj (Prod.mk.inj h).2).symm
    · exact ih (hgoes ▸ h)

/-- The count is the number of the bytes forwarded, up to multiples of `2 ^ 32`. -/
theorem toNat_of_writeRecords {count : Nat} {address total n : UInt32} {done chunks : List Chunk}
    (h : writeRecords m stream count address total done = (chunks, .ok n)) :
    ∃ new, chunks = done.reverse ++ new ∧
      n.toNat = (total.toNat + byteCount new) % 0x100000000 := by
  induction count generalizing address total done with
  | zero =>
    obtain ⟨rfl, hn⟩ := Prod.mk.inj h
    obtain rfl := Except.ok.inj hn
    refine ⟨[], (List.append_nil _).symm, ?_⟩
    rw [byteCount_nil, Nat.add_zero, Nat.mod_eq_of_lt total.toNat_lt]
  | succ count ih =>
    rcases writeRecords_succ_cases m stream count address total done with
      hends | ⟨length, bytes, hbytes, hgoes⟩
    · rw [hends] at h
      cases h
    · rw [hgoes] at h
      obtain ⟨new, rfl, hn⟩ := ih h
      refine ⟨⟨stream, bytes⟩ :: new, by simp, ?_⟩
      rw [hn, UInt32.toNat_add, byteCount_cons, hbytes]
      omega

/-- In a memory of less than `2 ^ 32` bytes, all records fit if the walk comes to its end. -/
theorem recordFits_of_writeRecords (hm : m.size < 0x100000000) {count : Nat}
    {address total n : UInt32} {done chunks : List Chunk}
    (h : writeRecords m stream count address total done = (chunks, .ok n)) :
    ∀ k < count, m.RecordFits address.toNat k := by
  obtain hall | ⟨k, hk, hbefore, hnot⟩ := forall_lt_or_first (m.RecordFits address.toNat) count
  · exact hall
  · rw [writeRecords_eq_of_not_fits hm stream hk hbefore hnot] at h
    cases h

/-- A write forwards at most the whole memory for each record that memory has room for. -/
theorem byteCount_le_of_writeRecords (hm : m.size < 0x100000000) {count : Nat}
    {address n : UInt32} {chunks : List Chunk}
    (h : writeRecords m stream count address 0 [] = (chunks, .ok n)) :
    byteCount chunks ≤ m.size / 8 * m.size := by
  have hfits := recordFits_of_writeRecords hm h
  rw [writeRecords_eq_of_fits hm stream hfits] at h
  obtain ⟨rfl, -⟩ := Prod.mk.inj h
  have hroom : count ≤ m.size / 8 := by
    cases count with
    | zero => exact Nat.zero_le _
    | succ count =>
      have := (hfits count (Nat.lt_succ_self count)).1
      omega
  have hlengths : ∀ n ∈ (List.range count).map (m.recordLength address.toNat), n ≤ m.size := by
    intro n hn
    obtain ⟨k, hk, rfl⟩ := List.mem_map.mp hn
    have := (hfits k (List.mem_range.mp hk)).2
    omega
  calc byteCount ([].reverse ++ (List.range count).map (m.recordChunk address.toNat · stream))
      = ((List.range count).map (m.recordLength address.toNat)).sum := by
        simp [byteCount, Memory.recordChunk, Function.comp_def]
    _ ≤ count * m.size := by
        simpa using List.sum_le_card_nsmul _ m.size hlengths
    _ ≤ m.size / 8 * m.size := Nat.mul_le_mul_right _ hroom

end Walk

/-! ### A crowded memory -/

namespace Memory

/-- The bytes of records that all describe the first `length` bytes of memory, by address. -/
def crowdByte (length i : Nat) : UInt8 :=
  if i % 8 < 4 then 0 else UInt8.ofNat (length / 256 ^ (i % 8 - 4))

/-- A memory that begins with `count` records, all of which describe its first `length` bytes. -/
def crowded (size count length : Nat) : Memory :=
  (zeros size).put 0 ((List.range (8 * count)).map (crowdByte length))

variable (size count length : Nat)

@[simp] theorem size_crowded : (crowded size count length).size = size :=
  size_put _ _ _

theorem get_crowded {i : Nat} (hi : i < 8 * count) :
    (crowded size count length).get i = crowdByte length i := by
  rw [crowded, get_put, if_pos (by simpa using hi), Nat.sub_zero, List.getD_eq_getElem?_getD,
    List.getElem?_map, List.getElem?_range hi]
  rfl

variable {count length} {k : Nat} (hk : k < count)

include hk

theorem word_crowded_start : (crowded size count length).word (8 * k) = 0 := by
  have hget (j : Nat) (hj : j < 4) : (crowded size count length).get (8 * k + j) = 0 := by
    rw [get_crowded size count length (by omega), crowdByte, if_pos (by omega)]
  have h0 := hget 0 (by omega)
  rw [Nat.add_zero] at h0
  rw [word_eq, h0, hget 1 (by omega), hget 2 (by omega), hget 3 (by omega)]
  rfl

theorem word_crowded_length (hlength : length < 0x100000000) :
    (crowded size count length).word (8 * k + 4) = length := by
  have hget (j : Nat) (hj : j < 4) :
      ((crowded size count length).get (8 * k + 4 + j)).toNat = length / 256 ^ j % 256 := by
    rw [get_crowded size count length (by omega), crowdByte, if_neg (by omega),
      show (8 * k + 4 + j) % 8 - 4 = j by omega, UInt8.toNat_ofNat']
  have h0 := hget 0 (by omega)
  rw [Nat.add_zero] at h0
  rw [word_eq, h0, hget 1 (by omega), hget 2 (by omega), hget 3 (by omega)]
  omega

end Memory

/-- All records of a crowded memory fit, and they describe the same bytes. -/
theorem writeRecords_crowded {size count length : Nat} (stream : Stream)
    (hroom : 8 * count ≤ size) (hlength : length ≤ size) (hword : length < 0x100000000)
    (hwrap : 8 * count < 0x100000000) :
    let m := Memory.crowded size count length
    writeRecords m stream count 0 0 [] =
      (List.replicate count ⟨stream, m.take 0 length⟩, .ok (UInt32.ofNat (count * length))) := by
  intro m
  have hends (k : Nat) (hk : k < count) : 0 + 8 * k + 8 ≤ 0x100000000 := by omega
  have hstarts (k : Nat) (hk : k < count) : m.roundStart 0 k = 0 := by
    rw [Memory.roundStart_eq (hends k hk), Memory.recordStart, Nat.zero_add]
    exact Memory.word_crowded_start size hk
  have hlengths (k : Nat) (hk : k < count) : m.roundLength 0 k = length := by
    rw [Memory.roundLength_eq (hends k hk), Memory.recordLength, Nat.zero_add]
    exact Memory.word_crowded_length size hk hword
  have hfits (k : Nat) (hk : k < count) : m.RoundFits 0 k := by
    rw [Memory.roundFits_iff (hends k hk), Memory.RecordFits,
      ← Memory.roundStart_eq (hends k hk), ← Memory.roundLength_eq (hends k hk), hstarts k hk,
      hlengths k hk, Memory.size_crowded]
    omega
  have hchunks : (List.range count).map (m.roundChunk 0 · stream) =
      List.replicate count ⟨stream, m.take 0 length⟩ := by
    refine List.eq_replicate_iff.2 ⟨by simp, fun chunk hchunk => ?_⟩
    obtain ⟨k, hk, rfl⟩ := List.mem_map.1 hchunk
    have hk := List.mem_range.1 hk
    rw [Memory.roundChunk, hstarts k hk, hlengths k hk]
  have htotal : (List.range count).map (m.roundLength 0 ·) = List.replicate count length := by
    refine List.eq_replicate_iff.2 ⟨by simp, fun n hn => ?_⟩
    obtain ⟨k, hk, rfl⟩ := List.mem_map.1 hn
    exact hlengths k (List.mem_range.1 hk)
  have hwalk : writeRecords m stream count 0 0 [] =
      ([].reverse ++ (List.range count).map (m.roundChunk 0 · stream),
        .ok (0 + UInt32.ofNat ((List.range count).map (m.roundLength 0 ·)).sum)) :=
    writeRecords_of_roundFits stream hfits 0 []
  rw [hwalk, hchunks, htotal, List.sum_replicate_nat, UInt32.zero_add]
  rfl

/-- A write of all records of a crowded memory, whose count is stored at its beginning. -/
theorem invoke_fdWrite_crowded (size count length : Nat) (hroom : 8 * count ≤ size)
    (hlength : length ≤ size) (hword : length < 0x100000000) (hwrap : 8 * count < 0x100000000)
    (hstored : 4 ≤ size) :
    let s : Instance Console :=
      ⟨.crowded size count length, { Console.start with bound := true }⟩
    let written := Syscall.fdWrite.invoke [1, 0, UInt64.ofNat count, 0] s
    written.1 = .ok 0 ∧ written.2.memory.word 0 = count * length % 0x100000000 ∧
      ∃ chunks : List Chunk, written.2.host.written = s.host.written ++ chunks ∧
        byteCount chunks = count * length := by
  intro s written
  have hcount : (Args.word [1, 0, UInt64.ofNat count, 0] 2).toNat = count := by
    change (UInt64.ofNat count).toUInt32.toNat = count
    rw [UInt64.toNat_toUInt32, UInt64.toNat_ofNat']
    omega
  have hwalk : writeRecords s.memory .stdout (Args.word [1, 0, UInt64.ofNat count, 0] 2).toNat 0 0
      [] = (List.replicate count ⟨.stdout, s.memory.take 0 length⟩,
        .ok (UInt32.ofNat (count * length))) := by
    rw [hcount]
    exact writeRecords_crowded .stdout hroom hlength hword hwrap
  have hfd : Stream.ofDescriptor? (signed 1) = some .stdout := rfl
  have hwrite : fdWrite s.memory 1 0 (Args.word [1, 0, UInt64.ofNat count, 0] 2) 0 =
      ⟨.success, s.memory.put 0 (Memory.toBytes 4 (count * length % 0x100000000)),
        List.replicate count ⟨.stdout, s.memory.take 0 length⟩⟩ := by
    rw [fdWrite_of_ok 0 hfd hwalk, if_pos (by simpa [s] using hstored), UInt32.toNat_ofNat']
    rfl
  have hwritten : written =
      (.ok 0, (⟨s.memory.put 0 (Memory.toBytes 4 (count * length % 0x100000000)),
        { s.host with written := s.host.written ++
          List.replicate count (⟨.stdout, s.memory.take 0 length⟩ : Chunk) }⟩ :
            Instance Console)) := by
    refine (invoke_fdWrite_eq rfl _).trans ?_
    exact congrArg (fun answer : Answer => (Except.ok (UInt32.ofNat answer.errno.code),
      (⟨answer.memory, { s.host with written := s.host.written ++ answer.chunks }⟩ :
        Instance Console))) hwrite
  rw [hwritten]
  refine ⟨rfl, (Memory.word_put_toBytes _ _ _).trans (Nat.mod_mod _ _), _, rfl, ?_⟩
  simp [byteCount]

/-! ### Where the count is right -/

theorem success_of_code {errno : Errno} (h : UInt32.ofNat errno.code = 0) : errno = .success := by
  cases errno <;> first | rfl | exact absurd h (by decide)

/-- A write that succeeds has walked over all records, and stores what it counted. -/
theorem fdWrite_of_success {m : Memory} {fd records count countAt : UInt32}
    (h : (fdWrite m fd records count countAt).errno = .success) :
    ∃ (stream : Stream) (chunks : List Chunk) (n : UInt32),
      writeRecords m stream count.toNat records 0 [] = (chunks, .ok n) ∧
        fdWrite m fd records count countAt =
          ⟨.success, m.put countAt.toNat (Memory.toBytes 4 n.toNat), chunks⟩ := by
  rw [fdWrite] at h ⊢
  cases hfd : Stream.ofDescriptor? (signed fd) with
  | none => simp only [hfd, reduceCtorEq] at h
  | some stream =>
    rcases hwalk : writeRecords m stream count.toNat records 0 [] with ⟨chunks, errno | n⟩
    · obtain rfl := fault_of_writeRecords hwalk
      simp only [hfd, hwalk, reduceCtorEq] at h
    · by_cases hstored : countAt.toNat + 4 ≤ m.size
      · refine ⟨stream, chunks, n, hwalk, ?_⟩
        simp only [hwalk, Memory.writeU32_eq, if_pos hstored]
      · simp only [hfd, hwalk, Memory.writeU32_eq, if_neg hstored, reduceCtorEq] at h

/-- The number that a successful write stores is the number of bytes that it forwards, up to
multiples of `2 ^ 32`. -/
theorem word_of_invoke_fdWrite {s after : Instance Console} (hbound : s.host.bound = true)
    {args : Args} (h : Syscall.fdWrite.invoke args s = (.ok 0, after)) :
    ∃ chunks : List Chunk, after.host.written = s.host.written ++ chunks ∧
      after.memory.word (Args.word args 3).toNat = byteCount chunks % 0x100000000 ∧
      (s.memory.size < 0x100000000 → byteCount chunks ≤ s.memory.size / 8 * s.memory.size) := by
  rw [invoke_fdWrite_eq hbound] at h
  obtain ⟨herrno, rfl⟩ := Prod.mk.inj h
  obtain ⟨stream, chunks, n, hwalk, hwrite⟩ :=
    fdWrite_of_success (success_of_code (Except.ok.inj herrno))
  obtain ⟨new, hnew, hn⟩ := toNat_of_writeRecords hwalk
  obtain rfl : chunks = new := hnew
  refine ⟨chunks, by rw [hwrite], ?_, fun hsize => byteCount_le_of_writeRecords hsize hwalk⟩
  rw [hwrite, Memory.word_put_toBytes, hn, UInt32.toNat_zero, Nat.zero_add, Nat.mod_mod]

/-- The number stored is right in a memory whose room for records, times its size, has 32 bits. -/
theorem countsTruly_of_lt {size : Nat} (h : size / 8 * size < 0x100000000) : CountsTruly size := by
  rintro s after args chunks hbound rfl hwrite hwritten
  obtain ⟨forwarded, hforwarded, hword, hle⟩ := word_of_invoke_fdWrite hbound hwrite
  have hsize : s.memory.size < 0x100000000 := by
    by_contra hlarge
    have : 0x100000000 / 8 * 0x100000000 ≤ s.memory.size / 8 * s.memory.size :=
      Nat.mul_le_mul (Nat.div_le_div_right (by omega)) (by omega)
    omega
  have hsame : forwarded = chunks := by
    have hlists := congrArg Array.toList (hforwarded.symm.trans hwritten)
    simpa using hlists
  subst hsame
  rw [hword, Nat.mod_eq_of_lt (lt_of_le_of_lt (hle hsize) h)]

/-- The number stored is wrong in a crowded memory whose records describe `2 ^ 32` bytes or more. -/
theorem not_countsTruly_of_crowded (size count length : Nat) (hroom : 8 * count ≤ size)
    (hlength : length ≤ size) (hword : length < 0x100000000) (hwrap : 8 * count < 0x100000000)
    (hstored : 4 ≤ size) (hfull : 0x100000000 ≤ count * length) : ¬ CountsTruly size := by
  intro htruly
  obtain ⟨hresult, hcount, chunks, hwritten, hbytes⟩ :=
    invoke_fdWrite_crowded size count length hroom hlength hword hwrap hstored
  have := htruly _ _ _ chunks rfl (Memory.size_crowded size count length)
    (Prod.ext hresult rfl) hwritten
  have hmod := Nat.mod_lt (count * length) (show 0 < 0x100000000 by decide)
  have hzero : (Args.word [1, 0, UInt64.ofNat count, 0] 3).toNat = 0 := rfl
  rw [hzero, hcount, hbytes] at this
  omega

/-- The number stored is right in the memories that have no room for records of `2 ^ 32` bytes in
all, and in no others. -/
theorem countsTruly_iff {size : Nat} : CountsTruly size ↔ size / 8 * size < 0x100000000 := by
  refine ⟨fun htruly => ?_, countsTruly_of_lt⟩
  by_contra hfull
  by_cases hsize : size < 0x100000000
  · have hfour : 4 ≤ size := by
      by_contra hsmall
      have : size / 8 = 0 := by omega
      rw [this] at hfull
      omega
    exact not_countsTruly_of_crowded size (size / 8) size (by omega) le_rfl hsize
      (by omega) hfour (by omega) htruly
  · exact not_countsTruly_of_crowded size 2 0x80000000 (by omega) (by omega)
      (by decide) (by decide) (by omega) (by decide) htruly

/-- A write that succeeds stores the number of bytes that it forwarded up to multiples of `2 ^ 32`,
which is their number exactly if there are fewer. It stores the number itself in all writes to
memories of a size exactly if the whole memory, times the records it has room for, is less. -/
theorem stored_count {s after : Instance Console} (hbound : s.host.bound = true) {args : Args}
    (h : Syscall.fdWrite.invoke args s = (.ok 0, after)) :
    let stored := after.memory.word (Args.word args 3).toNat
    let size := s.memory.size
    (∃ chunks : List Chunk, after.host.written = s.host.written ++ chunks ∧
      stored = byteCount chunks % 0x100000000 ∧
      (stored = byteCount chunks ↔ byteCount chunks < 0x100000000)) ∧
    (CountsTruly size ↔ size / 8 * size < 0x100000000) := by
  obtain ⟨chunks, hwritten, hword, -⟩ := word_of_invoke_fdWrite hbound h
  refine ⟨⟨chunks, hwritten, hword, ?_⟩, countsTruly_iff⟩
  rw [hword]
  omega

/-- A page of records of the whole page is counted. -/
theorem stored_count_one_page :
    let s : Instance Console :=
      ⟨.crowded 65536 8192 65536, { Console.start with bound := true }⟩
    let written := Syscall.fdWrite.invoke [1, 0, 8192, 0] s
    s.host.bound = true ∧ written = (.ok 0, written.2) ∧ CountsTruly 65536 ∧
      ∃ chunks : List Chunk, written.2.host.written = s.host.written ++ chunks ∧
        (written.2.memory.word 0 = byteCount chunks ↔ byteCount chunks < 0x100000000) := by
  intro s written
  have hgoes := invoke_fdWrite_crowded 65536 8192 65536 (by decide) (by decide) (by decide)
    (by decide) (by decide)
  have hresult : written = (.ok 0, written.2) := Prod.ext hgoes.1 rfl
  obtain ⟨⟨chunks, hwritten, -, hiff⟩, htruly⟩ := stored_count (s := s) rfl hresult
  have hsize : s.memory.size = 65536 := Memory.size_crowded _ _ _
  rw [hsize] at htruly
  exact ⟨rfl, hresult, htruly.mpr (by decide), chunks, hwritten, hiff⟩

/-- Three pages of records of all three pages are 4831838208 bytes, and 536870912 are counted. -/
theorem three_pages_miscounted :
    let s : Instance Console :=
      ⟨.crowded 196608 24576 196608, { Console.start with bound := true }⟩
    let written := Syscall.fdWrite.invoke [1, 0, 24576, 0] s
    written.1 = .ok 0 ∧ written.2.memory.word 0 = 536870912 ∧
      (∃ chunks : List Chunk, written.2.host.written = s.host.written ++ chunks ∧
        byteCount chunks = 4831838208) ∧ ¬ CountsTruly 196608 :=
  have hgoes := invoke_fdWrite_crowded 196608 24576 196608 (by decide) (by decide) (by decide)
    (by decide) (by decide)
  ⟨hgoes.1, hgoes.2.1, hgoes.2.2, mt countsTruly_iff.mp (by decide)⟩

end Sandbox.Guest
