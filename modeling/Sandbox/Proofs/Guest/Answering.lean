import Sandbox.Guest.Syscall
import Sandbox.Proofs.Guest.Memory

/-!
# Calls that tell nothing

All calls but writing and exiting are answered as by a system that has nothing to tell. What they
store is zero: each names the ranges of memory for its answers, and clears them in order until one
does not fit. So the error number depends on the arguments and on the size of memory alone. After a
sequence of such calls each byte that one of them cleared is zero, and every other byte is as it was
before.

## Main definitions

* `Span` : a range of addresses.
* `clearInOrder` : clears ranges until one does not fit.
* `Syscall.outSpans` : the ranges that a call names for its answers.
* `Syscall.quietErrno` : the error number of a call in a memory of a size.
* `serve` : a sequence of calls.

## Main results

* `invoke_of_isQuiet` : a call clears its ranges and leaves the console alone.
* `get_serve` : the bytes after a sequence of calls.
* `serve_quiet` : what a sequence of calls does, and what each call of it does.
-/

namespace Sandbox.Guest

/-- A range of addresses. -/
structure Span where
  /-- The first address. -/
  start : Nat
  /-- The number of bytes. -/
  count : Nat
  deriving DecidableEq, Repr

namespace Span

/-- An address lies in the range. -/
def Contains (span : Span) (i : Nat) : Prop :=
  span.start ≤ i ∧ i < span.start + span.count

/-- The whole range lies inside a memory of a size. -/
def Fits (span : Span) (size : Nat) : Prop :=
  span.start + span.count ≤ size

instance (span : Span) (i : Nat) : Decidable (span.Contains i) :=
  inferInstanceAs (Decidable (_ ∧ _))

instance (span : Span) (size : Nat) : Decidable (span.Fits size) :=
  inferInstanceAs (Decidable (_ ≤ _))

/-- The ranges before the first one that does not fit. -/
def fitting (size : Nat) (spans : List Span) : List Span :=
  spans.takeWhile fun span => decide (span.Fits size)

variable {size : Nat} {span : Span}

theorem fitting_cons_of_fits (h : span.Fits size) (spans : List Span) :
    fitting size (span :: spans) = span :: fitting size spans :=
  List.takeWhile_cons_of_pos (decide_eq_true h)

theorem fitting_cons_of_not_fits (h : ¬ span.Fits size) (spans : List Span) :
    fitting size (span :: spans) = [] :=
  List.takeWhile_cons_of_neg (by simpa using h)

theorem of_mem_fitting {spans : List Span} (h : span ∈ fitting size spans) :
    span ∈ spans ∧ span.Fits size :=
  ⟨(List.takeWhile_sublist _).subset h,
    of_decide_eq_true (List.all_eq_true.mp List.all_takeWhile span h)⟩

end Span

/-! ### Clearing -/

namespace Memory

/-- The memory with zeros in a range. -/
def clear (m : Memory) (span : Span) : Memory :=
  m.put span.start (List.replicate span.count 0)

@[simp] theorem size_clear (m : Memory) (span : Span) : (m.clear span).size = m.size :=
  size_put _ _ _

theorem get_clear (m : Memory) (span : Span) (i : Nat) :
    (m.clear span).get i = if span.Contains i then 0 else m.get i := by
  have hzero : (List.replicate span.count (0 : UInt8)).getD (i - span.start) 0 = 0 := by
    rw [List.getD_eq_getElem?_getD, List.getElem?_replicate]
    split <;> rfl
  rw [clear, get_put, List.length_replicate, hzero]
  rfl

theorem writeBytes_zeros (m : Memory) (span : Span) :
    m.writeBytes span.start (List.replicate span.count 0) =
      if span.Fits m.size then .ok (m.clear span) else .error .fault := by
  rw [writeBytes_eq, List.length_replicate]
  rfl

end Memory

/-- Clears ranges in order until one does not fit. If all do, the answer is `done`. -/
def clearInOrder (m : Memory) (done : Errno) : List Span → Errno × Memory
  | [] => (done, m)
  | span :: spans =>
    if span.Fits m.size then clearInOrder (m.clear span) done spans else (.fault, m)

section Clearing

variable (m : Memory) (done : Errno) (spans : List Span)

@[simp] theorem size_clearInOrder : (clearInOrder m done spans).2.size = m.size := by
  induction spans generalizing m with
  | nil => rfl
  | cons span spans ih =>
    rw [clearInOrder]
    split
    · rw [ih, Memory.size_clear]
    · rfl

theorem errno_clearInOrder :
    (clearInOrder m done spans).1 = if ∀ span ∈ spans, span.Fits m.size then done else .fault := by
  induction spans generalizing m with
  | nil => rw [if_pos (by simp)]; rfl
  | cons span spans ih =>
    rw [clearInOrder]
    by_cases hfits : span.Fits m.size
    · rw [if_pos hfits, ih, Memory.size_clear]
      simp only [List.forall_mem_cons, hfits, true_and]
    · rw [if_neg hfits, if_neg (fun h => hfits (h span List.mem_cons_self))]

theorem get_clearInOrder (i : Nat) :
    (clearInOrder m done spans).2.get i =
      if ∃ span ∈ Span.fitting m.size spans, span.Contains i then 0 else m.get i := by
  induction spans generalizing m with
  | nil => simp [clearInOrder, Span.fitting]
  | cons span spans ih =>
    rw [clearInOrder]
    by_cases hfits : span.Fits m.size
    · rw [if_pos hfits, ih, Memory.size_clear, Memory.get_clear, Span.fitting_cons_of_fits hfits]
      by_cases hhead : span.Contains i <;> simp [hhead]
    · rw [if_neg hfits, Span.fitting_cons_of_not_fits hfits, if_neg (by simp)]

end Clearing

/-! ### The calls -/

namespace Syscall

/-- The calls that neither write nor exit. -/
def IsQuiet (call : Syscall) : Prop :=
  call ≠ fdWrite ∧ call ≠ procExit

instance (call : Syscall) : Decidable call.IsQuiet :=
  inferInstanceAs (Decidable (_ ∧ _))

/-- The ranges that a call names for its answers, in the order in which they are stored. -/
def outSpans (call : Syscall) (args : Args) : List Span :=
  match call with
  | fdFdstatGet => [⟨(args.word 1).toNat, 24⟩]
  | environSizesGet | argsSizesGet => [⟨(args.word 0).toNat, 4⟩, ⟨(args.word 1).toNat, 4⟩]
  | clockTimeGet => [⟨(args.word 2).toNat, 8⟩]
  | fdRead => [⟨(args.word 3).toNat, 4⟩]
  | _ => []

/-- The error number of a call whose answers are stored. There are no opened directories, and the
streams have no positions. -/
def quietDone : Syscall → Errno
  | fdPrestatGet | fdPrestatDirName => .badDescriptor
  | fdSeek => .noSeek
  | _ => .success

/-- The error number of a call in a memory of a size. -/
def quietErrno (call : Syscall) (args : Args) (size : Nat) : Errno :=
  if ∀ span ∈ call.outSpans args, span.Fits size then call.quietDone else .fault

/-- The ranges that a call clears in a memory of a size. -/
def clearedSpans (call : Syscall) (args : Args) (size : Nat) : List Span :=
  Span.fitting size (call.outSpans args)

variable {call : Syscall} (args : Args)

theorem storing_zeros (m : Memory) (span : Span) :
    storing m (m.writeBytes span.start (List.replicate span.count 0)) =
      let cleared := clearInOrder m .success [span]
      ⟨cleared.1, cleared.2, []⟩ := by
  dsimp only
  rw [Memory.writeBytes_zeros, clearInOrder]
  split <;> rfl

theorem noStrings_eq (m : Memory) (countAt sizeAt : UInt32) :
    noStrings m countAt sizeAt =
      let cleared := clearInOrder m .success [⟨countAt.toNat, 4⟩, ⟨sizeAt.toNat, 4⟩]
      ⟨cleared.1, cleared.2, []⟩ := by
  have hword (m : Memory) (address : UInt32) : m.writeU32 address.toNat 0 =
      if Span.Fits ⟨address.toNat, 4⟩ m.size then .ok (m.clear ⟨address.toNat, 4⟩)
      else .error .fault := m.writeBytes_zeros ⟨address.toNat, 4⟩
  dsimp only
  rw [noStrings, hword, clearInOrder]
  by_cases hcount : Span.Fits ⟨countAt.toNat, 4⟩ m.size
  · rw [if_pos hcount, if_pos hcount]
    exact storing_zeros (m.clear ⟨countAt.toNat, 4⟩) ⟨sizeAt.toNat, 4⟩
  · rw [if_neg hcount, if_neg hcount]
    rfl

/-- A call clears the ranges that it names and writes nothing to the console. -/
theorem answer_of_isQuiet (hcall : call.IsQuiet) (m : Memory) :
    call.answer args m =
      let cleared := clearInOrder m call.quietDone (call.outSpans args)
      ⟨cleared.1, cleared.2, []⟩ := by
  cases call with
  | fdWrite => exact absurd rfl hcall.1
  | procExit => exact absurd rfl hcall.2
  | fdFdstatGet => exact storing_zeros m ⟨(args.word 1).toNat, 24⟩
  | clockTimeGet => exact storing_zeros m ⟨(args.word 2).toNat, 8⟩
  | fdRead => exact storing_zeros m ⟨(args.word 3).toNat, 4⟩
  | environSizesGet | argsSizesGet => exact noStrings_eq m (args.word 0) (args.word 1)
  | fdPrestatGet | fdPrestatDirName | environGet | argsGet | fdSeek | fdClose => rfl

end Syscall

/-- The calls in order, each made to the guest that the one before left behind: their answers, and
the guest after them. -/
def serve : List (Syscall × Args) → Instance Console → List (Except Stop UInt32) × Instance Console
  | [], s => ([], s)
  | (call, args) :: calls, s =>
    let (answer, t) := call.invoke args s
    let (answers, u) := serve calls t
    (answer :: answers, u)

/-- What one call does that tells nothing. -/
structure AnswersQuietly (call : Syscall) (args : Args) (s : Instance Console)
    (answer : Except Stop UInt32) (t : Instance Console) : Prop where
  /-- The console is left alone, the exit code included. -/
  host : t.host = s.host
  /-- Memory keeps its size. -/
  size : t.memory.size = s.memory.size
  /-- The error number depends on the arguments and the size of memory. -/
  errno : answer = .ok (UInt32.ofNat (call.quietErrno args s.memory.size).code)
  /-- A call that stores nothing changes nothing. -/
  none : call.outSpans args = [] → ∀ i, t.memory.get i = s.memory.get i
  /-- A call that stores one thing succeeds if it fits, and then zeros stand in its range and
  nothing else is changed. Otherwise nothing is changed at all. -/
  one : ∀ span, call.outSpans args = [span] →
    (answer = .ok 0 ↔ span.Fits s.memory.size) ∧
      (span.Fits s.memory.size → ∀ i, t.memory.get i =
        if span.Contains i then 0 else s.memory.get i) ∧
      (¬ span.Fits s.memory.size → answer = .ok 21 ∧ t = s)
  /-- A call that stores two things succeeds if both fit, and then zeros stand in both ranges and
  nothing else is changed. Otherwise only the first one is stored, if it fits. -/
  two : ∀ first second, call.outSpans args = [first, second] →
    (answer = .ok 0 ↔ first.Fits s.memory.size ∧ second.Fits s.memory.size) ∧
      (first.Fits s.memory.size ∧ second.Fits s.memory.size → ∀ i, t.memory.get i =
        if first.Contains i ∨ second.Contains i then 0 else s.memory.get i) ∧
      (¬ (first.Fits s.memory.size ∧ second.Fits s.memory.size) → answer = .ok 21 ∧
        ∀ i, t.memory.get i =
          if first.Fits s.memory.size ∧ first.Contains i then 0 else s.memory.get i)
  /-- The same call made once more has the same answer and changes nothing. -/
  again : (call.invoke args t).1 = answer ∧ (call.invoke args t).2.host = t.host ∧
    (call.invoke args t).2.memory.size = t.memory.size ∧
    ∀ i, (call.invoke args t).2.memory.get i = t.memory.get i

section Calls

variable {call : Syscall} {args : Args} {s t : Instance Console} {calls : List (Syscall × Args)}

/-- Once the memory is known, a call clears ranges that it names and leaves the console alone. -/
theorem invoke_of_isQuiet (hcall : call.IsQuiet) (hbound : s.host.bound = true) (args : Args) :
    call.invoke args s =
      (.ok (UInt32.ofNat (call.quietErrno args s.memory.size).code),
        ⟨(clearInOrder s.memory call.quietDone (call.outSpans args)).2, s.host⟩) := by
  rw [Syscall.invoke, if_neg hcall.2, hbound, Bool.not_true, Bool.and_false,
    if_neg Bool.false_ne_true, Syscall.answer_of_isQuiet args hcall]
  simp [errno_clearInOrder, Syscall.quietErrno]

theorem size_invoke_of_isQuiet (hcall : call.IsQuiet) (hbound : s.host.bound = true)
    (args : Args) : (call.invoke args s).2.memory.size = s.memory.size := by
  rw [invoke_of_isQuiet hcall hbound]
  exact size_clearInOrder _ _ _

theorem host_invoke_of_isQuiet (hcall : call.IsQuiet) (hbound : s.host.bound = true)
    (args : Args) : (call.invoke args s).2.host = s.host := by
  rw [invoke_of_isQuiet hcall hbound]

theorem bound_invoke_of_isQuiet (hcall : call.IsQuiet) (hbound : s.host.bound = true)
    (args : Args) : (call.invoke args s).2.host.bound = true := by
  rw [host_invoke_of_isQuiet hcall hbound, hbound]

theorem get_invoke_of_isQuiet (hcall : call.IsQuiet) (hbound : s.host.bound = true) (args : Args)
    (i : Nat) :
    (call.invoke args s).2.memory.get i =
      if ∃ span ∈ call.clearedSpans args s.memory.size, span.Contains i then 0
      else s.memory.get i := by
  rw [invoke_of_isQuiet hcall hbound]
  exact get_clearInOrder _ _ _ i

/-- The same call made once more has the same answer and changes nothing. -/
theorem invoke_again (hcall : call.IsQuiet) (hbound : s.host.bound = true) (args : Args) :
    let t := (call.invoke args s).2
    (call.invoke args t).1 = (call.invoke args s).1 ∧ (call.invoke args t).2.host = t.host ∧
      (call.invoke args t).2.memory.size = t.memory.size ∧
      ∀ i, (call.invoke args t).2.memory.get i = t.memory.get i := by
  intro t
  have hsize : t.memory.size = s.memory.size := size_invoke_of_isQuiet hcall hbound args
  have hbound' : t.host.bound = true := bound_invoke_of_isQuiet hcall hbound args
  refine ⟨?_, host_invoke_of_isQuiet hcall hbound' args, size_invoke_of_isQuiet hcall hbound' args,
    fun i => ?_⟩
  · rw [invoke_of_isQuiet hcall hbound', invoke_of_isQuiet hcall hbound, hsize]
  · -- What would be cleared is zero.
    rw [get_invoke_of_isQuiet hcall hbound', hsize, get_invoke_of_isQuiet hcall hbound]
    split <;> rfl

/-- A call that names ranges succeeds exactly if all of them fit. -/
theorem invoke_eq_success_iff (hcall : call.IsQuiet) (hbound : s.host.bound = true)
    (h : call.outSpans args ≠ []) :
    (call.invoke args s).1 = .ok 0 ↔ ∀ span ∈ call.outSpans args, span.Fits s.memory.size := by
  have hdone : call.quietDone = .success := by
    cases call <;> first | rfl | exact absurd rfl h
  rw [invoke_of_isQuiet hcall hbound, Except.ok.injEq, Syscall.quietErrno, hdone]
  split
  case isTrue hfit => exact iff_of_true rfl hfit
  case isFalse hfit => exact iff_of_false (by decide) hfit

/-- Otherwise it answers with a fault. -/
theorem invoke_of_not_fits (hcall : call.IsQuiet) (hbound : s.host.bound = true)
    (h : ¬ ∀ span ∈ call.outSpans args, span.Fits s.memory.size) :
    (call.invoke args s).1 = .ok 21 := by
  rw [invoke_of_isQuiet hcall hbound, Syscall.quietErrno, if_neg h]
  rfl

/-- What one call does. -/
theorem answersQuietly_invoke (hcall : call.IsQuiet) (hbound : s.host.bound = true) (args : Args) :
    AnswersQuietly call args s (call.invoke args s).1 (call.invoke args s).2 where
  host := host_invoke_of_isQuiet hcall hbound args
  size := size_invoke_of_isQuiet hcall hbound args
  errno := by rw [invoke_of_isQuiet hcall hbound]
  none hspans i := by
    rw [get_invoke_of_isQuiet hcall hbound, Syscall.clearedSpans, hspans,
      if_neg (by simp [Span.fitting])]
  one span hspans := by
    refine ⟨?_, fun hfits i => ?_, fun hnot => ⟨?_, ?_⟩⟩
    · rw [invoke_eq_success_iff hcall hbound (by simp [hspans]), hspans, List.forall_mem_singleton]
    · simp [get_invoke_of_isQuiet hcall hbound, Syscall.clearedSpans, hspans, Span.fitting, hfits]
    · exact invoke_of_not_fits hcall hbound (by simpa [hspans] using hnot)
    · rw [invoke_of_isQuiet hcall hbound, hspans, clearInOrder, if_neg hnot]
  two first second hspans := by
    refine ⟨?_, fun ⟨hfirst, hsecond⟩ i => ?_, fun hnot => ⟨?_, fun i => ?_⟩⟩
    · rw [invoke_eq_success_iff hcall hbound (by simp [hspans]), hspans, List.forall_mem_cons,
        List.forall_mem_singleton]
    · simp [get_invoke_of_isQuiet hcall hbound, Syscall.clearedSpans, hspans, Span.fitting, hfirst,
        hsecond]
    · exact invoke_of_not_fits hcall hbound (by simpa [hspans] using hnot)
    · rw [get_invoke_of_isQuiet hcall hbound, Syscall.clearedSpans, hspans]
      by_cases hfirst : first.Fits s.memory.size
      · -- The second range does not fit, so that only the first one was cleared.
        have hsecond : ¬ second.Fits s.memory.size := fun hsecond => hnot ⟨hfirst, hsecond⟩
        simp [Span.fitting, hfirst, hsecond]
      · simp [Span.fitting, hfirst]
  again := invoke_again hcall hbound args

/-! ### Sequences of calls -/

theorem serve_cons (c : Syscall × Args) (calls : List (Syscall × Args)) (s : Instance Console) :
    serve (c :: calls) s =
      ((c.1.invoke c.2 s).1 :: (serve calls (c.1.invoke c.2 s).2).1,
        (serve calls (c.1.invoke c.2 s).2).2) := rfl

theorem host_serve (hbound : s.host.bound = true) (hquiet : ∀ c ∈ calls, c.1.IsQuiet) :
    (serve calls s).2.host = s.host := by
  induction calls generalizing s with
  | nil => rfl
  | cons c calls ih =>
    obtain ⟨hcall, hcalls⟩ := List.forall_mem_cons.mp hquiet
    rw [serve_cons, ih (bound_invoke_of_isQuiet hcall hbound c.2) hcalls,
      host_invoke_of_isQuiet hcall hbound]

theorem size_serve (hbound : s.host.bound = true) (hquiet : ∀ c ∈ calls, c.1.IsQuiet) :
    (serve calls s).2.memory.size = s.memory.size := by
  induction calls generalizing s with
  | nil => rfl
  | cons c calls ih =>
    obtain ⟨hcall, hcalls⟩ := List.forall_mem_cons.mp hquiet
    rw [serve_cons, ih (bound_invoke_of_isQuiet hcall hbound c.2) hcalls,
      size_invoke_of_isQuiet hcall hbound]

/-- The answers depend on the arguments and the size of memory alone. -/
theorem answers_serve (hbound : s.host.bound = true) (hquiet : ∀ c ∈ calls, c.1.IsQuiet) :
    (serve calls s).1 =
      calls.map fun c => .ok (UInt32.ofNat (c.1.quietErrno c.2 s.memory.size).code) := by
  induction calls generalizing s with
  | nil => rfl
  | cons c calls ih =>
    obtain ⟨hcall, hcalls⟩ := List.forall_mem_cons.mp hquiet
    rw [serve_cons, ih (bound_invoke_of_isQuiet hcall hbound c.2) hcalls,
      size_invoke_of_isQuiet hcall hbound, List.map_cons,
      (answersQuietly_invoke hcall hbound c.2).errno]

/-- A byte is as it was, unless some call cleared it. -/
theorem get_serve (hbound : s.host.bound = true) (hquiet : ∀ c ∈ calls, c.1.IsQuiet) (i : Nat) :
    (serve calls s).2.memory.get i =
      if ∃ c ∈ calls, ∃ span ∈ c.1.clearedSpans c.2 s.memory.size, span.Contains i then 0
      else s.memory.get i := by
  induction calls generalizing s with
  | nil => simp [serve]
  | cons c calls ih =>
    obtain ⟨hcall, hcalls⟩ := List.forall_mem_cons.mp hquiet
    rw [serve_cons, ih (bound_invoke_of_isQuiet hcall hbound c.2) hcalls,
      size_invoke_of_isQuiet hcall hbound, get_invoke_of_isQuiet hcall hbound]
    by_cases hlater : ∃ c ∈ calls, ∃ span ∈ c.1.clearedSpans c.2 s.memory.size, span.Contains i
    · obtain ⟨d, hd, hclears⟩ := hlater
      rw [if_pos ⟨d, hd, hclears⟩, if_pos ⟨d, List.mem_cons_of_mem c hd, hclears⟩]
    · simp only [if_neg hlater, List.mem_cons, exists_eq_or_imp, or_iff_left hlater]

/-- A byte that changes becomes zero, and some call names a range that fits and holds it. -/
theorem zero_of_get_serve_ne (hbound : s.host.bound = true) (hquiet : ∀ c ∈ calls, c.1.IsQuiet)
    {i : Nat} (h : (serve calls s).2.memory.get i ≠ s.memory.get i) :
    (serve calls s).2.memory.get i = 0 ∧
      ∃ c ∈ calls, ∃ span ∈ c.1.outSpans c.2, span.Fits s.memory.size ∧ span.Contains i := by
  rw [get_serve hbound hquiet] at h ⊢
  split
  case isTrue hcleared =>
    obtain ⟨c, hc, span, hspan, hcontains⟩ := hcleared
    obtain ⟨hmem, hfits⟩ := Span.of_mem_fitting hspan
    exact ⟨rfl, c, hc, span, hmem, hfits, hcontains⟩
  case isFalse hcleared => exact absurd (if_neg hcleared) h

/-- A sequence of calls other than writing and exiting, made once the memory is known. The console
is as before, the exit code included, and memory keeps its size. The answers are the numbers 0, 8,
21 and 70, and depend on the arguments and the size of memory alone. Afterwards zeros stand in the
ranges that the calls name for their answers, for each call up to the first of its ranges that does
not fit, and every other byte is as it was. So a byte that changes becomes zero, and lies in a range
that some call names and that fits as a whole. Each call of the sequence, made to the guest as it is
then, succeeds and stores its zeros if its answers fit, and otherwise stores nothing but the first
of two answers; the same call made again changes nothing. -/
theorem serve_quiet (hbound : s.host.bound = true) (hquiet : ∀ c ∈ calls, c.1.IsQuiet) :
    let answers := (serve calls s).1
    let after := (serve calls s).2
    after.host = s.host ∧ after.memory.size = s.memory.size ∧
    (answers = calls.map fun c => .ok (UInt32.ofNat (c.1.quietErrno c.2 s.memory.size).code)) ∧
    (∀ answer ∈ answers, answer ∈ [.ok 0, .ok 8, .ok 21, .ok 70]) ∧
    (∀ i, after.memory.get i =
      if ∃ c ∈ calls, ∃ span ∈ c.1.clearedSpans c.2 s.memory.size, span.Contains i then 0
      else s.memory.get i) ∧
    (∀ i, after.memory.get i ≠ s.memory.get i → after.memory.get i = 0 ∧
      ∃ c ∈ calls, ∃ span ∈ c.1.outSpans c.2, span.Fits s.memory.size ∧ span.Contains i) ∧
    ∀ before call args rest, calls = before ++ (call, args) :: rest →
      let reached := (serve before s).2
      AnswersQuietly call args reached (call.invoke args reached).1
        (call.invoke args reached).2 := by
  refine ⟨host_serve hbound hquiet, size_serve hbound hquiet, answers_serve hbound hquiet, ?_,
    get_serve hbound hquiet, fun i => zero_of_get_serve_ne hbound hquiet, ?_⟩
  · intro answer hanswer
    rw [answers_serve hbound hquiet] at hanswer
    obtain ⟨c, -, rfl⟩ := List.mem_map.mp hanswer
    cases c.1.quietErrno c.2 s.memory.size <;> simp [Errno.code]
  · rintro before call args rest rfl
    have hbefore : ∀ c ∈ before, c.1.IsQuiet := fun c hc => hquiet c (List.mem_append_left _ hc)
    refine answersQuietly_invoke (hquiet (call, args) (by simp)) ?_ args
    rw [host_serve hbound hbefore, hbound]

/-- The sizes of the arguments, where only the first one fits, and then a read. Zeros stand where
the first size and the number of bytes read belong, and nowhere else. -/
theorem serve_quiet_sizes :
    let s : Instance Console :=
      ⟨(Memory.zeros 16).put 0 (List.replicate 16 7), { Console.start with bound := true }⟩
    let calls : List (Syscall × Args) :=
      [(.argsSizesGet, [4, 13]), (.fdSeek, [1, 0, 0, 0]), (.fdRead, [0, 0, 0, 12])]
    s.host.bound = true ∧ (∀ c ∈ calls, c.1.IsQuiet) ∧
      (serve calls s).1 = [.ok 21, .ok 70, .ok 0] ∧ (serve calls s).2.host = s.host ∧
      (List.range 16).map (serve calls s).2.memory.get =
        [7, 7, 7, 7, 0, 0, 0, 0, 7, 7, 7, 7, 0, 0, 0, 0] := by
  intro s calls
  have hquiet : ∀ c ∈ calls, c.1.IsQuiet := by decide
  obtain ⟨hhost, -, hanswers, -, hbytes, -⟩ := serve_quiet (s := s) rfl hquiet
  have hsize : s.memory.size = 16 := Memory.size_put _ _ _
  refine ⟨rfl, hquiet, hanswers.trans ?_, hhost, ?_⟩
  · rw [hsize]
    rfl
  · have hbefore : ∀ i < 16, s.memory.get i = 7 := by
      intro i hi
      rw [Memory.get_put, if_pos ⟨Nat.zero_le i, by simpa using hi⟩, List.getD_eq_getElem?_getD,
        List.getElem?_replicate, if_pos (by simpa using hi)]
      rfl
    rw [List.map_congr_left fun i hi =>
      (hbytes i).trans (by rw [hsize, hbefore i (List.mem_range.mp hi)])]
    decide

end Calls

end Sandbox.Guest
