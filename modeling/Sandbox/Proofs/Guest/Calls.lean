import Sandbox.Guest.Run

/-!
# The calls of a run

What a guest has written when its run ends is what its calls forwarded, in the order in which it
made them: nothing is lost, however the run ends, and nothing is added. A guest whose run ends
executes its instructions one after the other, so that code without jumps shows every such run.

## Main definitions

* `Called` : a call, with the guest as it was then.
* `callsMade` : the calls of a run of instructions, until it ends.
* `callsOf` : the calls of a run of a module.
* `Module.entered`, `Module.callsBefore` : the guest when its entry point is about to run, and its
  calls until then.
* `Called.forwarded` : the chunks that a call forwards to the console.

## Main results

* `runLinked_eq`, `callsOfLinked_eq` : the two parts of a run.
* `written_call` : what one call adds to the console.
* `written_execute` : what a run of instructions adds to the console.
* `chunks_start` : what a run of a module leaves on the console.
-/

namespace Sandbox.Guest

variable {σ : Type}

/-- A call that a guest makes. -/
structure Called (σ : Type) where
  /-- The name of the function. -/
  function : String
  /-- The arguments. -/
  args : Args
  /-- The guest when it makes the call. -/
  guest : Instance σ

/-- The call that an instruction makes, if its arguments can be loaded. -/
def Instr.callMade? (s : Instance σ) : Instr → Option (Called σ)
  | call function args _ =>
    match s.values args with
    | .ok args => some ⟨function, args, s⟩
    | .error _ => none
  | _ => none

/-- The calls that a run of instructions makes, until one of them does not complete. -/
def callsMade (host : Host σ) : List Instr → Instance σ → List (Called σ)
  | [], _ => []
  | instr :: instrs, s =>
    (instr.callMade? s).toList ++
      match instr.run host s with
      | (.completed, t) => callsMade host instrs t
      | _ => []

/-- The calls of a linked module: those of its start function and, if that comes to an end, those of
its entry point, which runs once the memory is known. -/
def callsOfLinked (m : Module) : List (Called Console) :=
  match mismatch? m.imports, placeData m.freshMemory m.data with
  | none, .ok memory =>
    let begun : Instance Console := ⟨memory, .start⟩
    let startCode := m.start.getD []
    callsMade Console.host startCode begun ++
      match execute Console.host startCode begun with
      | (.stopped _, _) => []
      | (_, s) => callsMade Console.host (m.entryPoint?.getD []) (bind m s)
  | _, _ => []

/-- The calls of a module: none if it cannot be linked. -/
def callsOf (policy : ImportPolicy) (m : Module) : List (Called Console) :=
  match link policy m.imports with
  | .error _ => []
  | .ok _ => callsOfLinked m

/-- The guest when its entry point is about to run, or how its run ended before that. -/
def Module.entered (m : Module) : Except (Status × Console) (Instance Console) :=
  match mismatch? m.imports with
  | some name => .error (.trapped (mismatchMessage name), .start)
  | none =>
    match instantiate Console.host .start m with
    | (.stopped cause, s) => .error (.ofStop s.host.exitCode cause, s.host)
    | (_, s) => .ok (bind m s)

/-- The calls of a module before its entry point runs. -/
def Module.callsBefore (m : Module) : List (Called Console) :=
  match mismatch? m.imports, placeData m.freshMemory m.data with
  | none, .ok memory => callsMade Console.host (m.start.getD []) ⟨memory, .start⟩
  | _, _ => []

/-- The chunks that a call forwards: only a write forwards any, and only if the host knows the
memory. -/
def Called.forwarded (c : Called Console) : List Chunk :=
  if c.function = Syscall.fdWrite.name ∧ c.guest.host.bound = true then
    (fdWrite c.guest.memory (Args.word c.args 0) (Args.word c.args 1) (Args.word c.args 2)
      (Args.word c.args 3)).chunks
  else []

/-! ### The two parts of a run -/

theorem runLinked_eq (m : Module) :
    runLinked m =
      match m.entered, m.entryPoint? with
      | .error ended, _ => ended
      | .ok s, none => (.trapped noEntryPoint, s.host)
      | .ok s, some body =>
        let (ending, t) := execute Console.host body s
        (.ofEnding t.host.exitCode ending, t.host) := by
  unfold runLinked Module.entered
  cases mismatch? m.imports with
  | some name => rfl
  | none =>
    dsimp only
    rcases instantiate Console.host .start m with ⟨_ | _ | cause, s⟩ <;>
      cases m.entryPoint? <;> rfl

theorem callsOfLinked_eq (m : Module) :
    callsOfLinked m =
      m.callsBefore ++
        match m.entered with
        | .error _ => []
        | .ok s => callsMade Console.host (m.entryPoint?.getD []) s := by
  unfold callsOfLinked Module.callsBefore Module.entered instantiate
  cases mismatch? m.imports with
  | some name => rfl
  | none =>
    cases placeData m.freshMemory m.data with
    | error cause => rfl
    | ok memory =>
      dsimp only
      rcases execute Console.host (m.start.getD []) ⟨memory, .start⟩ with ⟨_ | _ | cause, s⟩ <;> rfl

theorem placeData_eq_error {memory : Memory} {data : List (Nat × List UInt8)} {cause : Stop}
    (h : placeData memory data = .error cause) : cause = .trap .outOfBounds := by
  induction data generalizing memory with
  | nil => cases h
  | cons entry data ih =>
    simp only [placeData] at h
    cases hwrite : memory.writeBytes entry.1 entry.2 with
    | error errno =>
      rw [hwrite] at h
      exact (Except.error.inj h).symm
    | ok next =>
      rw [hwrite] at h
      exact ih h

/-- Until its entry point runs, a guest traps without any call or does what its start function does.
-/
theorem entered_cases (m : Module) :
    (∃ message, m.callsBefore = [] ∧ m.entered = .error (.trapped message, .start)) ∨
      ∃ memory : Memory,
        m.callsBefore = callsMade Console.host (m.start.getD []) ⟨memory, .start⟩ ∧
        m.entered =
          match execute Console.host (m.start.getD []) ⟨memory, .start⟩ with
          | (.stopped cause, s) => .error (.ofStop s.host.exitCode cause, s.host)
          | (_, s) => .ok (bind m s) := by
  unfold Module.callsBefore Module.entered instantiate
  cases mismatch? m.imports with
  | some name => exact .inl ⟨_, rfl, rfl⟩
  | none =>
    cases hplaced : placeData m.freshMemory m.data with
    | error cause =>
      obtain rfl := placeData_eq_error hplaced
      exact .inl ⟨_, rfl, rfl⟩
    | ok memory => exact .inr ⟨memory, rfl, rfl⟩

section Link

variable {policy : ImportPolicy} {m : Module} {cause : Defect} {stubs : List String}

theorem callsOf_of_link_error (h : link policy m.imports = .error cause) :
    callsOf policy m = [] := by
  rw [callsOf, h]

theorem callsOf_of_link_ok (h : link policy m.imports = .ok stubs) :
    callsOf policy m = callsOfLinked m := by
  rw [callsOf, h]

theorem link_of_mem_callsOf {c : Called Console} (h : c ∈ callsOf policy m) :
    ∃ stubs, link policy m.imports = .ok stubs := by
  cases hlink : link policy m.imports with
  | error cause =>
    rw [callsOf_of_link_error hlink] at h
    cases h
  | ok stubs => exact ⟨stubs, rfl⟩

theorem start_of_link_error (h : link policy m.imports = .error cause) :
    start policy m = ⟨.defect cause, [], linkLog policy m⟩ := by
  rw [start, h]

theorem start_of_link_ok (h : link policy m.imports = .ok stubs) :
    start policy m = ⟨(runLinked m).1, (runLinked m).2.written.toList,
      linkLog policy m ++ runLog (runLinked m).1 (runLinked m).2⟩ := by
  rw [start, h]

end Link

/-! ### What a call adds -/

theorem name_of_ofName? {name : String} {call : Syscall} (h : Syscall.ofName? name = some call) :
    call.name = name := by
  simpa using List.find?_some h

theorem chunks_answer_of_ne {call : Syscall} (h : call ≠ .fdWrite) (args : Args) (m : Memory) :
    (call.answer args m).chunks = [] := by
  have hstoring (stored : Except Errno Memory) : (storing m stored).chunks = [] := by
    cases stored <;> rfl
  cases call with
  | fdWrite => exact absurd rfl h
  | environSizesGet | argsSizesGet =>
    simp only [Syscall.answer, noStrings]
    split
    · rfl
    · unfold storing
      split <;> rfl
  | fdFdstatGet | clockTimeGet | fdRead => exact hstoring _
  | fdPrestatGet | fdPrestatDirName | procExit | environGet | argsGet | fdSeek | fdClose => rfl

/-- A call adds to the console what it forwards, and nothing else, whether it returns or stops the
guest. -/
theorem written_call (name : String) (args : Args) (s : Instance Console) :
    (Console.host.call name args s).2.host.written =
      s.host.written ++ (Called.mk name args s).forwarded := by
  cases hname : Syscall.ofName? name with
  | none =>
    have hne : name ≠ Syscall.fdWrite.name := by
      rintro rfl
      exact absurd hname (by decide)
    simp [Console.host, hname, Called.forwarded, hne]
  | some call =>
    obtain rfl := name_of_ofName? hname
    simp only [Console.host, hname]
    by_cases hcall : call = .fdWrite
    · subst hcall
      by_cases hbound : s.host.bound = true <;>
        simp [Syscall.invoke, Syscall.needsMemory, Called.forwarded, Syscall.answer, hbound]
    · have hne : call.name ≠ Syscall.fdWrite.name := by
        cases call <;> first | exact absurd rfl hcall | decide
      simp only [Called.forwarded, hne, false_and, if_false, Syscall.invoke]
      split
      · simp
      · split
        · simp
        · simp [chunks_answer_of_ne hcall]

/-! ### What a run adds -/

/-- Ending a step with a store leaves the host as it was. -/
private theorem host_endStep_store (s : Instance σ) (address : Nat) (w : UInt32) :
    (endStep s (s.store address w)).2.host = s.host := by
  unfold Instance.store
  cases s.memory.writeU32 address w <;> rfl

/-- An instruction does to the host what the call that it makes does, and nothing else. -/
theorem host_run (host : Host σ) (instr : Instr) (s : Instance σ) :
    (instr.run host s).2.host =
      match instr.callMade? s with
      | some c => (host.call c.function c.args c.guest).2.host
      | none => s.host := by
  cases instr with
  | call function args resultAt =>
    cases hargs : s.values args with
    | error cause => simp only [Instr.run, Instr.callMade?, hargs]
    | ok values =>
      simp only [Instr.run, Instr.callMade?, hargs]
      obtain ⟨_ | result, t⟩ := host.call function values s
      · rfl
      -- The result is stored after the call.
      · cases resultAt with
        | none => rfl
        | some address => exact host_endStep_store t address result
  | store address operand =>
    simp only [Instr.run, Instr.callMade?]
    cases s.value .i32 operand with
    | error cause => rfl
    | ok w => exact host_endStep_store s address w.toUInt32
  | divideOneBy address =>
    simp only [Instr.run, Instr.callMade?]
    cases s.value .i32 (.load address 0) with
    | error cause => rfl
    | ok w => by_cases hw : w = 0 <;> simp [hw]
  | trap | grow | leave => rfl

theorem guest_of_callMade? {instr : Instr} {s : Instance σ} {c : Called σ}
    (h : instr.callMade? s = some c) : c.guest = s := by
  cases instr with
  | call function args resultAt =>
    cases hargs : s.values args with
    | error cause => simp [Instr.callMade?, hargs] at h
    | ok values =>
      obtain rfl : ⟨function, values, s⟩ = c := by simpa [Instr.callMade?, hargs] using h
      rfl
  | store | divideOneBy | trap | grow | leave => cases h

/-- An instruction adds to the console what the call that it makes forwards. -/
theorem written_run (instr : Instr) (s : Instance Console) :
    (instr.run Console.host s).2.host.written.toList =
      s.host.written.toList ++ (instr.callMade? s).toList.flatMap Called.forwarded := by
  rw [host_run]
  cases hmade : instr.callMade? s with
  | none => simp
  | some c =>
    obtain rfl := guest_of_callMade? hmade
    simp [written_call]

/-- A run of instructions adds to the console what the calls that it makes forward, in order,
however it ends. -/
theorem written_execute (code : List Instr) (s : Instance Console) :
    (execute Console.host code s).2.host.written.toList =
      s.host.written.toList ++ (callsMade Console.host code s).flatMap Called.forwarded := by
  induction code generalizing s with
  | nil => simp [execute, callsMade]
  | cons instr code ih =>
    have hinstr := written_run instr s
    simp only [execute, callsMade, List.flatMap_append, ← List.append_assoc]
    rw [← hinstr]
    rcases instr.run Console.host s with ⟨ending, t⟩
    cases ending with
    | completed => exact ih t
    | left => simp
    | stopped cause => simp

theorem written_of_entered {m : Module} {s : Instance Console} (h : m.entered = .ok s) :
    (runLinked m).2.written.toList = s.host.written.toList ++
      (callsMade Console.host (m.entryPoint?.getD []) s).flatMap Called.forwarded := by
  rw [runLinked_eq, h]
  cases m.entryPoint? with
  | none => exact (List.append_nil _).symm
  | some body => exact written_execute body s

/-- The chunks of a run of a module are what its calls forward, in order, however the run ends. -/
theorem chunks_start (policy : ImportPolicy) (m : Module) :
    (start policy m).chunks = (callsOf policy m).flatMap Called.forwarded := by
  cases hlink : link policy m.imports with
  | error cause =>
    rw [start_of_link_error hlink, callsOf_of_link_error hlink]
    rfl
  | ok stubs =>
    rw [start_of_link_ok hlink, callsOf_of_link_ok hlink, callsOfLinked_eq, List.flatMap_append]
    rcases entered_cases m with ⟨message, hcalls, hentered⟩ | ⟨memory, hcalls, hentered⟩
    · rw [runLinked_eq, hcalls, hentered]
      rfl
    · -- Nothing is written before the start function.
      have hbegun := written_execute (m.start.getD []) ⟨memory, .start⟩
      rw [show Console.start.written.toList = [] from rfl, List.nil_append, ← hcalls] at hbegun
      rw [← hbegun]
      generalize execute Console.host (m.start.getD []) ⟨memory, .start⟩ = ran at hentered
      rcases ran with ⟨_ | _ | cause, s⟩
      · rw [written_of_entered hentered, hentered]
        rfl
      · rw [written_of_entered hentered, hentered]
        rfl
      · rw [runLinked_eq, hentered]
        exact (List.append_nil _).symm

end Sandbox.Guest
