import Sandbox.Proofs.Guest.Calls

/-!
# Guests that are stopped

Code that follows the place where a guest is stopped has no effect. An exit stops the guest wherever
it is asked for, in the start function or in the entry point: it is the last call of the run, it is
the only one that records a code, and the status of the run is the exit with that code.

## Main definitions

* `Module.withBody` : a module with other code in the function that it exports.
* `Outcome.consumed` : what a run makes of a consumer of chunks.
* `Called.exit?` : the code with which a call exits.

## Main results

* `callsOf_withBody_append`, `start_withBody_append` : the runs of a module with more code at its
  end.
* `exits_execute`, `exits_runLinked` : runs that make a call that exits.
-/

namespace Sandbox.Guest

/-! ### Code after a stop -/

/-- The module with other code in the function that it exports. -/
def Module.withBody (m : Module) (body : List Instr) : Module :=
  { m with
    entry := m.entry.map fun (name, exported) =>
      (name, match exported with
        | .function signature _ => .function signature body
        | .global => .global) }

/-- What becomes of a consumer of chunks that is handed the chunks of a run. -/
def Outcome.consumed {τ : Type} (outcome : Outcome) (write : τ → Chunk → τ) (first : τ) : τ :=
  outcome.chunks.foldl write first

theorem callsMade_append {σ : Type} (host : Host σ) (p q : List Instr) (s : Instance σ) :
    callsMade host (p ++ q) s =
      callsMade host p s ++
        match execute host p s with
        | (.completed, t) => callsMade host q t
        | _ => [] := by
  induction p generalizing s with
  | nil => rfl
  | cons instr p ih =>
    simp only [List.cons_append, callsMade, execute, List.append_assoc]
    rcases instr.run host s with ⟨ending, t⟩
    cases ending with
    | completed => simp only [ih]
    | left | stopped => rfl

section WithBody

variable (policy : ImportPolicy) (m : Module) (p q : List Instr)

/-- Where a module has an entry point, other code can be put into it. -/
theorem entryPoint?_withBody : (m.withBody p).entryPoint? = m.entryPoint?.map fun _ => p := by
  obtain ⟨imports, memory, data, start, entry⟩ := m
  match entry with
  | none | some (_, .global) => rfl
  | some (_, .function ⟨_ :: _, _⟩ _) | some (_, .function ⟨[], _ :: _⟩ _) => rfl
  | some (name, .function ⟨[], []⟩ old) =>
    by_cases h : name = entryName <;> simp [Module.withBody, Module.entryPoint?, h]

theorem entered_withBody : (m.withBody p).entered = m.entered := rfl

theorem callsBefore_withBody : (m.withBody p).callsBefore = m.callsBefore := rfl

/-- With more code at its end, a module makes the calls that it made before, and others only after
them. -/
theorem callsOf_withBody_append :
    ∃ more, callsOf policy (m.withBody (p ++ q)) = callsOf policy (m.withBody p) ++ more := by
  cases hlink : link policy m.imports with
  | error cause =>
    refine ⟨[], ?_⟩
    rw [callsOf_of_link_error (m := m.withBody (p ++ q)) hlink,
      callsOf_of_link_error (m := m.withBody p) hlink, List.append_nil]
  | ok stubs =>
    rw [callsOf_of_link_ok (m := m.withBody (p ++ q)) hlink,
      callsOf_of_link_ok (m := m.withBody p) hlink, callsOfLinked_eq, callsOfLinked_eq]
    simp only [entered_withBody, callsBefore_withBody, entryPoint?_withBody, List.append_assoc]
    cases m.entered with
    | error ended => exact ⟨[], rfl⟩
    | ok s =>
      cases m.entryPoint? with
      | none => exact ⟨[], rfl⟩
      | some body => exact ⟨_, congrArg (m.callsBefore ++ ·) (callsMade_append Console.host p q s)⟩

variable {policy m p}

/-- If a run of a module does not return, more code at the end of its entry point has no effect. -/
theorem start_withBody_append (h : (start policy (m.withBody p)).status ≠ .returned) :
    start policy (m.withBody (p ++ q)) = start policy (m.withBody p) := by
  cases hlink : link policy m.imports with
  | error cause =>
    rw [start_of_link_error (m := m.withBody (p ++ q)) hlink,
      start_of_link_error (m := m.withBody p) hlink]
    rfl
  | ok stubs =>
    rw [start_of_link_ok (m := m.withBody p) hlink] at h ⊢
    rw [start_of_link_ok (m := m.withBody (p ++ q)) hlink]
    suffices hrun : runLinked (m.withBody (p ++ q)) = runLinked (m.withBody p) by rw [hrun]; rfl
    rw [runLinked_eq, entered_withBody, entryPoint?_withBody] at h ⊢
    rw [runLinked_eq, entered_withBody, entryPoint?_withBody]
    cases hentered : m.entered with
    | error ended => rfl
    | ok s =>
      cases hentry : m.entryPoint? with
      | none => rfl
      | some body =>
        simp only [hentered, hentry, Option.map_some] at h ⊢
        rw [execute_append]
        -- Only a run of the first code that comes to its end is continued, and it would return.
        generalize execute Console.host p s = ran at h ⊢
        rcases ran with ⟨_ | _ | cause, t⟩
        · exact absurd rfl h
        · rfl
        · rfl

end WithBody

/-! ### Exits -/

/-- The code with which a call exits, if it is one that does. -/
def Called.exit? {σ : Type} (c : Called σ) : Option Int :=
  if c.function = Syscall.procExit.name then some (signed (Args.word c.args 0)) else none

section Exits

variable {instr : Instr} {code : List Instr} {s : Instance Console} {c : Called Console} {n : Int}

/-- A call that exits stops the guest and records its code, unless there is one already. -/
theorem call_of_exit? {name : String} {args : Args} (h : (Called.mk name args s).exit? = some n) :
    Console.host.call name args s =
      (.error (.exit n),
        { s with host := { s.host with exitCode := some (s.host.exitCode.getD n) } }) := by
  simp only [Called.exit?, Option.ite_none_right_eq_some, Option.some.injEq] at h
  obtain ⟨rfl, rfl⟩ := h
  rfl

/-- Any other call leaves the code that is recorded as it is. -/
theorem exitCode_call {name : String} {args : Args} (h : (Called.mk name args s).exit? = none) :
    (Console.host.call name args s).2.host.exitCode = s.host.exitCode := by
  have hne : name ≠ Syscall.procExit.name := by
    rintro rfl
    simp [Called.exit?] at h
  cases hcall : Syscall.ofName? name with
  | none => simp [Console.host, hcall]
  | some call =>
    have hcall' : call ≠ .procExit := by
      rintro rfl
      exact hne (name_of_ofName? hcall).symm
    simp only [Console.host, hcall, Syscall.invoke, if_neg hcall']
    split <;> rfl

theorem run_of_exit? (hc : instr.callMade? s = some c) (hn : c.exit? = some n) :
    instr.run Console.host s =
      (.stopped (.exit n),
        { s with host := { s.host with exitCode := some (s.host.exitCode.getD n) } }) := by
  cases instr with
  | call function args resultAt =>
    cases hargs : s.values args with
    | error cause => simp [Instr.callMade?, hargs] at hc
    | ok values =>
      obtain rfl : ⟨function, values, s⟩ = c := by simpa [Instr.callMade?, hargs] using hc
      simp only [Instr.run, hargs, call_of_exit? hn]
  | store | divideOneBy | trap | grow | leave => cases hc

theorem exitCode_run (h : ∀ d, instr.callMade? s = some d → d.exit? = none) :
    (instr.run Console.host s).2.host.exitCode = s.host.exitCode := by
  rw [host_run]
  cases hmade : instr.callMade? s with
  | none => rfl
  | some d =>
    obtain rfl := guest_of_callMade? hmade
    exact exitCode_call (h d hmade)

/-- A run of instructions without a call that exits leaves the code that is recorded as it is. -/
theorem exitCode_execute (h : ∀ d ∈ callsMade Console.host code s, d.exit? = none) :
    (execute Console.host code s).2.host.exitCode = s.host.exitCode := by
  induction code generalizing s with
  | nil => rfl
  | cons instr code ih =>
    simp only [callsMade, List.mem_append, Option.mem_toList] at h
    have hinstr := exitCode_run fun d hd => h d (.inl hd)
    simp only [execute]
    generalize instr.run Console.host s = ran at h hinstr ⊢
    rcases ran with ⟨_ | _ | cause, t⟩
    · exact (ih fun d hd => h d (.inr hd)).trans hinstr
    · exact hinstr
    · exact hinstr

/-- A call that exits is the last one of a run of instructions and the only one that exits, and the
run is stopped with its code. -/
theorem exits_execute (hs : s.host.exitCode = none) (hc : c ∈ callsMade Console.host code s)
    (hn : c.exit? = some n) :
    ∃ before t, callsMade Console.host code s = before ++ [c] ∧ (∀ d ∈ before, d.exit? = none) ∧
      c.guest.host.exitCode = none ∧
      execute Console.host code s = (.stopped (.exit n), t) ∧ t.host.exitCode = some n := by
  induction code generalizing s with
  | nil => cases hc
  | cons instr code ih =>
    simp only [callsMade, execute] at hc ⊢
    by_cases hexits : ∃ d, instr.callMade? s = some d ∧ d.exit? ≠ none
    · obtain ⟨d, hmade, hexit⟩ := hexits
      obtain ⟨k, hk⟩ := Option.ne_none_iff_exists'.mp hexit
      rw [run_of_exit? hmade hk, hmade] at hc ⊢
      obtain rfl : c = d := by simpa using hc
      obtain rfl : k = n := Option.some.inj (hk.symm.trans hn)
      refine ⟨[], _, rfl, fun _ h => (List.not_mem_nil h).elim, ?_, rfl, ?_⟩
      · rwa [guest_of_callMade? hmade]
      · rw [hs]
        rfl
    · have hnone : ∀ d ∈ instr.callMade? s, d.exit? = none := fun d hd =>
        Decidable.byContradiction fun hexit => hexits ⟨d, hd, hexit⟩
      have hcode := (exitCode_run hnone).trans hs
      have hlater : c ∉ (instr.callMade? s).toList := fun h => by
        rw [hnone c (Option.mem_toList.mp h)] at hn
        cases hn
      replace hc := (List.mem_append.mp hc).resolve_left hlater
      generalize instr.run Console.host s = ran at hc hcode ⊢
      rcases ran with ⟨_ | _ | cause, t⟩
      · obtain ⟨before, u, hcalls, hbefore, hguest, hrun, hu⟩ := ih (s := t) hcode hc
        refine ⟨(instr.callMade? s).toList ++ before, u, ?_, fun d hd => ?_, hguest, hrun, hu⟩
        · simp only [hcalls, List.append_assoc]
        · rcases List.mem_append.mp hd with h | h
          · exact hnone d (Option.mem_toList.mp h)
          · exact hbefore d h
      · cases hc
      · cases hc

/-- A start function that makes a call that exits ends there, and the entry point does not run. -/
theorem exits_callsBefore {m : Module} (hc : c ∈ m.callsBefore) (hn : c.exit? = some n) :
    ∃ before console, m.callsBefore = before ++ [c] ∧ (∀ d ∈ before, d.exit? = none) ∧
      c.guest.host.exitCode = none ∧ m.entered = .error (.exited n, console) ∧
      console.exitCode = some n := by
  rcases entered_cases m with ⟨message, hcalls, -⟩ | ⟨memory, hcalls, hentered⟩
  · rw [hcalls] at hc
    cases hc
  · rw [hcalls] at hc
    obtain ⟨before, t, hmade, hbefore, hguest, hrun, ht⟩ := exits_execute rfl hc hn
    refine ⟨before, t.host, hcalls.trans hmade, hbefore, hguest, ?_, ht⟩
    simp only [hentered, hrun, Status.ofStop, ht, Option.getD_some]

theorem exit?_callsBefore {m : Module} (h : m.entered = .ok s) :
    ∀ d ∈ m.callsBefore, d.exit? = none := fun d hd => by
  cases hexit : d.exit? with
  | none => rfl
  | some k =>
    obtain ⟨_, _, -, -, -, hentered, -⟩ := exits_callsBefore hd hexit
    rw [h] at hentered
    cases hentered

/-- No code is recorded when the entry point is about to run. -/
theorem exitCode_entered {m : Module} (h : m.entered = .ok s) : s.host.exitCode = none := by
  have hnone := exit?_callsBefore h
  rcases entered_cases m with ⟨message, -, hentered⟩ | ⟨memory, hcalls, hentered⟩
  · rw [h] at hentered
    cases hentered
  · have hcode := exitCode_execute (hcalls ▸ hnone)
    rw [h] at hentered
    generalize execute Console.host (m.start.getD []) ⟨memory, .start⟩ = ran at hentered hcode
    rcases ran with ⟨_ | _ | cause, t⟩
    · obtain rfl := Except.ok.inj hentered
      exact hcode
    · obtain rfl := Except.ok.inj hentered
      exact hcode
    · cases hentered

/-- A call that exits is the last one of the run of a module and the only one that exits, whether
the start function or the entry point makes it, and the run ends with its code. -/
theorem exits_runLinked {m : Module} (hc : c ∈ callsOfLinked m) (hn : c.exit? = some n) :
    ∃ before, callsOfLinked m = before ++ [c] ∧ (∀ d ∈ before, d.exit? = none) ∧
      c.guest.host.exitCode = none ∧ (runLinked m).1 = .exited n ∧
      (runLinked m).2.exitCode = some n := by
  rw [callsOfLinked_eq] at hc ⊢
  rw [runLinked_eq]
  rcases List.mem_append.mp hc with hstart | hmain
  · obtain ⟨before, console, hcalls, hbefore, hguest, hentered, hcode⟩ :=
      exits_callsBefore hstart hn
    refine ⟨before, ?_, hbefore, hguest, ?_, ?_⟩
    · rw [hentered, hcalls, List.append_nil]
    · rw [hentered]
    · rw [hentered]
      exact hcode
  · cases hentered : m.entered with
    | error ended =>
      rw [hentered] at hmain
      cases hmain
    | ok s =>
      rw [hentered] at hmain
      obtain ⟨before, t, hcalls, hbefore, hguest, hrun, ht⟩ :=
        exits_execute (exitCode_entered hentered) hmain hn
      refine ⟨m.callsBefore ++ before, ?_, fun d hd => ?_, hguest, ?_⟩
      · simp only [hcalls, List.append_assoc]
      · rcases List.mem_append.mp hd with h | h
        · exact exit?_callsBefore hentered d h
        · exact hbefore d h
      · cases hentry : m.entryPoint? with
        | none =>
          rw [hentry] at hmain
          cases hmain
        | some body =>
          rw [hentry] at hrun
          simp only [Option.getD_some] at hrun
          simp only [hrun, Status.ofEnding, Status.ofStop, ht, Option.getD_some, and_self]

end Exits

end Sandbox.Guest
