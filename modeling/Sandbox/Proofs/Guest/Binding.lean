import Sandbox.Proofs.Guest.Stubs

/-!
# Guests whose memory is not known

The host learns where the memory of a guest is when the start function is over, and only from a
guest that exports it under the right name. Whether the host knows it is up to that step alone: no
call and no instruction changes it. Until then every call that uses the memory stops the guest,
before its arguments are looked at, and so nothing can have been written.

## Main definitions

* `memoryCalls` : the names of the calls that use the memory.
* `Instance.withBound` : a guest whose memory the host knows, or does not know.
* `Called.IsUnbound` : a call of one of these, made while the host does not know the memory.
* `Console.IsSilent` : nothing was written as long as the memory is not known.

## Main results

* `host_execute` : what every call keeps about the host, every run keeps.
* `ends_at_unanswered_call` : the first call that is not answered ends the run of a module.
* `status_eq_memoryUnbound_iff` : the calls that stop a guest because its memory is not known.
* `chunks_of_memoryUnbound` : a guest that is stopped for that reason has written nothing.
-/

namespace Sandbox.Guest

/-- The names of the calls that use the memory of the guest. -/
def memoryCalls : List String :=
  ["fd_write", "fd_fdstat_get", "environ_sizes_get", "args_sizes_get", "clock_time_get", "fd_read"]

/-- A guest whose memory the host knows, or does not know. -/
def Instance.withBound (s : Instance Console) (bound : Bool) : Instance Console :=
  { s with host := { s.host with bound := bound } }

/-- A call that uses the memory, made while the host does not know it. -/
def Called.IsUnbound (c : Called Console) : Prop :=
  c.function ∈ memoryCalls ∧ c.guest.host.bound = false

/-- As long as the memory is not known, nothing is written. -/
def Console.IsSilent (console : Console) : Prop :=
  console.bound = false → console.written = #[]

/-! ### What a run keeps -/

section Invariants

variable {σ : Type} {host : Host σ} {code : List Instr} {s : Instance σ} (P : σ → Prop)

/-- What every call keeps about the state of the host holds at each call of a run of instructions
and after it, however it ends. -/
theorem host_execute
    (hcall : ∀ name args (s : Instance σ), P s.host → P (host.call name args s).2.host)
    (h : P s.host) :
    P (execute host code s).2.host ∧ ∀ c ∈ callsMade host code s, P c.guest.host := by
  induction code generalizing s with
  | nil => exact ⟨h, fun _ hc => (List.not_mem_nil hc).elim⟩
  | cons instr code ih =>
    have hrun : P (instr.run host s).2.host := by
      rw [host_run]
      cases hmade : instr.callMade? s with
      | none => exact h
      | some c =>
        obtain rfl := guest_of_callMade? hmade
        exact hcall c.function c.args c.guest h
    have hfirst : ∀ c ∈ (instr.callMade? s).toList, P c.guest.host := by
      intro c hc
      rw [guest_of_callMade? (Option.mem_toList.mp hc)]
      exact h
    simp only [execute, callsMade, List.forall_mem_append]
    generalize instr.run host s = ran at hrun ⊢
    rcases ran with ⟨_ | _ | stop, t⟩
    · obtain ⟨hlast, hcalls⟩ := ih hrun
      exact ⟨hlast, hfirst, hcalls⟩
    · exact ⟨hrun, hfirst, fun _ hc => (List.not_mem_nil hc).elim⟩
    · exact ⟨hrun, hfirst, fun _ hc => (List.not_mem_nil hc).elim⟩

end Invariants

/-- Whether the host knows the memory is not changed by a call. -/
theorem bound_call (name : String) (args : Args) (s : Instance Console) :
    (Console.host.call name args s).2.host.bound = s.host.bound := by
  cases hserved : Syscall.ofName? name with
  | none => simp only [Console.host, hserved]
  | some call =>
    simp only [Console.host, hserved, Syscall.invoke]
    split
    · rfl
    · split <;> rfl

/-- A call forwards something only if the memory is known. -/
theorem isSilent_call (name : String) (args : Args) {s : Instance Console}
    (h : s.host.IsSilent) : (Console.host.call name args s).2.host.IsSilent := by
  intro hbound
  rw [bound_call] at hbound
  have hnone : (Called.mk name args s).forwarded = [] := if_neg fun hwrite => by
    simp [hbound] at hwrite
  rw [written_call, hnone, Array.appendList_nil, h hbound]

theorem bound_execute (code : List Instr) (s : Instance Console) :
    (execute Console.host code s).2.host.bound = s.host.bound ∧
      ∀ c ∈ callsMade Console.host code s, c.guest.host.bound = s.host.bound :=
  host_execute (fun console => console.bound = s.host.bound)
    (fun name args t ht => (bound_call name args t).trans ht) rfl

theorem isSilent_execute {code : List Instr} {s : Instance Console} (h : s.host.IsSilent) :
    (execute Console.host code s).2.host.IsSilent :=
  (host_execute Console.IsSilent (fun name args _ ht => isSilent_call name args ht) h).1

/-! ### Calls that are not answered -/

/-- A call that is not answered is the last one of a run of instructions, and all others are
answered. -/
theorem callsMade_of_call_error {σ : Type} {host : Host σ} {code : List Instr} {s t : Instance σ}
    {c : Called σ} {stop : Stop} (h : c ∈ callsMade host code s)
    (hcall : host.call c.function c.args c.guest = (.error stop, t)) :
    ∃ before, callsMade host code s = before ++ [c] ∧
      ∀ d ∈ before, ∃ w u, host.call d.function d.args d.guest = (.ok w, u) := by
  induction code generalizing s with
  | nil => cases h
  | cons instr code ih =>
    simp only [callsMade] at h ⊢
    cases hmade : instr.callMade? s with
    | none =>
      rw [hmade] at h
      simp only [Option.toList_none, List.nil_append] at h ⊢
      generalize instr.run host s = ran at h ⊢
      rcases ran with ⟨_ | _ | cause, u⟩
      · exact ih h
      · cases h
      · cases h
    | some d =>
      obtain ⟨name, args, resultAt, rfl⟩ : ∃ name args resultAt,
          instr = .call name args resultAt := by
        cases instr with
        | call name args resultAt => exact ⟨name, args, resultAt, rfl⟩
        | store | divideOneBy | trap | grow | leave => cases hmade
      cases hargs : s.values args with
      | error cause => simp [Instr.callMade?, hargs] at hmade
      | ok values =>
        obtain rfl : ⟨name, values, s⟩ = d := by simpa [Instr.callMade?, hargs] using hmade
        rw [hmade] at h
        simp only [Option.toList_some, Instr.run, hargs, List.singleton_append] at h ⊢
        -- Either this call is the one that is not answered, or it is answered.
        rcases hanswer : host.call name values s with ⟨cause | w, u⟩
        · rw [hanswer] at h
          obtain rfl := List.mem_singleton.mp h
          exact ⟨[], rfl, fun _ hd => (List.not_mem_nil hd).elim⟩
        · rw [hanswer] at h
          have hne : c ≠ ⟨name, values, s⟩ := by
            rintro rfl
            rw [hanswer] at hcall
            cases hcall
          replace h := (List.mem_cons.mp h).resolve_left hne
          simp only at h ⊢
          split at h
          · obtain ⟨before, hcalls, hbefore⟩ := ih h
            refine ⟨⟨name, values, s⟩ :: before, by rw [hcalls]; rfl, ?_⟩
            exact List.forall_mem_cons.mpr ⟨⟨w, u, hanswer⟩, hbefore⟩
          · cases h

/-- A call of a linked module is one of its start function, or one of its entry point. -/
theorem mem_callsOfLinked_iff {m : Module} {c : Called Console} :
    c ∈ callsOfLinked m ↔ c ∈ m.callsBefore ∨
      ∃ s, m.entered = .ok s ∧ c ∈ callsMade Console.host (m.entryPoint?.getD []) s := by
  rw [callsOfLinked_eq, List.mem_append]
  cases m.entered with
  | error ended => simp
  | ok s => simp

/-- The calls of a start function that comes to an end are answered. -/
theorem answered_callsBefore {m : Module} {s : Instance Console} (h : m.entered = .ok s) :
    ∀ d ∈ m.callsBefore, ∃ w u, Console.host.call d.function d.args d.guest = (.ok w, u) := by
  intro d hd
  rcases entered_cases m with ⟨message, hcalls, -⟩ | ⟨memory, hcalls, hentered⟩
  · rw [hcalls] at hd
    cases hd
  · rcases hanswer : Console.host.call d.function d.args d.guest with ⟨cause | w, u⟩
    · rw [execute_of_call_error (hcalls ▸ hd) hanswer, h] at hentered
      cases hentered
    · exact ⟨w, u, rfl⟩

/-- The first call that is not answered ends the run of a module, in the start function or in the
entry point. -/
theorem ends_at_unanswered_call {m : Module} {c : Called Console} {stop : Stop}
    {t : Instance Console} (h : c ∈ callsOfLinked m)
    (hcall : Console.host.call c.function c.args c.guest = (.error stop, t)) :
    runLinked m = (.ofStop t.host.exitCode stop, t.host) ∧
      ∃ before, callsOfLinked m = before ++ [c] ∧
        ∀ d ∈ before, ∃ w u, Console.host.call d.function d.args d.guest = (.ok w, u) := by
  have hrun {code : List Instr} {s : Instance Console} (hc : c ∈ callsMade Console.host code s) :
      execute Console.host code s = (.stopped stop, t) ∧
        ∃ before, callsMade Console.host code s = before ++ [c] ∧
          ∀ d ∈ before, ∃ w u, Console.host.call d.function d.args d.guest = (.ok w, u) :=
    ⟨execute_of_call_error hc hcall, callsMade_of_call_error hc hcall⟩
  rw [callsOfLinked_eq] at h ⊢
  rw [runLinked_eq]
  rcases List.mem_append.mp h with hstart | hmain
  · rcases entered_cases m with ⟨message, hcalls, -⟩ | ⟨memory, hcalls, hentered⟩
    · rw [hcalls] at hstart
      cases hstart
    · rw [hcalls] at hstart ⊢
      obtain ⟨hstopped, before, hmade, hbefore⟩ := hrun hstart
      rw [hstopped] at hentered
      refine ⟨by rw [hentered], before, ?_, hbefore⟩
      rw [hentered, hmade, List.append_nil]
  · cases hentered : m.entered with
    | error ended =>
      rw [hentered] at hmain
      cases hmain
    | ok s =>
      rw [hentered] at hmain
      cases hentry : m.entryPoint? with
      | none =>
        rw [hentry] at hmain
        cases hmain
      | some body =>
        rw [hentry] at hmain
        obtain ⟨hstopped, before, hmade, hbefore⟩ := hrun hmain
        simp only [Option.getD_some] at hstopped hmade ⊢
        refine ⟨by rw [hstopped]; rfl, m.callsBefore ++ before, ?_, ?_⟩
        · rw [hmade, List.append_assoc]
        · exact List.forall_mem_append.mpr ⟨answered_callsBefore hentered, hbefore⟩

/-! ### The memory of a run -/

section Runs

variable {m : Module}

/-- Until the entry point runs, the memory is not known. -/
theorem bound_callsBefore : ∀ c ∈ m.callsBefore, c.guest.host.bound = false := by
  rcases entered_cases m with ⟨message, hcalls, -⟩ | ⟨memory, hcalls, -⟩
  · rw [hcalls]
    exact fun _ hc => (List.not_mem_nil hc).elim
  · rw [hcalls]
    exact (bound_execute (m.start.getD []) ⟨memory, .start⟩).2

/-- When the entry point is about to run, the host knows the memory of exactly those guests that
export it, and nothing is written. -/
theorem bound_entered {s : Instance Console} (h : m.entered = .ok s) :
    s.host.bound = m.exportsMemory ∧ s.host.written = #[] := by
  rcases entered_cases m with ⟨message, -, hentered⟩ | ⟨memory, -, hentered⟩
  · rw [h] at hentered
    cases hentered
  · have hbound := (bound_execute (m.start.getD []) ⟨memory, .start⟩).1
    have hsilent : (execute Console.host (m.start.getD []) ⟨memory, .start⟩).2.host.IsSilent :=
      isSilent_execute fun _ => rfl
    rw [h] at hentered
    generalize execute Console.host (m.start.getD []) ⟨memory, .start⟩ = ran
      at hentered hbound hsilent
    rcases ran with ⟨_ | _ | cause, t⟩
    · obtain rfl := Except.ok.inj hentered
      exact ⟨rfl, hsilent hbound⟩
    · obtain rfl := Except.ok.inj hentered
      exact ⟨rfl, hsilent hbound⟩
    · cases hentered

/-- A guest that ends with its memory not known has written nothing. -/
theorem isSilent_runLinked : (runLinked m).2.IsSilent := by
  rw [runLinked_eq]
  cases hentered : m.entered with
  | error ended =>
    rcases entered_cases m with ⟨message, -, htrapped⟩ | ⟨memory, -, hstarted⟩
    · obtain rfl := Except.error.inj (hentered.symm.trans htrapped)
      exact fun _ => rfl
    · have hsilent : (execute Console.host (m.start.getD []) ⟨memory, .start⟩).2.host.IsSilent :=
        isSilent_execute fun _ => rfl
      rw [hentered] at hstarted
      generalize execute Console.host (m.start.getD []) ⟨memory, .start⟩ = ran at hstarted hsilent
      rcases ran with ⟨_ | _ | cause, t⟩
      · cases hstarted
      · cases hstarted
      · obtain rfl := Except.error.inj hstarted
        exact hsilent
  | ok s =>
    have hs : s.host.IsSilent := fun _ => (bound_entered hentered).2
    cases m.entryPoint? with
    | none => exact hs
    | some body => exact isSilent_execute hs

end Runs

/-! ### Calls that use the memory -/

theorem needsMemory_iff (call : Syscall) : call.needsMemory = true ↔ call.name ∈ memoryCalls := by
  cases call <;> decide

/-- A call that uses the memory stops a guest whose memory is not known, whatever its arguments. -/
theorem call_of_isUnbound {c : Called Console} (h : c.IsUnbound) :
    Console.host.call c.function c.args c.guest =
      (.error (.defect (.memoryUnbound c.function)), c.guest) := by
  obtain ⟨function, args, s⟩ := c
  obtain ⟨hmem, hbound⟩ := h
  dsimp only at hmem hbound ⊢
  have hserved : ∀ name ∈ memoryCalls, (Syscall.ofName? name).isSome := by decide
  obtain ⟨call, hcall⟩ := Option.isSome_iff_exists.mp (hserved function hmem)
  obtain rfl := name_of_ofName? hcall
  have hneeds := (needsMemory_iff call).mpr hmem
  have hexit : call ≠ .procExit := by
    rintro rfl
    cases hneeds
  simp only [Console.host, hcall, Syscall.invoke, if_neg hexit, hneeds, hbound, Bool.not_false,
    Bool.and_self, if_true]

/-- No other call is answered in that way. -/
theorem call_eq_memoryUnbound {c : Called Console} {name : String} {t : Instance Console}
    (h : Console.host.call c.function c.args c.guest =
      (.error (.defect (.memoryUnbound name)), t)) :
    c.function = name ∧ c.IsUnbound ∧ t = c.guest := by
  obtain ⟨function, args, s⟩ := c
  dsimp only at h ⊢
  cases hserved : Syscall.ofName? function with
  | none => simp [Console.host, hserved] at h
  | some call =>
    obtain rfl := name_of_ofName? hserved
    simp only [Console.host, hserved, Syscall.invoke] at h
    split at h
    · cases h
    · split at h
      case isFalse => cases h
      case isTrue hneeds =>
        obtain ⟨hneeds, hbound⟩ := Bool.and_eq_true_iff.mp hneeds
        simp only [Prod.mk.injEq, Except.error.injEq, Stop.defect.injEq,
          Defect.memoryUnbound.injEq] at h
        exact ⟨h.1, ⟨(needsMemory_iff call).mp hneeds, by simpa using hbound⟩, h.2.symm⟩

/-- The calls that do not use the memory have the same answers and the same effects, whether or not
the memory is known. -/
theorem call_withBound {name : String} (h : name ∉ memoryCalls) (args : Args)
    (s : Instance Console) (bound : Bool) :
    Console.host.call name args (s.withBound bound) =
      ((Console.host.call name args s).1, (Console.host.call name args s).2.withBound bound) := by
  cases hserved : Syscall.ofName? name with
  | none => simp only [Console.host, hserved, Instance.withBound]
  | some call =>
    obtain rfl := name_of_ofName? hserved
    have hneeds : call.needsMemory = false := by
      rw [← Bool.not_eq_true, needsMemory_iff]
      exact h
    simp only [Console.host, hserved, Syscall.invoke, hneeds, Instance.withBound, Bool.false_and,
      Bool.false_eq_true, if_false]
    split <;> rfl

/-! ### Guests that are stopped -/

section Stopped

variable {policy : ImportPolicy} {m : Module}

theorem not_isUnbound_callsBefore {s : Instance Console} (h : m.entered = .ok s) :
    ∀ c ∈ m.callsBefore, ¬ c.IsUnbound := by
  intro c hc hunbound
  obtain ⟨w, u, hanswer⟩ := answered_callsBefore h c hc
  rw [call_of_isUnbound hunbound] at hanswer
  cases hanswer

/-- If one call uses the memory before it is known, the memory is never known. -/
theorem bound_of_isUnbound {c : Called Console} (h : c ∈ callsOf policy m) (hc : c.IsUnbound) :
    ∀ d ∈ callsOf policy m, d.guest.host.bound = false := by
  intro d hd
  obtain ⟨stubs, hlink⟩ := link_of_mem_callsOf h
  rw [callsOf_of_link_ok hlink, mem_callsOfLinked_iff] at h hd
  rcases hd with hd | ⟨s, hentered, hd⟩
  · exact bound_callsBefore d hd
  · rcases h with hstart | ⟨s', hentered', hmain⟩
    · exact absurd hc (not_isUnbound_callsBefore hentered c hstart)
    · obtain rfl := Except.ok.inj (hentered.symm.trans hentered')
      have hbound := (bound_execute (m.entryPoint?.getD []) s).2
      rw [hbound d hd, ← hbound c hmain, hc.2]

/-- A call that uses a memory which is not known is the last one of its run and the first one of
its kind, and the run ends with the defect. -/
theorem start_of_isUnbound {c : Called Console} (h : c ∈ callsOf policy m) (hc : c.IsUnbound) :
    (start policy m).status = .defect (.memoryUnbound c.function) ∧
      ∃ before, callsOf policy m = before ++ [c] ∧ ∀ d ∈ before, d.function ∉ memoryCalls := by
  have hunknown := bound_of_isUnbound h hc
  obtain ⟨stubs, hlink⟩ := link_of_mem_callsOf h
  rw [callsOf_of_link_ok hlink] at h hunknown ⊢
  obtain ⟨hrun, before, hcalls, hbefore⟩ := ends_at_unanswered_call h (call_of_isUnbound hc)
  refine ⟨by rw [start_of_link_ok hlink, hrun]; rfl, before, hcalls, fun d hd hmem => ?_⟩
  have hbound := hunknown d (hcalls ▸ List.mem_append_left _ hd)
  obtain ⟨w, u, hanswer⟩ := hbefore d hd
  rw [call_of_isUnbound ⟨hmem, hbound⟩] at hanswer
  cases hanswer

/-- A linked guest is stopped because its memory is not known exactly if it makes a call that uses
the memory then. -/
theorem status_eq_memoryUnbound_iff {stubs : List String}
    (hlink : link policy m.imports = .ok stubs) (name : String) :
    (start policy m).status = .defect (.memoryUnbound name) ↔
      ∃ c ∈ callsOf policy m, c.function = name ∧ c.IsUnbound := by
  refine ⟨fun hstatus => ?_, fun ⟨c, hc, hname, hunbound⟩ => ?_⟩
  · rw [start_of_link_ok hlink] at hstatus
    obtain ⟨before, c, t, hcalls, hcall⟩ := ends_with_call_runLinked hstatus
    obtain ⟨hname, hunbound, -⟩ := call_eq_memoryUnbound hcall
    refine ⟨c, ?_, hname, hunbound⟩
    rw [callsOf_of_link_ok hlink, hcalls]
    exact List.mem_append_right _ (List.mem_singleton_self c)
  · rw [(start_of_isUnbound hc hunbound).1, hname]

/-- A guest that is stopped because its memory is not known has written nothing. -/
theorem chunks_of_memoryUnbound {stubs : List String} (hlink : link policy m.imports = .ok stubs)
    {name : String} (h : (start policy m).status = .defect (.memoryUnbound name)) :
    (start policy m).chunks = [] := by
  obtain ⟨c, hc, -, hunbound⟩ := (status_eq_memoryUnbound_iff hlink name).mp h
  rw [callsOf_of_link_ok hlink] at hc
  have hrun := (ends_at_unanswered_call hc (call_of_isUnbound hunbound)).1
  have hsilent : (runLinked m).2.IsSilent := isSilent_runLinked
  rw [start_of_link_ok hlink]
  rw [hrun] at hsilent ⊢
  exact congrArg Array.toList (hsilent hunbound.2)

/-- The memory is not known before the entry point runs, and during the whole run of a guest that
does not export it. -/
theorem bound_of_mem {c : Called Console} (h : c ∈ callsOf policy m)
    (hc : c ∈ m.callsBefore ∨ m.exportsMemory = false) : c.guest.host.bound = false := by
  rcases hc with hstart | hexports
  · exact bound_callsBefore c hstart
  · obtain ⟨stubs, hlink⟩ := link_of_mem_callsOf h
    rw [callsOf_of_link_ok hlink, mem_callsOfLinked_iff] at h
    rcases h with hstart | ⟨s, hentered, hmain⟩
    · exact bound_callsBefore c hstart
    · rw [(bound_execute _ s).2 c hmain, (bound_entered hentered).1, hexports]

/-- No call of an instantiated guest that exports its memory is one that the host cannot serve for
want of the memory. -/
theorem not_isUnbound_of_entered {s : Instance Console} (hentered : m.entered = .ok s)
    (hexports : m.exportsMemory = true) :
    ∀ c ∈ callsMade Console.host (m.entryPoint?.getD []) s, ¬ c.IsUnbound := by
  intro c hc hunbound
  have hbound := (bound_execute _ s).2 c hc
  rw [(bound_entered hentered).1, hexports, hunbound.2] at hbound
  cases hbound

/-- Once a guest that exports its memory is instantiated, it is not stopped for want of it. -/
theorem status_of_entered {stubs : List String} (hlink : link policy m.imports = .ok stubs)
    {s : Instance Console} (hentered : m.entered = .ok s) (hexports : m.exportsMemory = true)
    (name : String) : (start policy m).status ≠ .defect (.memoryUnbound name) := by
  intro hstatus
  obtain ⟨c, hc, -, hunbound⟩ := (status_eq_memoryUnbound_iff hlink name).mp hstatus
  rw [callsOf_of_link_ok hlink, mem_callsOfLinked_iff] at hc
  rcases hc with hstart | ⟨s', hentered', hmain⟩
  · exact not_isUnbound_callsBefore hentered c hstart hunbound
  · obtain rfl := Except.ok.inj (hentered.symm.trans hentered')
    exact not_isUnbound_of_entered hentered hexports c hmain hunbound

end Stopped

end Sandbox.Guest
