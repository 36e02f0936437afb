import Mathlib.Data.List.Induction
import Sandbox.Proofs.Guest.Linking

/-!
# Imports that are not served

A guest that imports only functions of the system interface is linked under the policy with stubs,
as long as it asks for no function twice that is not served. If it does, the second stub has no
place, and the guest is refused although it may call neither. Once it is linked, it is stopped by a
gap exactly if it reaches a call of a function that is not served, and what it never calls may be
missing, or be served in any way, without a change to how the run ends or to what it writes.

## Main definitions

* `Import.IsSystemFunction` : a function of the system interface.
* `Host.answering` : a host with another answer for one function.
* `runOn` : the run of a linked module on any host.
* `Module.withoutImport` : a module without the imports of one name.

## Main results

* `link_of_repeated` : the first function that is not served and is asked for twice.
* `status_eq_gap_iff` : the calls that stop a guest by a gap.
* `runOn_answering`, `runLinked_withoutImport` : a function that is never called.
* `link_and_start_functions` : linking and running with functions of the system interface.
-/

namespace Sandbox.Guest

/-- A function of the system interface, whatever its name and its type. -/
def Import.IsSystemFunction (i : Import) : Prop :=
  i.origin = systemModule ∧ ∃ signature, i.kind = .function signature

theorem Import.IsSystemFunction.accepted {i : Import} (h : i.IsSystemFunction) :
    i.Accepted .trapOnCall :=
  ⟨h.1, fun _ => ⟨rfl, h.2⟩⟩

/-! ### Functions that are asked for twice -/

section Repeated

variable {policy : ImportPolicy} {i : Import} {imports before after : List Import}

theorem unservedNames_append (before after : List Import) :
    unservedNames (before ++ after) = unservedNames before ++ unservedNames after := by
  simp [unservedNames]

/-- A function that is not served and has a stub already gets no second one. -/
theorem linkFrom_cons_of_stubbed (h : i.Accepted policy)
    (hunserved : Syscall.ofName? i.name = none) {stubs : List String} (hstub : i.name ∈ stubs) :
    linkFrom policy stubs (i :: imports) = .error (.link (.definedTwice i.name)) := by
  obtain ⟨rfl, signature, hkind⟩ := h.2 hunserved
  simp [linkFrom, h.1, hunserved, hkind, hstub]

/-- The first function that is not served and is asked for twice is what is wrong. -/
theorem link_of_repeated (h : ∀ j ∈ before ++ i :: after, j.Accepted policy)
    (hnodup : (unservedNames before).Nodup) (hmem : i.name ∈ unservedNames before) :
    link policy (before ++ i :: after) = .error (.link (.definedTwice i.name)) := by
  obtain ⟨hbefore, hi, -⟩ := List.forall_mem_append.mp h |>.imp_right List.forall_mem_cons.mp
  have hunserved : Syscall.ofName? i.name = none := by
    simpa using (List.mem_filter.mp hmem).2
  rw [link, linkFrom_append_of_accepted hbefore hnodup (fun _ _ => List.not_mem_nil),
    linkFrom_cons_of_stubbed hi hunserved]
  exact List.mem_append_left _ (List.mem_reverse.mpr hmem)

/-- If functions that are not served are asked for twice, one of them is the first. -/
theorem exists_repeated (h : ¬ (unservedNames imports).Nodup) :
    ∃ before i after, imports = before ++ i :: after ∧ (unservedNames before).Nodup ∧
      i.name ∈ unservedNames before := by
  induction imports using List.reverseRecOn with
  | nil => exact absurd List.nodup_nil h
  | append_singleton imports i ih =>
    by_cases hnodup : (unservedNames imports).Nodup
    · refine ⟨imports, i, [], rfl, hnodup, ?_⟩
      rw [unservedNames_append, unservedNames_cons, show unservedNames [] = [] from rfl] at h
      by_cases hserved : Syscall.ofName? i.name = none
      · rw [if_pos hserved] at h
        refine Decidable.byContradiction fun hfresh => h ?_
        refine List.nodup_append.mpr ⟨hnodup, List.pairwise_singleton _ _, ?_⟩
        rintro name hname other hother rfl
        exact hfresh (List.mem_singleton.mp hother ▸ hname)
      · rw [if_neg hserved, List.append_nil] at h
        exact absurd hnodup h
    · obtain ⟨before, j, after, rfl, hbefore, hmem⟩ := ih hnodup
      exact ⟨before, j, after ++ [i], by simp, hbefore, hmem⟩

end Repeated

/-! ### Calls that stop a guest -/

section Stopped

variable {σ : Type} {host : Host σ} {code : List Instr} {s t : Instance σ} {c : Called σ}
  {stop : Stop}

/-- A call that is not answered stops the run of the instructions. -/
theorem execute_of_call_error (h : c ∈ callsMade host code s)
    (hcall : host.call c.function c.args c.guest = (.error stop, t)) :
    execute host code s = (.stopped stop, t) := by
  induction code generalizing s with
  | nil => cases h
  | cons instr code ih =>
    simp only [callsMade] at h
    simp only [execute]
    rcases List.mem_append.mp h with hmade | hrest
    · rw [Option.mem_toList] at hmade
      cases instr with
      | call function args resultAt =>
        cases hargs : s.values args with
        | error cause => simp [Instr.callMade?, hargs] at hmade
        | ok values =>
          obtain rfl : ⟨function, values, s⟩ = c := by simpa [Instr.callMade?, hargs] using hmade
          simp only [Instr.run, hargs, hcall]
      | store | divideOneBy | trap | grow | leave => cases hmade
    · generalize instr.run host s = ran at hrest ⊢
      rcases ran with ⟨_ | _ | cause, u⟩
      · exact ih hrest
      · cases hrest
      · cases hrest

end Stopped

theorem call_of_unserved {name : String} (h : Syscall.ofName? name = none) (args : Args)
    (s : Instance Console) : ∃ t, Console.host.call name args s =
      (.error (.defect (.gap name)), t) := by
  simp only [Console.host, h]
  exact ⟨_, rfl⟩

/-- A linked guest that calls a function that is not served is stopped by that gap. -/
theorem runLinked_of_unserved_call {m : Module} {c : Called Console} (h : c ∈ callsOfLinked m)
    (hunserved : Syscall.ofName? c.function = none) :
    (runLinked m).1 = .defect (.gap c.function) := by
  obtain ⟨t, hcall⟩ := call_of_unserved hunserved c.args c.guest
  rw [callsOfLinked_eq] at h
  rw [runLinked_eq]
  rcases List.mem_append.mp h with hbefore | hmain
  · rcases entered_cases m with ⟨message, hcalls, -⟩ | ⟨memory, hcalls, hentered⟩
    · rw [hcalls] at hbefore
      cases hbefore
    · rw [hcalls] at hbefore
      rw [execute_of_call_error hbefore hcall] at hentered
      rw [hentered]
      rfl
  · cases hentered : m.entered with
    | error ended =>
      rw [hentered] at hmain
      cases hmain
    | ok s =>
      rw [hentered] at hmain
      cases hentry : m.entryPoint? with
      | none =>
        rw [hentry] at hmain
        cases hmain
      | some body =>
        rw [hentry] at hmain
        have hran : execute Console.host body s = (.stopped (.defect (.gap c.function)), t) :=
          execute_of_call_error hmain hcall
        simp only [hran]
        rfl

/-- A guest is stopped by a gap exactly if it calls that function and it is not served. -/
theorem status_eq_gap_iff (m : Module) (name : String) :
    (start .trapOnCall m).status = .defect (.gap name) ↔
      Syscall.ofName? name = none ∧ ∃ c ∈ callsOf .trapOnCall m, c.function = name := by
  constructor
  · intro hgap
    cases hlink : link .trapOnCall m.imports with
    | error cause =>
      rw [start_of_link_error hlink] at hgap
      obtain rfl := Status.defect.inj hgap
      exact absurd hlink (linkFrom_trapOnCall_ne_gap [] name)
    | ok stubs =>
      rw [start_of_link_ok hlink] at hgap
      obtain ⟨before, c, t, hcalls, hcall⟩ := ends_with_call_runLinked hgap
      obtain ⟨hname, hunserved⟩ := call_eq_gap hcall
      refine ⟨hunserved, c, ?_, hname⟩
      rw [callsOf_of_link_ok hlink, hcalls]
      exact List.mem_append_right _ (List.mem_singleton_self c)
  · rintro ⟨hunserved, c, hmem, rfl⟩
    obtain ⟨stubs, hlink⟩ := link_of_mem_callsOf hmem
    rw [callsOf_of_link_ok hlink] at hmem
    rw [start_of_link_ok hlink]
    exact runLinked_of_unserved_call hmem hunserved

/-- What a closed guest calls, it imports. -/
theorem exists_import_of_mem_callsOf {m : Module} {c : Called Console} {policy : ImportPolicy}
    (hclosed : m.IsClosed) (h : c ∈ callsOf policy m) : ∃ i ∈ m.imports, i.name = c.function := by
  obtain ⟨stubs, hlink⟩ := link_of_mem_callsOf h
  rw [callsOf_of_link_ok hlink] at h
  obtain ⟨args, resultAt, hcode⟩ := mem_code_of_callsOfLinked h
  exact hclosed _ _ _ hcode

/-! ### Functions that are never called -/

/-- The host that answers calls of one function in another way. -/
def Host.answering {σ : Type} (host : Host σ) (name : String)
    (answer : Args → Instance σ → Except Stop UInt32 × Instance σ) : Host σ where
  call function args s := if function = name then answer args s else host.call function args s

/-- Runs a module whose imports are linked on any host. -/
def runOn (host : Host Console) (m : Module) : Status × Console :=
  match mismatch? m.imports with
  | some name => (.trapped (mismatchMessage name), .start)
  | none =>
    match instantiate host .start m with
    | (.stopped cause, s) => (.ofStop s.host.exitCode cause, s.host)
    | (_, s) =>
      let s := bind m s
      match m.entryPoint? with
      | none => (.trapped noEntryPoint, s.host)
      | some body =>
        let (ending, s) := execute host body s
        (.ofEnding s.host.exitCode ending, s.host)

theorem runOn_host (m : Module) : runOn Console.host m = runLinked m :=
  rfl

/-- A module without the imports of a name. -/
def Module.withoutImport (m : Module) (name : String) : Module :=
  { m with imports := m.imports.filter fun i => i.name != name }

section Uncalled

variable {σ : Type} {host host' : Host σ} {m : Module} {name : String}

/-- A run depends on the answers to the calls that it makes and on no others. -/
theorem execute_congr {code : List Instr} {s : Instance σ}
    (h : ∀ c ∈ callsMade host code s,
      host'.call c.function c.args c.guest = host.call c.function c.args c.guest) :
    execute host' code s = execute host code s := by
  induction code generalizing s with
  | nil => rfl
  | cons instr code ih =>
    simp only [callsMade] at h
    obtain ⟨hmade, hrest⟩ := List.forall_mem_append.mp h
    have hrun : instr.run host' s = instr.run host s := by
      cases instr with
      | call function args resultAt =>
        cases hargs : s.values args with
        | error cause => simp only [Instr.run, hargs]
        | ok values =>
          have hcall := hmade ⟨function, values, s⟩ (by simp [Instr.callMade?, hargs])
          simp only [Instr.run, hargs, hcall]
      | store | divideOneBy | trap | grow | leave => rfl
    simp only [execute, hrun]
    generalize instr.run host s = ran at hrest ⊢
    rcases ran with ⟨_ | _ | cause, t⟩
    · exact ih hrest
    · rfl
    · rfl

/-- The answers for a function that a linked guest never calls make no difference to its run. -/
theorem runOn_answering (h : ∀ c ∈ callsOfLinked m, c.function ≠ name)
    (answer : Args → Instance Console → Except Stop UInt32 × Instance Console) :
    runOn (Console.host.answering name answer) m = runLinked m := by
  have hcongr : ∀ code s, (∀ c ∈ callsMade Console.host code s, c.function ≠ name) →
      execute (Console.host.answering name answer) code s = execute Console.host code s :=
    fun code s hcalls => execute_congr fun c hc => if_neg (hcalls c hc)
  rw [← runOn_host]
  unfold callsOfLinked at h
  unfold runOn instantiate
  cases hmismatch : mismatch? m.imports with
  | some other => rfl
  | none =>
    cases hplaced : placeData m.freshMemory m.data with
    | error cause => rfl
    | ok memory =>
      rw [hmismatch, hplaced] at h
      obtain ⟨hstart, hmain⟩ := List.forall_mem_append.mp h
      simp only [hcongr _ _ hstart]
      generalize execute Console.host (m.start.getD []) ⟨memory, .start⟩ = ran at hmain ⊢
      rcases ran with ⟨_ | _ | cause, s⟩
      · cases hentry : m.entryPoint? with
        | none => rfl
        | some body =>
          rw [hentry] at hmain
          simp only [hcongr body _ hmain]
      · cases hentry : m.entryPoint? with
        | none => rfl
        | some body =>
          rw [hentry] at hmain
          simp only [hcongr body _ hmain]
      · rfl

theorem mismatch?_withoutImport (h : Syscall.ofName? name = none) :
    mismatch? (m.withoutImport name).imports = mismatch? m.imports := by
  unfold mismatch? Module.withoutImport
  rw [List.find?_filter]
  congr 2
  funext i
  by_cases hname : i.name = name
  · simp [hname, h]
  · simp [hname]

/-- A linked guest runs the same without an import that is not served. -/
theorem runLinked_withoutImport (h : Syscall.ofName? name = none) :
    runLinked (m.withoutImport name) = runLinked m := by
  unfold runLinked
  rw [mismatch?_withoutImport h]
  rfl

/-- A guest that is linked is linked without the imports of a name, too. -/
theorem link_withoutImport {policy : ImportPolicy}
    (hnodup : (unservedNames m.imports).Nodup) (h : ∀ i ∈ m.imports, i.Accepted policy) :
    link policy (m.withoutImport name).imports =
      .ok (unservedNames (m.withoutImport name).imports) :=
  link_eq_unservedNames (hnodup.sublist ((List.filter_sublist.map _).filter _)) fun i hi =>
    h i (List.mem_filter.mp hi).1

end Uncalled

/-! ### Linking and running -/

/-- Functions of the system interface are linked under the policy with stubs, whatever their names
and types, exactly if none that is not served is asked for twice; else the first one that is decides
what is wrong, and nothing runs. A guest is stopped by a gap exactly if it reaches a call of a
function that it imports and that is not served. And a function that is not served and never called
is as good as missing, and as good as served by any answers. -/
theorem link_and_start_functions (m : Module) (himports : ∀ i ∈ m.imports, i.IsSystemFunction) :
    ((unservedNames m.imports).Nodup →
      link .trapOnCall m.imports = .ok (unservedNames m.imports)) ∧
    (¬ (unservedNames m.imports).Nodup → ∃ before i after, m.imports = before ++ i :: after ∧
      (unservedNames before).Nodup ∧ i.name ∈ unservedNames before ∧
      link .trapOnCall m.imports = .error (.link (.definedTwice i.name)) ∧
      (start .trapOnCall m).status = .defect (.link (.definedTwice i.name)) ∧
      (start .trapOnCall m).chunks = []) ∧
    (m.IsClosed → ∀ name, (start .trapOnCall m).status = .defect (.gap name) ↔
      name ∈ unservedNames m.imports ∧ ∃ c ∈ callsOf .trapOnCall m, c.function = name) ∧
    ((unservedNames m.imports).Nodup → ∀ name, Syscall.ofName? name = none →
      (∀ c ∈ callsOf .trapOnCall m, c.function ≠ name) →
        (start .trapOnCall (m.withoutImport name)).status = (start .trapOnCall m).status ∧
        (start .trapOnCall (m.withoutImport name)).chunks = (start .trapOnCall m).chunks ∧
        ∀ answer, (runOn (Console.host.answering name answer) m).1 = (start .trapOnCall m).status ∧
          (runOn (Console.host.answering name answer) m).2.written.toList =
            (start .trapOnCall m).chunks) := by
  have haccepted : ∀ i ∈ m.imports, i.Accepted .trapOnCall := fun i hi => (himports i hi).accepted
  refine ⟨fun hnodup => link_eq_unservedNames hnodup haccepted, fun hrepeated => ?_,
    fun hclosed name => ?_, fun hnodup name hunserved huncalled => ?_⟩
  · obtain ⟨before, i, after, hsplit, hnodup, hmem⟩ := exists_repeated hrepeated
    have hlink : link .trapOnCall m.imports = .error (.link (.definedTwice i.name)) := by
      rw [hsplit] at haccepted ⊢
      exact link_of_repeated haccepted hnodup hmem
    exact ⟨before, i, after, hsplit, hnodup, hmem, hlink, chunks_of_link_error hlink⟩
  · rw [status_eq_gap_iff]
    constructor
    · rintro ⟨hunserved, c, hmem, rfl⟩
      obtain ⟨i, hi, hname⟩ := exists_import_of_mem_callsOf hclosed hmem
      exact ⟨hname ▸ mem_unservedNames hi (hname ▸ hunserved), c, hmem, rfl⟩
    · rintro ⟨hname, hcalled⟩
      exact ⟨by simpa using (List.mem_filter.mp hname).2, hcalled⟩
  · have hlink := link_eq_unservedNames hnodup haccepted
    have hwithout : link .trapOnCall (m.withoutImport name).imports = .ok _ :=
      link_withoutImport hnodup haccepted
    rw [callsOf_of_link_ok hlink] at huncalled
    rw [start_of_link_ok hlink, start_of_link_ok hwithout, runLinked_withoutImport hunserved]
    exact ⟨rfl, rfl, fun answer => by rw [runOn_answering huncalled]; exact ⟨rfl, rfl⟩⟩

/-! ### Two guests -/

/-- A guest that imports two functions that are not served and calls one of them. -/
def selectiveGuest : Module :=
  { gappedGuest with
    imports := ⟨systemModule, "sched_yield", .function ⟨[], [.i32]⟩⟩ :: gappedGuest.imports }

/-- A guest that imports a function that is not served twice, at two types, and calls nothing. -/
def repeatedGuest : Module where
  imports := [⟨systemModule, "random_get", .function ⟨[.i32, .i32], [.i32]⟩⟩,
    ⟨systemModule, "random_get", .function ⟨[.i64], []⟩⟩]
  memory := none
  data := []
  start := none
  entry := some (entryName, .function ⟨[], []⟩ [])

private theorem isSystemFunction_selectiveGuest :
    ∀ i ∈ selectiveGuest.imports, i.IsSystemFunction := by
  intro i hi
  simp only [selectiveGuest, gappedGuest, List.mem_cons, List.not_mem_nil, or_false] at hi
  rcases hi with rfl | rfl | rfl
  · exact ⟨rfl, _, rfl⟩
  · exact ⟨rfl, _, rfl⟩
  · exact ⟨rfl, _, rfl⟩

private theorem isSystemFunction_repeatedGuest :
    ∀ i ∈ repeatedGuest.imports, i.IsSystemFunction := by
  intro i hi
  simp only [repeatedGuest, List.mem_cons, List.not_mem_nil, or_false] at hi
  rcases hi with rfl | rfl
  · exact ⟨rfl, _, rfl⟩
  · exact ⟨rfl, _, rfl⟩

private theorem isClosed_selectiveGuest : selectiveGuest.IsClosed := by
  intro function args resultAt hmem
  have hcode : selectiveGuest.start.getD [] ++ selectiveGuest.entryPoint?.getD [] =
      [.call "fd_close" [(.i32, .const 1)] none,
        .call "random_get" [(.i32, .const 0), (.i32, .const 4)] none] := rfl
  rw [hcode] at hmem
  simp only [List.mem_cons, List.not_mem_nil, or_false, Instr.call.injEq] at hmem
  rcases hmem with ⟨rfl, -⟩ | ⟨rfl, -⟩ <;> decide

private theorem functions_selectiveGuest :
    (callsOf .trapOnCall selectiveGuest).map Called.function = ["fd_close", "random_get"] :=
  rfl

/-- A guest that imports a function twice is refused, although it never calls that function and
would return if it did not import it. -/
theorem start_repeatedGuest :
    (∀ i ∈ repeatedGuest.imports, i.IsSystemFunction) ∧
      (∀ c ∈ callsOfLinked repeatedGuest, c.function ≠ "random_get") ∧
      link .trapOnCall repeatedGuest.imports = .error (.link (.definedTwice "random_get")) ∧
      (start .trapOnCall repeatedGuest).status = .defect (.link (.definedTwice "random_get")) ∧
      (start .trapOnCall (repeatedGuest.withoutImport "random_get")).status = .returned :=
  ⟨isSystemFunction_repeatedGuest, fun _ hc => (List.not_mem_nil hc).elim, by decide, rfl, rfl⟩

/-- A guest that imports two functions is linked, stopped by the one that it calls, and runs the
same without the other one; a guest that imports a function twice is not linked. -/
theorem link_and_start_selectiveGuest :
    link .trapOnCall selectiveGuest.imports = .ok ["sched_yield", "random_get"] ∧
      (start .trapOnCall selectiveGuest).status = .defect (.gap "random_get") ∧
      (start .trapOnCall (selectiveGuest.withoutImport "sched_yield")).status =
        .defect (.gap "random_get") ∧
      ∃ name, link .trapOnCall repeatedGuest.imports = .error (.link (.definedTwice name)) := by
  obtain ⟨hlinks, -, hgap, hwithout⟩ :=
    link_and_start_functions selectiveGuest isSystemFunction_selectiveGuest
  have hnodup : (unservedNames selectiveGuest.imports).Nodup := by decide
  have hcalled : ∃ c ∈ callsOf .trapOnCall selectiveGuest, c.function = "random_get" :=
    List.mem_map.mp (by rw [functions_selectiveGuest]; decide)
  have huncalled : ∀ c ∈ callsOf .trapOnCall selectiveGuest, c.function ≠ "sched_yield" := by
    intro c hc hname
    have hmem := List.mem_map_of_mem (f := Called.function) hc
    rw [functions_selectiveGuest, hname] at hmem
    exact absurd hmem (by decide)
  have hstopped := (hgap isClosed_selectiveGuest "random_get").mpr ⟨by decide, hcalled⟩
  obtain ⟨hsame, -⟩ := hwithout hnodup "sched_yield" (by decide) huncalled
  obtain ⟨-, hrefused, -⟩ := link_and_start_functions repeatedGuest isSystemFunction_repeatedGuest
  obtain ⟨-, i, -, -, -, -, hrepeated, -⟩ := hrefused (by decide)
  exact ⟨hlinks hnodup, hstopped, hsame.trans hstopped, i.name, hrepeated⟩

end Sandbox.Guest
