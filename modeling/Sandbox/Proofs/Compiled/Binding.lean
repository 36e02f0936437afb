import Sandbox.Proofs.Backend.Outcome
import Sandbox.Proofs.Compiled.Output
import Sandbox.Proofs.Guest.Binding

/-!
# Compiled submissions whose memory is not known

A guest that uses its memory before the host knows it is no failure of the submission but one of the
host. Such a guest has written nothing, and its report says that the host has a gap.

## Main results

* `start_unbound` : the runs of a linked guest before and after its memory is known.
-/

namespace Sandbox.Compiled

/-- Before its entry point runs, and during the whole run if it does not export its memory, a linked
guest is stopped by its first call that uses the memory, whatever the arguments are, with a defect
that names the call; any other call has the same answer and the same effect as when the memory is
known. Once a guest that exports its memory is instantiated, no call meets that defect. And a guest
that meets it has written nothing, and is reported as a gap of the host. The report is that of a
compiler that leaves the module as such, as `Files.Content.guest`: `Files.Content.guestModule?` does
not read bytes of modules with code. -/
theorem start_unbound (policy : Guest.ImportPolicy) (m : Guest.Module) {stubs : List String}
    (hlink : Guest.link policy m.imports = .ok stubs) :
    (∀ c ∈ Guest.callsOf policy m, c ∈ m.callsBefore ∨ m.exportsMemory = false →
      c.guest.host.bound = false ∧
      (c.function ∈ Guest.memoryCalls →
        Guest.Console.host.call c.function c.args c.guest =
          (.error (.defect (.memoryUnbound c.function)), c.guest) ∧
        (Guest.start policy m).status = .defect (.memoryUnbound c.function) ∧
        ∃ before, Guest.callsOf policy m = before ++ [c] ∧
          ∀ d ∈ before, d.function ∉ Guest.memoryCalls) ∧
      (c.function ∉ Guest.memoryCalls →
        let after := Guest.Console.host.call c.function c.args (c.guest.withBound true)
        Guest.Console.host.call c.function c.args c.guest =
          (after.1, after.2.withBound false))) ∧
    (m.exportsMemory = true → ∀ s, m.entered = .ok s →
      (∀ c ∈ Guest.callsMade Guest.Console.host (m.entryPoint?.getD []) s, ∀ name t,
        Guest.Console.host.call c.function c.args c.guest ≠
          (.error (.defect (.memoryUnbound name)), t)) ∧
      ∀ name, (Guest.start policy m).status ≠ .defect (.memoryUnbound name)) ∧
    ∀ name, (Guest.start policy m).status = .defect (.memoryUnbound name) →
      name ∈ Guest.memoryCalls ∧ (Guest.start policy m).chunks = [] ∧
      ∀ {W κ : Type} [Logging W] (toolchain : Toolchain W κ) (w : W) (dialect : Dialect)
        (submission : Submission) (made : Files.Content) (diagnostics : String),
        made.guestModule? = .ok m →
        Answers toolchain w dialect submission ⟨some made, diagnostics⟩ →
        let result := ((run toolchain policy dialect submission).run w).1
        result.success = false ∧ result.failure = some .shimGap ∧
          result.output = diagnosticLines diagnostics ++ [executionHeader,
            runtimeErrorLine ("syscall " ++ name ++ " invoked before guest memory was bound")] := by
  refine ⟨fun c hc hwhen => ⟨?_, fun hmem => ?_, fun hmem => ?_⟩, fun hexports s hentered => ?_,
    fun name hstatus => ?_⟩
  · exact Guest.bound_of_mem hc hwhen
  · have hunbound : c.IsUnbound := ⟨hmem, Guest.bound_of_mem hc hwhen⟩
    exact ⟨Guest.call_of_isUnbound hunbound, Guest.start_of_isUnbound hc hunbound⟩
  · intro after
    have hguest : (c.guest.withBound true).withBound false = c.guest := by
      rw [← Guest.bound_of_mem hc hwhen]
      rfl
    rw [← Guest.call_withBound hmem, hguest]
  · refine ⟨fun c hc name t hcall => ?_, Guest.status_of_entered hlink hentered hexports⟩
    exact Guest.not_isUnbound_of_entered hentered hexports c hc
      (Guest.call_eq_memoryUnbound hcall).2.1
  · have hchunks := Guest.chunks_of_memoryUnbound hlink hstatus
    obtain ⟨c, -, rfl, hunbound⟩ := (Guest.status_eq_memoryUnbound_iff hlink name).mp hstatus
    refine ⟨hunbound.1, hchunks, ?_⟩
    intro W κ _ toolchain w dialect submission made diagnostics hmade hanswers result
    have hforwarded : forwardedBy policy made = [] := by
      rw [forwardedBy, hmade]
      dsimp only
      rw [← Guest.chunks_start, hchunks]
      rfl
    have hended : statusOf policy made = .defect (.memoryUnbound c.function) := by
      rw [statusOf, hmade]
      exact hstatus
    have hresult : result = resultOf _ _ := (run_of_answers hanswers policy).trans (report_eq ..)
    rw [hended, hforwarded] at hresult
    rw [hresult]
    refine ⟨rfl, rfl, ?_⟩
    rw [output_resultOf, preamble_trimEnd, List.append_assoc, List.append_assoc, List.append_assoc]
    rfl

/-- A guest without memory whose start function closes a descriptor and then reads from it. -/
def unboundGuest : Guest.Module where
  imports := [⟨Guest.systemModule, "fd_close", .function Guest.Syscall.fdClose.signature⟩,
    ⟨Guest.systemModule, "fd_read", .function Guest.Syscall.fdRead.signature⟩]
  memory := none
  data := []
  start := some [.call "fd_close" [(.i32, .const 9)] none,
    .call "fd_read" [(.i32, .const 9), (.i32, .const (-1)), (.i32, .const 1), (.i32, .const 0)]
      none]
  entry := some (Guest.entryName, .function ⟨[], []⟩ [])

/-- Closing a descriptor is answered, and reading from it is a gap of the host. -/
theorem start_unbound_unboundGuest :
    let toolchain : Toolchain Host Unit := .answering ⟨some (.guest unboundGuest), ""⟩
    let w : Host := { files := ⟨[], []⟩ }
    let submission : Submission := ⟨"int main(void);", none⟩
    let result := ((run toolchain .strict .c submission).run w).1
    Guest.link .strict unboundGuest.imports = .ok [] ∧
      (Guest.start .strict unboundGuest).status = .defect (.memoryUnbound "fd_read") ∧
      result.failure = some .shimGap ∧
      result.output = ["--- Execution ---",
        "⚠️ Runtime Error: syscall fd_read invoked before guest memory was bound"] := by
  intro toolchain w submission result
  have hlink : Guest.link .strict unboundGuest.imports = .ok [] := rfl
  obtain ⟨hunbound, -, hreport⟩ := start_unbound .strict unboundGuest hlink
  let begun : Guest.Instance Guest.Console := ⟨.zeros 0, .start⟩
  let read : Guest.Called Guest.Console :=
    ⟨"fd_read", [9, Guest.wordOf (-1), 1, 0], begun⟩
  have hcalls : Guest.callsOf .strict unboundGuest = [⟨"fd_close", [9], begun⟩, read] := rfl
  have hmem : read ∈ Guest.callsOf .strict unboundGuest := by
    rw [hcalls]
    exact List.mem_cons_of_mem _ (List.mem_singleton_self read)
  have hstatus := ((hunbound read hmem (.inr rfl)).2.1 (by decide)).2.1
  have hanswers : Answers toolchain w .c submission ⟨some (.guest unboundGuest), ""⟩ :=
    ⟨(), w, rfl, rfl⟩
  obtain ⟨-, -, hresult⟩ := hreport "fd_read" hstatus
  obtain ⟨-, hfailure, houtput⟩ := hresult toolchain w .c submission _ "" rfl hanswers
  refine ⟨hlink, hstatus, hfailure, houtput.trans ?_⟩
  decide

end Sandbox.Compiled
