import Sandbox.Proofs.Compiled.Output
import Sandbox.Proofs.Guest.Stopping

/-!
# Compiled submissions that stop early

A guest that exits, traps or meets a defect has no effect after that, and an exit is reported as
such: with the code that the guest gave, a pass exactly for the code zero, and all the output that
came before.

## Main results

* `resultOf_exited` : the result for a guest that exits.
* `run_stopped` : runs that stop before the end of their code.
-/

namespace Sandbox.Compiled

open Emission (endedLines ofChunks restLines)

theorem resultOf_exited (lines : List String) (n : Int) :
    let result := resultOf lines (.exited n)
    (result.success = true ↔ n = 0) ∧
      (n ≠ 0 → result.error = some ("Program exited with code " ++ toString n) ∧
        result.failure = some .runtime) := by
  intro result
  by_cases h : n = 0
  · have hresult : result = .passed lines := if_pos h
    rw [hresult]
    exact ⟨iff_of_true rfl h, fun hne => absurd h hne⟩
  · have hresult : result = (RunError.nonZeroExit n).toResult lines := if_neg h
    rw [hresult]
    exact ⟨iff_of_false Bool.false_ne_true h, fun _ => ⟨rfl, rfl⟩⟩

/-- Of the entry points `p` and `p ++ q`, the second one forwards what the first one does and then
perhaps more; and if the first one does not return, but exits, traps or meets a defect, both end
with the same status and leave every consumer of chunks the same. A call that exits, in the start
function or in the entry point, is the last one of the run and the only one that records a code. The
run ends as an exit with that code, whose result passes exactly if the code is zero, and has
everything that was written before. The result is that of a compiler that leaves the module as such,
as `Files.Content.guest`: `Files.Content.guestModule?` does not read bytes of modules with code. -/
theorem run_stopped (policy : Guest.ImportPolicy) (m : Guest.Module) :
    (∀ p q : List Guest.Instr,
      let first := Guest.start policy (m.withBody p)
      let whole := Guest.start policy (m.withBody (p ++ q))
      first.chunks <+: whole.chunks ∧
        (first.status ≠ .returned →
          whole.status = first.status ∧
            ∀ {τ : Type} (write : τ → Chunk → τ) (sink : τ),
              whole.consumed write sink = first.consumed write sink)) ∧
      ∀ c ∈ Guest.callsOf policy m, ∀ n : Int, c.exit? = some n →
        (Guest.start policy m).status = .exited n ∧
        (∃ before, Guest.callsOf policy m = before ++ [c] ∧ ∀ d ∈ before, d.exit? = none) ∧
        c.guest.host.exitCode = none ∧ (Guest.runLinked m).2.exitCode = some n ∧
        ∀ {W κ : Type} [Logging W] (toolchain : Toolchain W κ) (w : W) (dialect : Dialect)
          (submission : Submission) (made : Files.Content) (diagnostics : String),
          made.guestModule? = .ok m →
          Answers toolchain w dialect submission ⟨some made, diagnostics⟩ →
          let result := ((run toolchain policy dialect submission).run w).1
          let forwarded := ofChunks ((Guest.callsOf policy m).flatMap Guest.Called.forwarded)
          (result.success = true ↔ n = 0) ∧
            (n ≠ 0 → result.error = some ("Program exited with code " ++ toString n) ∧
              result.failure = some .runtime) ∧
            result.output = diagnosticLines diagnostics ++ [executionHeader] ++
              endedLines forwarded ++ restLines forwarded := by
  refine ⟨fun p q => ⟨?_, fun hstopped => ?_⟩, fun c hc n hn => ?_⟩
  · obtain ⟨more, hmore⟩ := Guest.callsOf_withBody_append policy m p q
    rw [Guest.chunks_start, Guest.chunks_start, hmore, List.flatMap_append]
    exact List.prefix_append _ _
  · rw [Guest.start_withBody_append q hstopped]
    exact ⟨rfl, fun _ _ => rfl⟩
  · obtain ⟨stubs, hlink⟩ := Guest.link_of_mem_callsOf hc
    have hcalls := Guest.callsOf_of_link_ok hlink
    obtain ⟨before, hbefore, hnone, hguest, hstatus, hcode⟩ :=
      Guest.exits_runLinked (hcalls ▸ hc) hn
    have hstart : (Guest.start policy m).status = .exited n := by
      rw [Guest.start_of_link_ok hlink]
      exact hstatus
    refine ⟨hstart, ⟨before, hcalls.trans hbefore, hnone⟩, hguest, hcode, ?_⟩
    intro W κ _ toolchain w dialect submission made diagnostics hmade hanswers result forwarded
    have hresult : result = resultOf (preamble (Text.trimEnd diagnostics) ++ endedLines forwarded ++
        restLines forwarded) (.exited n) := by
      refine (run_of_answers hanswers policy).trans ((report_eq ..).trans ?_)
      simp only [forwardedBy, statusOf, hmade, hstart]
      rfl
    obtain ⟨hsuccess, hfailure⟩ := resultOf_exited (preamble (Text.trimEnd diagnostics) ++
      endedLines forwarded ++ restLines forwarded) n
    rw [hresult]
    refine ⟨hsuccess, hfailure, ?_⟩
    rw [output_resultOf, preamble_trimEnd, failureLines, List.append_nil]

/-- A guest that writes a line and the beginning of another one, and then exits. -/
def exitingGuest : Guest.Module :=
  { trappingGuest with
    imports := trappingGuest.imports ++
      [⟨Guest.systemModule, "proc_exit", .function Guest.Syscall.procExit.signature⟩]
    entry := some (Guest.entryName, .function ⟨[], []⟩
      [.call "fd_write" [(.i32, .const 1), (.i32, .const 0), (.i32, .const 1), (.i32, .const 16)]
        none, .call "proc_exit" [(.i32, .const (-3))] none]) }

/-- An exit with the code `-3` after some output, with code behind it that is not reached. -/
theorem run_stopped_exitingGuest :
    let toolchain : Toolchain Host Unit := .answering ⟨some (.guest exitingGuest), ""⟩
    let w : Host := { files := ⟨[], []⟩ }
    let submission : Submission := ⟨"int main(void);", none⟩
    let body := exitingGuest.entryPoint?.getD []
    let more := [Guest.Instr.trap .unreachable]
    let result := ((run toolchain .strict .c submission).run w).1
    (Guest.start .strict (exitingGuest.withBody (body ++ more))).status = .exited (-3) ∧
      result.error = some "Program exited with code -3" ∧
      result.output = ["--- Execution ---", "out", "re"] := by
  intro toolchain w submission body more result
  let wrote := (Guest.Syscall.fdWrite.invoke [1, 0, 1, 16] trappingGuest.entered).2
  let exits : Guest.Called Guest.Console := ⟨"proc_exit", [Guest.wordOf (-3)], wrote⟩
  have hcalls : Guest.callsOf .strict exitingGuest =
      [⟨"fd_write", [1, 0, 1, 16], trappingGuest.entered⟩, exits] := rfl
  have hmem : exits ∈ Guest.callsOf .strict exitingGuest := by
    rw [hcalls]
    exact List.mem_cons_of_mem _ (List.mem_singleton_self _)
  have hanswers : Answers toolchain w .c submission ⟨some (.guest exitingGuest), ""⟩ :=
    ⟨(), w, rfl, rfl⟩
  obtain ⟨happend, hexits⟩ := run_stopped .strict exitingGuest
  obtain ⟨hstatus, -, -, -, hresult⟩ := hexits exits hmem (-3) (by decide)
  obtain ⟨-, hfailure, houtput⟩ := hresult toolchain w .c submission _ "" rfl hanswers
  have hforwarded : (Guest.callsOf .strict exitingGuest).flatMap Guest.Called.forwarded =
      [⟨.stdout, [111, 117, 116, 10, 114, 101]⟩] := by
    have hnone : exits.forwarded = [] := if_neg (by decide)
    simp only [hcalls, List.flatMap_cons, forwarded_trappingGuest, hnone, List.flatMap_nil,
      List.append_nil]
  refine ⟨?_, (hfailure (by decide)).1, ?_⟩
  · have hbody : (Guest.start .strict (exitingGuest.withBody body)).status = .exited (-3) := hstatus
    exact (((happend body more).2 (by rw [hbody]; decide)).1).trans hbody
  · rw [houtput, hforwarded]
    decide

end Sandbox.Compiled
