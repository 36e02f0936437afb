import Sandbox.Compiled.Basic
import Sandbox.Host.Basic
import Sandbox.Proofs.Console.Lines
import Sandbox.Proofs.Guest.Calls
import Sandbox.Proofs.Guest.Writing

/-!
# The output of compiled submissions

The output of a submission whose compilation gives a module has the diagnostics, the lines of the
bytes that the guest forwarded, and a line for its failure. How the bytes were cut into writes and
records leaves no trace, and a guest that is stopped loses nothing of what it has forwarded.

## Main definitions

* `Answers` : the compiler is ready and answers a submission.
* `forwardedBy`, `statusOf` : the bytes that a module forwards when it is run, and how its run ends.
* `diagnosticLines`, `failureLines` : the lines before and after the output of the guest.

## Main results

* `report_eq` : the result for a module as a function of its bytes and its status.
* `output_run` : the output of a run.
-/

namespace Sandbox.Compiled

open Emission (endedLines ofChunks restLines)

variable {W κ : Type}

/-- The compiler is ready and answers a submission. -/
def Answers (toolchain : Toolchain W κ) (w : W) (dialect : Dialect) (submission : Submission)
    (answer : Compilation) : Prop :=
  ∃ compiler after, toolchain.slot.kept w = some compiler ∧
    (toolchain.compile compiler ⟨submission.translationUnit, dialect⟩).run w = (.ok answer, after)

/-- The bytes that the calls of a module forward until its run ends. -/
def forwardedBy (policy : Guest.ImportPolicy) (made : Files.Content) : List Emission :=
  match made.guestModule? with
  | .error _ => []
  | .ok m => ofChunks ((Guest.callsOf policy m).flatMap Guest.Called.forwarded)

/-- How the run of a module ends. What is no module traps. -/
def statusOf (policy : Guest.ImportPolicy) (made : Files.Content) : Guest.Status :=
  match made.guestModule? with
  | .error message => .trapped ("Invalid module: " ++ message)
  | .ok m => (Guest.start policy m).status

/-- The lines of the diagnostics of a successful compilation. -/
def diagnosticLines (diagnostics : String) : List String :=
  if Text.trimEnd diagnostics = "" then []
  else [compilationLogHeader, Text.trimEnd diagnostics]

/-- The line that reports how a guest was stopped, unless it ended by itself. -/
def failureLines : Guest.Status → List String
  | .returned | .exited _ => []
  | .trapped message => [runtimeErrorLine message]
  | .defect cause => [runtimeErrorLine cause.message]

theorem preamble_trimEnd (diagnostics : String) :
    preamble (Text.trimEnd diagnostics) = diagnosticLines diagnostics ++ [executionHeader] := by
  by_cases h : Text.trimEnd diagnostics = "" <;>
    simp [preamble, diagnosticLines, h]

theorem output_resultOf (lines : List String) (status : Guest.Status) :
    (resultOf lines status).output = lines ++ failureLines status := by
  cases status with
  | returned => simp [resultOf, failureLines, RunResult.passed]
  | exited code =>
    by_cases h : code = 0 <;>
      simp [resultOf, failureLines, RunResult.passed, RunError.toResult, RunResult.failed, h]
  | trapped message => rfl
  | defect cause => rfl

/-- The lines and the status of a module that follows other lines. -/
theorem execute_eq (policy : Guest.ImportPolicy) (first : List String) (made : Files.Content) :
    ∃ log, execute policy first made =
      (first ++ endedLines (forwardedBy policy made) ++ restLines (forwardedBy policy made),
        statusOf policy made, log) := by
  unfold execute forwardedBy statusOf
  cases made.guestModule? with
  | error message => exact ⟨[], by simp [endedLines, restLines, Emission.openStreams]⟩
  | ok m =>
    refine ⟨(Guest.start policy m).log, ?_⟩
    dsimp only
    rw [Transcript.finish_writeAll, Guest.chunks_start]

/-- The result for a module depends on the diagnostics without the blanks at their end, on the bytes
that the module forwards and on its status, and on nothing else. -/
theorem report_eq (policy : Guest.ImportPolicy) (dialect : Dialect) (made : Files.Content)
    (diagnostics : String) :
    (report policy dialect (.ok ⟨some made, diagnostics⟩)).1 =
      resultOf (preamble (Text.trimEnd diagnostics) ++ endedLines (forwardedBy policy made) ++
        restLines (forwardedBy policy made)) (statusOf policy made) := by
  obtain ⟨log, hexecute⟩ := execute_eq policy (preamble (Text.trimEnd diagnostics)) made
  simp only [report, hexecute]

variable [Logging W] {toolchain : Toolchain W κ} {w : W} {dialect : Dialect}
  {submission : Submission} {answer : Compilation}

/-- A run reports what the compiler answers. -/
theorem run_of_answers (h : Answers toolchain w dialect submission answer)
    (policy : Guest.ImportPolicy) :
    ((run toolchain policy dialect submission).run w).1 =
      (report policy dialect (.ok answer)).1 := by
  obtain ⟨compiler, after, hkept, hcompile⟩ := h
  simp only [run, StateT.run_bind, StateT.run_get, pure_bind, hkept, hcompile]
  rfl

/-- The output of a run whose compilation gives a module: the diagnostics if there are any, the
header, the lines that end with the newlines among the forwarded bytes, the unterminated rests, and
a line for a trap or a defect. Runs with the same diagnostics, the same forwarded bytes and the same
status have the same result, whatever else differs. A module with code is one that the compiler
leaves as `Files.Content.guest`; the bytes of such a module are not read, and are reported as no
module. -/
theorem output_run {made : Files.Content} {diagnostics : String}
    (h : Answers toolchain w dialect submission ⟨some made, diagnostics⟩)
    (policy : Guest.ImportPolicy) :
    let result := ((run toolchain policy dialect submission).run w).1
    let forwarded := forwardedBy policy made
    let status := statusOf policy made
    result.output = diagnosticLines diagnostics ++ [executionHeader] ++ endedLines forwarded ++
        restLines forwarded ++ failureLines status ∧
      ∀ (other : Toolchain W κ) (u : W) (dialect' : Dialect) (submission' : Submission)
        (made' : Files.Content) (diagnostics' : String) (policy' : Guest.ImportPolicy),
        Answers other u dialect' submission' ⟨some made', diagnostics'⟩ →
        Text.trimEnd diagnostics' = Text.trimEnd diagnostics →
        forwardedBy policy' made' = forwarded →
        statusOf policy' made' = status →
        ((run other policy' dialect' submission').run u).1 = result := by
  intro result forwarded status
  have hresult : result = resultOf (preamble (Text.trimEnd diagnostics) ++ endedLines forwarded ++
      restLines forwarded) status := (run_of_answers h policy).trans (report_eq ..)
  refine ⟨?_, ?_⟩
  · rw [hresult, output_resultOf, preamble_trimEnd]
  · intro other u dialect' submission' made' diagnostics' policy' h' hdiagnostics hforwarded hstatus
    rw [run_of_answers h' policy', report_eq, hdiagnostics, hforwarded, hstatus, hresult]

/-- The compiler that is ready and has one answer to everything. -/
def Toolchain.answering (answer : Compilation) : Toolchain W Unit where
  slot := ⟨fun _ => some (), fun _ w => w⟩
  provide := return .ok ()
  compile _ _ := return .ok answer

/-- A guest that writes a line and the beginning of another one, and then traps. -/
def trappingGuest : Guest.Module where
  imports := [⟨Guest.systemModule, "fd_write", .function Guest.Syscall.fdWrite.signature⟩]
  memory := some (1, Guest.memoryName)
  data := [(0, [8, 0, 0, 0, 6, 0, 0, 0, 111, 117, 116, 10, 114, 101])]
  start := none
  entry := some (Guest.entryName, .function ⟨[], []⟩
    [.call "fd_write" [(.i32, .const 1), (.i32, .const 0), (.i32, .const 1), (.i32, .const 16)]
      none, .trap .unreachable])

/-- The guest when its entry point runs. -/
def trappingGuest.entered : Guest.Instance Guest.Console :=
  ⟨(Guest.Memory.zeros 65536).put 0 [8, 0, 0, 0, 6, 0, 0, 0, 111, 117, 116, 10, 114, 101],
    { Guest.Console.start with bound := true }⟩

theorem forwarded_trappingGuest :
    Guest.Called.forwarded ⟨"fd_write", [1, 0, 1, 16], trappingGuest.entered⟩ =
      [⟨.stdout, [111, 117, 116, 10, 114, 101]⟩] := by
  let m : Guest.Memory := trappingGuest.entered.memory
  have hsize : m.size = 65536 := Guest.Memory.size_put ..
  have hget (i : Nat) : m.get i =
      if i < 14 then [8, 0, 0, 0, 6, 0, 0, 0, 111, 117, 116, 10, 114, 101].getD i 0 else 0 := by
    simp [m, trappingGuest.entered, Guest.Memory.get_put]
  have hstart : m.recordStart 0 0 = 8 := by
    simp [Guest.Memory.recordStart, Guest.Memory.word_eq, hget]
  have hlength : m.recordLength 0 0 = 6 := by
    simp [Guest.Memory.recordLength, Guest.Memory.word_eq, hget]
  have hall : ∀ k < (1 : UInt32).toNat, m.RecordFits (0 : UInt32).toNat k := by
    intro k hk
    obtain rfl : k = 0 := Nat.lt_one_iff.mp hk
    change 0 + 8 * 0 + 8 ≤ m.size ∧ m.recordStart 0 0 + m.recordLength 0 0 ≤ m.size
    rw [hstart, hlength, hsize]
    decide
  have hchunk : m.recordChunk 0 0 .stdout = ⟨.stdout, [111, 117, 116, 10, 114, 101]⟩ := by
    rw [Guest.Memory.recordChunk, hstart, hlength]
    simp [Guest.Memory.take, List.range', hget]
  have hwrite : (Guest.fdWrite m 1 0 1 16).chunks = [m.recordChunk 0 0 .stdout] := by
    have hfd : Stream.ofDescriptor? (Guest.signed 1) = some .stdout := rfl
    rw [Guest.fdWrite_of_fits (by omega) 0 1 16 hfd hall, if_pos (by rw [hsize]; decide)]
    rfl
  rw [← hchunk, ← hwrite]
  exact if_pos ⟨rfl, rfl⟩

theorem forwardedBy_trappingGuest : forwardedBy .strict (.guest trappingGuest) =
    [111, 117, 116, 10, 114, 101].map (Prod.mk .stdout) := by
  have hcalls : Guest.callsOf .strict trappingGuest =
      [⟨"fd_write", [1, 0, 1, 16], trappingGuest.entered⟩] := rfl
  simp only [forwardedBy, Files.Content.guestModule?, hcalls, List.flatMap_singleton,
    forwarded_trappingGuest]
  rfl

/-- What the guest wrote before its trap is kept, with the unfinished line. -/
theorem output_run_trappingGuest :
    let toolchain : Toolchain Host Unit := .answering ⟨some (.guest trappingGuest), "warning \n"⟩
    let w : Host := { files := ⟨[], []⟩ }
    let submission : Submission := ⟨"int main(void);", none⟩
    Answers toolchain w .c submission ⟨some (.guest trappingGuest), "warning \n"⟩ ∧
      ((run toolchain .strict .c submission).run w).1.output =
        ["--- Compilation Log ---", "warning", "--- Execution ---", "out", "re",
          "⚠️ Runtime Error: wasm trap: wasm `unreachable` instruction executed"] := by
  intro toolchain w submission
  have hanswers : Answers toolchain w .c submission ⟨some (.guest trappingGuest), "warning \n"⟩ :=
    ⟨(), w, rfl, rfl⟩
  refine ⟨hanswers, (output_run hanswers .strict).1.trans ?_⟩
  have hstatus : statusOf .strict (.guest trappingGuest) =
      .trapped Guest.Trap.unreachable.message := rfl
  rw [forwardedBy_trappingGuest, hstatus]
  decide

end Sandbox.Compiled
