import Sandbox.JavaScript.Basic
import Sandbox.Proofs.Compiled.Output
import Sandbox.Python.Basic

/-!
# The outcome of a run

Whatever happens in a run, its result is either a pass or a failure with a message and a class. The
class tells where the run failed: the backend was not ready, the compiler gave no module, the guest
needed what is not served, or the program itself went wrong. An error of the compiler's own keeps
its class.

## Main definitions

* `RunResult.Coherent` : the marks of success agree with each other.
* `Compiled.answer?` : what the compiler answers to a submission, if it is ready.
* `Compiled.OwnError`, `Compiled.Ends` : errors of the compiler's own, and endings of its modules.

## Main results

* `Python.outcome_run` : when a run in Python counts as a failed load.
* `Compiled.outcome_verdict` : the classes of the failures of compiled submissions.
* `coherent_runs` : the outcomes of the runs of all backends.
-/

namespace Sandbox

/-- The marks of success agree: a result is a pass exactly if there is no message, exactly if there
is no class, and exactly if it is summed up as a pass. -/
structure RunResult.Coherent (result : RunResult) : Prop where
  error_eq_none_iff : result.error = none ↔ result.success = true
  failure_eq_none_iff : result.failure = none ↔ result.success = true
  statusLine_eq_iff : result.statusLine = "✓ Passed" ↔ result.success = true

namespace RunResult

theorem coherent_passed (lines : List String) : (passed lines).Coherent where
  error_eq_none_iff := iff_of_true rfl rfl
  failure_eq_none_iff := iff_of_true rfl rfl
  statusLine_eq_iff := iff_of_true rfl rfl

/-- The summary of a failure begins with another mark than that of a pass. -/
theorem statusLine_failed (lines : List String) (error : String) (kind : FailureKind) :
    (failed lines error kind).statusLine ≠ "✓ Passed" := by
  intro h
  have hstart : (failed lines error kind).statusLine.toList.head? = some '✗' := by
    simp [statusLine, failed]
  rw [h] at hstart
  exact absurd hstart (by decide)

theorem coherent_failed (lines : List String) (error : String) (kind : FailureKind) :
    (failed lines error kind).Coherent where
  error_eq_none_iff := iff_of_false (Option.some_ne_none _) Bool.false_ne_true
  failure_eq_none_iff := iff_of_false (Option.some_ne_none _) Bool.false_ne_true
  statusLine_eq_iff := iff_of_false (statusLine_failed lines error kind) Bool.false_ne_true

end RunResult

theorem RunError.coherent_toResult (e : RunError) (lines : List String) :
    (e.toResult lines).Coherent :=
  RunResult.coherent_failed lines e.message e.kind

/-! ### JavaScript -/

namespace JavaScript

/-- Whatever a script leaves behind, its result is a pass or counts as the program going wrong. -/
theorem coherent_toResult (ran : Ran) :
    ran.toResult.Coherent ∧
      ran.toResult.failure = if ran.thrown.isSome then some .runtime else none := by
  obtain ⟨lines, _ | message⟩ := ran
  · exact ⟨RunResult.coherent_passed _, rfl⟩
  · exact ⟨RunError.coherent_toResult _ _, rfl⟩

theorem run_backend {W : Type} [Logging W] (submission : Submission) (w : W) :
    ((backend.run submission).run w).1 = (evaluate (wrapped submission.script)).toResult := rfl

end JavaScript

/-! ### Python -/

namespace Python

/-- Whatever an interpreter leaves behind, the result is a pass if it exited with zero, and counts
as the program going wrong otherwise. -/
theorem coherent_toResult (captured : Captured) :
    captured.toResult.Coherent ∧
      captured.toResult.failure = if captured.succeeded then none else some .runtime := by
  cases h : captured.succeeded with
  | true =>
    simp only [Captured.toResult, h, if_true]
    exact ⟨RunResult.coherent_passed _, rfl⟩
  | false =>
    simp only [Captured.toResult, h]
    exact ⟨RunError.coherent_toResult _ _, rfl⟩

variable {W : Type} [Logging W] {source : Source W} {w after : W}

theorem load_eq (source : Source W) (w : W) :
    ((load source).run w).1 = ((obtain source).run w).1.map fun _ => () := rfl

theorem run_of_obtain_error {e : LoadError} (h : (obtain source).run w = (.error e, after))
    (submission : Submission) :
    (run source submission).run w = ((RunError.notLoaded e.message).toResult [], after) := by
  simp only [run, StateT.run_bind, h]
  rfl

/-- A log entry on the way changes no answer. -/
private theorem run_logging {α : Type} (speaks : Bool) (message : String) (answer : α) (w : W) :
    ((do
      if speaks then say .debug target message
      return answer : StateM W α).run w).1 = answer := by
  cases speaks <;> rfl

/-- Once there is an interpreter, the result is what it leaves behind. -/
theorem run_of_obtain_ok {m : Guest.Module} (h : (obtain source).run w = (.ok m, after))
    (submission : Submission) :
    ((run source submission).run w).1 =
      ((interpret source m submission.script).run after).1.toResult := by
  simp only [run, StateT.run_bind, h]
  exact run_logging (!_) _ _ ((interpret source m submission.script).run after).2

/-- A run fails to load exactly if a load would. -/
theorem outcome_run (source : Source W) (submission : Submission) (w : W) :
    let result := ((run source submission).run w).1
    result.Coherent ∧
      (result.failure = some .load ↔ ∃ e, ((load source).run w).1 = .error e) := by
  dsimp only
  rw [load_eq]
  cases h : (obtain source).run w with
  | mk outcome after =>
    cases outcome with
    | error e =>
      rw [run_of_obtain_error h]
      exact ⟨RunError.coherent_toResult _ _, iff_of_true rfl ⟨e, rfl⟩⟩
    | ok m =>
      obtain ⟨hcoherent, hfailure⟩ :=
        coherent_toResult ((interpret source m submission.script).run after).1
      rw [run_of_obtain_ok h]
      refine ⟨hcoherent, iff_of_false ?_ (by rintro ⟨e, he⟩; cases he)⟩
      rw [hfailure]
      split <;> nofun

end Python

/-! ### Compiled languages -/

namespace Compiled

open Emission (endedLines restLines)

/-- The class of the failure of a guest, if it fails. -/
def failureOf? : Guest.Status → Option FailureKind
  | .returned => none
  | .exited n => if n = 0 then none else some .runtime
  | .trapped _ => some .runtime
  | .defect _ => some .shimGap

theorem failureOf?_iff (status : Guest.Status) :
    (failureOf? status = some .shimGap ↔ ∃ cause, status = .defect cause) ∧
      (failureOf? status = some .runtime ↔
        (∃ message, status = .trapped message) ∨ ∃ n, n ≠ 0 ∧ status = .exited n) ∧
      (failureOf? status = none ↔ status = .returned ∨ status = .exited 0) ∧
      failureOf? status ≠ some .load ∧ failureOf? status ≠ some .compile := by
  cases status with
  | exited n => by_cases hn : n = 0 <;> simp [failureOf?, hn]
  | returned | trapped | defect => simp [failureOf?]

/-- Whatever a guest writes and however it ends, the class of its result is that of its ending. -/
theorem coherent_resultOf (lines : List String) (status : Guest.Status) :
    (resultOf lines status).Coherent ∧ (resultOf lines status).failure = failureOf? status := by
  cases status with
  | returned => exact ⟨RunResult.coherent_passed _, rfl⟩
  | exited n =>
    by_cases hn : n = 0
    · simp only [resultOf, failureOf?, hn, if_true]
      exact ⟨RunResult.coherent_passed _, rfl⟩
    · simp only [resultOf, failureOf?, hn, if_false]
      exact ⟨RunError.coherent_toResult _ _, rfl⟩
  | trapped message => exact ⟨RunError.coherent_toResult _ _, rfl⟩
  | defect cause => exact ⟨RunError.coherent_toResult _ _, rfl⟩

variable {W κ : Type}

/-- What the compiler answers to a submission, if it is ready. -/
def answer? (toolchain : Toolchain W κ) (dialect : Dialect) (submission : Submission) (w : W) :
    Option (Except RunError Compilation) :=
  (toolchain.slot.kept w).map fun compiler =>
    ((toolchain.compile compiler ⟨submission.translationUnit, dialect⟩).run w).1

/-- The result for what the compiler answers, or for a compiler that is not ready. -/
def verdict (policy : Guest.ImportPolicy) (dialect : Dialect) :
    Option (Except RunError Compilation) → RunResult
  | none => (RunError.notLoaded "Compiler not loaded").toResult []
  | some answer => (report policy dialect answer).1

theorem run_eq_verdict [Logging W] (toolchain : Toolchain W κ) (policy : Guest.ImportPolicy)
    (dialect : Dialect) (submission : Submission) (w : W) :
    ((run toolchain policy dialect submission).run w).1 =
      verdict policy dialect (answer? toolchain dialect submission w) := by
  cases hkept : toolchain.slot.kept w with
  | none =>
    simp only [run, StateT.run_bind, StateT.run_get, pure_bind, hkept, answer?, Option.map_none]
    rfl
  | some compiler =>
    simp only [run, StateT.run_bind, StateT.run_get, pure_bind, hkept, answer?, Option.map_some]
    rfl

/-- The compiler fails with an error of its own, of a given class. -/
def OwnError (answer : Option (Except RunError Compilation)) (kind : FailureKind) : Prop :=
  ∃ e, answer = some (.error e) ∧ e.kind = kind

/-- The compiler gives a module, and its run ends in one of the given ways. -/
def Ends (policy : Guest.ImportPolicy) (answer : Option (Except RunError Compilation))
    (endings : Guest.Status → Prop) : Prop :=
  ∃ made diagnostics, answer = some (.ok ⟨some made, diagnostics⟩) ∧ endings (statusOf policy made)

/-- The class of a failure says whether the compiler was ready, whether it gave a module, and how
the module ended, unless the compiler had an error of its own. -/
theorem outcome_verdict (policy : Guest.ImportPolicy) (dialect : Dialect)
    (answer : Option (Except RunError Compilation)) :
    let result := verdict policy dialect answer
    result.Coherent ∧
      (result.failure = some .load ↔ answer = none ∨ OwnError answer .load) ∧
      (result.failure = some .compile ↔
        (∃ diagnostics, answer = some (.ok ⟨none, diagnostics⟩)) ∨ OwnError answer .compile) ∧
      (result.failure = some .shimGap ↔
        Ends policy answer (fun status => ∃ cause, status = .defect cause) ∨
          OwnError answer .shimGap) ∧
      (result.failure = some .runtime ↔
        Ends policy answer (fun status =>
          (∃ message, status = .trapped message) ∨ ∃ n, n ≠ 0 ∧ status = .exited n) ∨
            OwnError answer .runtime) ∧
      (result.success = true ↔
        Ends policy answer fun status => status = .returned ∨ status = .exited 0) := by
  intro result
  rcases answer with _ | e | ⟨_ | made, diagnostics⟩
  · refine ⟨RunError.coherent_toResult _ _, ?_⟩
    simp [result, verdict, OwnError, Ends, RunError.toResult, RunResult.failed, RunError.kind]
  · refine ⟨RunError.coherent_toResult _ _, ?_⟩
    simp [result, verdict, report, OwnError, Ends, RunError.toResult, RunResult.failed]
  · refine ⟨RunError.coherent_toResult _ _, ?_⟩
    simp [result, verdict, report, OwnError, Ends, RunError.toResult, RunResult.failed,
      RunError.kind]
  · obtain ⟨hcoherent, hfailure⟩ := coherent_resultOf (preamble (Text.trimEnd diagnostics) ++
      endedLines (forwardedBy policy made) ++ restLines (forwardedBy policy made))
      (statusOf policy made)
    have hresult : result = resultOf _ _ := report_eq policy dialect made diagnostics
    rw [← hresult] at hcoherent hfailure
    refine ⟨hcoherent, ?_⟩
    obtain ⟨hgap, hruntime, hnone, hload, hcompile⟩ := failureOf?_iff (statusOf policy made)
    rw [← hcoherent.failure_eq_none_iff, hfailure, hgap, hruntime, hnone]
    simp [OwnError, Ends, hload, hcompile]

theorem answer?_eq_none_iff [Logging W] (toolchain : Toolchain W κ) (policy : Guest.ImportPolicy)
    (dialect : Dialect) (submission : Submission) (w : W) :
    answer? toolchain dialect submission w = none ↔
      (backend toolchain policy dialect).isLoaded w = false := by
  rw [answer?, Option.map_eq_none_iff, ← Option.isNone_iff_eq_none, ← Option.isSome_eq_false_iff]
  exact Iff.rfl

/-- The compiler that is ready and has an error of its own for everything. -/
def Toolchain.failing (e : RunError) : Toolchain W Unit where
  slot := ⟨fun _ => some (), fun _ w => w⟩
  provide := return .ok ()
  compile _ _ := return .error e

/-- An error of the compiler's own may be of the class of backends that are not ready. -/
theorem failure_run_failing :
    let backend : Backend Host := backend (.failing (.notLoaded "gone")) .trapOnCall .c
    let w : Host := { files := ⟨[], []⟩ }
    let result := ((backend.run ⟨"int main(void) \x7b return 0; \x7d", none⟩).run w).1
    ¬ (result.failure = some .load ↔ backend.isLoaded w = false) := by
  intro backend w result h
  exact absurd (h.mp rfl) (by decide)

end Compiled

/-! ### All backends -/

/-- In every backend, in every state, for every submission and for everything that a script, an
interpreter, a compiler or a guest may do, the marks of success of the result agree. A failure to
load means that the backend was not ready, for Python that a load would have failed. The class of
any other failure of a compiled submission says whether there was a module and how it ended. If the
compiler has an error of its own, the class is that of the error. -/
theorem coherent_runs {W κ : Type} [Logging W] (submission : Submission) (w : W) :
    (let backend : Backend W := JavaScript.backend
      let result := ((backend.run submission).run w).1
      result.Coherent ∧ (result.failure = some .load ↔ backend.isLoaded w = false)) ∧
    (∀ ran : JavaScript.Ran, ran.toResult.Coherent ∧
      ran.toResult.failure = if ran.thrown.isSome then some .runtime else none) ∧
    (∀ source : Python.Source W,
      let backend := Python.backend source
      let result := ((backend.run submission).run w).1
      result.Coherent ∧ (result.failure = some .load ↔ ∃ e, (backend.load.run w).1 = .error e)) ∧
    (∀ captured : Python.Captured, captured.toResult.Coherent ∧
      captured.toResult.failure = if captured.succeeded then none else some .runtime) ∧
    (∀ (toolchain : Compiled.Toolchain W κ) (policy : Guest.ImportPolicy)
      (dialect : Compiled.Dialect),
      let backend := Compiled.backend toolchain policy dialect
      let answer := Compiled.answer? toolchain dialect submission w
      let result := ((backend.run submission).run w).1
      result.Coherent ∧
        (answer = none ↔ backend.isLoaded w = false) ∧
        (result.failure = some .load ↔ answer = none ∨ Compiled.OwnError answer .load) ∧
        (result.failure = some .compile ↔
          (∃ diagnostics, answer = some (.ok ⟨none, diagnostics⟩)) ∨
            Compiled.OwnError answer .compile) ∧
        (result.failure = some .shimGap ↔
          Compiled.Ends policy answer (fun status => ∃ cause, status = .defect cause) ∨
            Compiled.OwnError answer .shimGap) ∧
        (result.failure = some .runtime ↔
          Compiled.Ends policy answer (fun status =>
            (∃ message, status = .trapped message) ∨ ∃ n, n ≠ 0 ∧ status = .exited n) ∨
              Compiled.OwnError answer .runtime) ∧
        (result.success = true ↔
          Compiled.Ends policy answer fun status => status = .returned ∨ status = .exited 0)) ∧
    ∀ (lines : List String) (status : Guest.Status),
      let result := Compiled.resultOf lines status
      result.Coherent ∧
        (result.failure = some .shimGap ↔ ∃ cause, status = .defect cause) ∧
        (result.failure = some .runtime ↔
          (∃ message, status = .trapped message) ∨ ∃ n, n ≠ 0 ∧ status = .exited n) ∧
        (result.success = true ↔ status = .returned ∨ status = .exited 0) := by
  refine ⟨?_, JavaScript.coherent_toResult, fun source => Python.outcome_run source submission w,
    Python.coherent_toResult, ?_, ?_⟩
  · dsimp only
    rw [JavaScript.run_backend]
    obtain ⟨hcoherent, hfailure⟩ := JavaScript.coherent_toResult
      (JavaScript.evaluate (JavaScript.wrapped submission.script))
    refine ⟨hcoherent, iff_of_false ?_ (by simp [JavaScript.backend])⟩
    rw [hfailure]
    split <;> nofun
  · intro toolchain policy dialect backend answer result
    have hresult : result = Compiled.verdict policy dialect answer :=
      Compiled.run_eq_verdict toolchain policy dialect submission w
    obtain ⟨hcoherent, hclasses⟩ := Compiled.outcome_verdict policy dialect answer
    rw [hresult]
    exact ⟨hcoherent, Compiled.answer?_eq_none_iff toolchain policy dialect submission w, hclasses⟩
  · intro lines status result
    obtain ⟨hcoherent, hfailure⟩ := Compiled.coherent_resultOf lines status
    obtain ⟨hgap, hruntime, hnone, -⟩ := Compiled.failureOf?_iff status
    rw [← hcoherent.failure_eq_none_iff, hfailure]
    exact ⟨hcoherent, hgap, hruntime, hnone⟩

end Sandbox
