import Sandbox.Proofs.Python.Sharing
import Sandbox.Proofs.Text.Lines

/-!
# What a learner is told of a run

A run of the interpreter passes exactly if it exits with zero, whatever it wrote. The report of a
run that passed shows both streams and a mark; that of a run that failed shows standard output, and
one message that says why. The message is about a failed assertion, or else the last line of the
error stream that says anything, or else how the interpreter ended.

## Main definitions

* `Captured.Blames` : what a message says of a run that failed.

## Main results

* `Captured.blames_iff` : every run has exactly one such message, the one that is reported.
* `Captured.Blames.isClean` : a message about what stands in the error stream is one line of text.
* `Captured.toResult_reports` : the report of a run.
-/

namespace Sandbox.Python.Captured

/-- What a message says of a run that failed. -/
inductive Blames (run : Captured) : String → Prop
  /-- The error stream names a failed assertion, wherever it does. -/
  | assertion (h : Text.Occurs "AssertionError" run.stderr) : Blames run "Test Assertion Failed."
  /-- It does not, and the message is its last line that is not blank, without the blanks around
  it. -/
  | lastLine {front back : List String} {line message : String}
      (hnot : ¬ Text.Occurs "AssertionError" run.stderr)
      (hlines : Text.lines run.stderr = front ++ line :: back)
      (hline : Text.allBlank line = false) (hback : ∀ other ∈ back, Text.allBlank other = true)
      (htrims : Text.Trims line.toList message.toList) : Blames run message
  /-- It is blank, and the interpreter exited. -/
  | exited {code : Int} (hblank : Text.allBlank run.stderr = true) (hended : run.ended = .ok code) :
      Blames run ("Python exited with code " ++ toString code)
  /-- It is blank, and the interpreter was stopped. -/
  | stopped {message : String} (hblank : Text.allBlank run.stderr = true)
      (hended : run.ended = .error message) : Blames run message

variable {run : Captured} {message : String}

/-! ### The last line that says anything -/

/-- Searching the lines from the last one on finds the last one that is not blank. -/
theorem find?_eq_some_iff (lines : List String) :
    (lines.map Text.trim).reverse.find? (fun line => !line.isEmpty) = some message ↔
      ∃ front line back, lines = front ++ line :: back ∧ Text.allBlank line = false ∧
        (∀ other ∈ back, Text.allBlank other = true) ∧
        Text.Trims line.toList message.toList := by
  have htold (line : String) :
      (!(Text.trim line).isEmpty) = true ↔ Text.allBlank line = false := by
    rw [Bool.not_eq_true', ← Bool.not_eq_true, String.isEmpty_iff, Text.trim_eq_empty_iff,
      Bool.not_eq_true]
  have hblank (line : String) :
      (!!(Text.trim line).isEmpty) = true ↔ Text.allBlank line = true := by
    rw [Bool.not_not, String.isEmpty_iff, Text.trim_eq_empty_iff]
  rw [← List.map_reverse, List.find?_map, Option.map_eq_some_iff]
  simp only [List.find?_eq_some_iff_append, Function.comp_apply, htold, hblank]
  constructor
  · rintro ⟨line, ⟨hline, after, before, hlines, hafter⟩, htrim⟩
    refine ⟨before.reverse, line, after.reverse, ?_, hline, fun other hother => ?_,
      Text.trim_eq_iff.mp htrim⟩
    · rw [← List.reverse_reverse lines, hlines]
      simp
    · exact hafter other (List.mem_reverse.mp hother)
  · rintro ⟨front, line, back, rfl, hline, hback, htrims⟩
    refine ⟨line, ⟨hline, back.reverse, front.reverse, by simp, fun other hother => ?_⟩,
      Text.trim_eq_iff.mpr htrims⟩
    exact hback other (List.mem_reverse.mp hother)

theorem find?_eq_none_iff (text : String) :
    ((Text.lines text).map Text.trim).reverse.find? (fun line => !line.isEmpty) = none ↔
      Text.allBlank text = true := by
  rw [List.find?_eq_none, ← Text.allBlank_lines_iff]
  simp [Text.trim_eq_empty_iff]

/-! ### Messages -/

/-- A text that names a failed assertion is not blank. -/
theorem allBlank_of_occurs {text : String} (h : Text.Occurs "AssertionError" text) :
    Text.allBlank text = false := by
  obtain ⟨before, after, rfl⟩ := h
  refine Bool.eq_false_iff.mpr fun hall => ?_
  have hblank : Text.isBlank 'A' = true := Text.allBlank_iff.mp hall 'A' (by simp)
  exact absurd hblank (by decide)

theorem contains_of_allBlank {text : String} (h : Text.allBlank text = true) :
    ¬ Text.contains text assertionName = true := by
  intro hcontains
  rw [allBlank_of_occurs (Text.contains_iff.mp hcontains)] at h
  cases h

/-- Every run has exactly one message, the one that is reported if it failed. -/
theorem blames_iff : run.Blames message ↔ message = run.failureMessage := by
  constructor
  · intro h
    cases h with
    | assertion h =>
      have hcontains : Text.contains run.stderr assertionName = true := Text.contains_iff.mpr h
      rw [failureMessage, if_pos hcontains]
      rfl
    | lastLine hnot hlines hline hback htrims =>
      have hcontains : ¬ Text.contains run.stderr assertionName = true :=
        mt Text.contains_iff.mp hnot
      have hfind := (find?_eq_some_iff _).mpr ⟨_, _, _, hlines, hline, hback, htrims⟩
      rw [failureMessage, if_neg hcontains, hfind]
    | exited hblank hended =>
      rw [failureMessage, if_neg (contains_of_allBlank hblank), (find?_eq_none_iff _).mpr hblank,
        hended]
    | stopped hblank hended =>
      rw [failureMessage, if_neg (contains_of_allBlank hblank), (find?_eq_none_iff _).mpr hblank,
        hended]
  · rintro rfl
    rw [failureMessage]
    split
    next hcontains => exact .assertion (Text.contains_iff.mp hcontains)
    next hcontains =>
      split
      next line hfind =>
        obtain ⟨front, line, back, hlines, hline, hback, htrims⟩ := (find?_eq_some_iff _).mp hfind
        exact .lastLine (mt Text.contains_iff.mpr hcontains) hlines hline hback htrims
      next hfind =>
        have hblank := (find?_eq_none_iff _).mp hfind
        cases hended : run.ended with
        | ok code => exact .exited hblank hended
        | error message => exact .stopped hblank hended

/-- If the error stream says anything, so does the message, on one line. -/
theorem Blames.isClean (h : run.Blames message) (htold : Text.allBlank run.stderr = false) :
    Text.allBlank message = false ∧ '\n' ∉ message.toList := by
  cases h with
  | assertion => exact ⟨by decide, by decide⟩
  | lastLine hnot hlines hline hback htrims =>
    refine ⟨Bool.eq_false_iff.mpr fun hall => ?_, fun hmem => ?_⟩
    · have hblank := htrims.forall_isBlank (Text.allBlank_iff.mp hall)
      rw [Text.allBlank_iff.mpr hblank] at hline
      cases hline
    · refine @Text.newline_not_mem_lines run.stderr _ ?_ (htrims.mem hmem)
      rw [hlines]
      simp
  | exited hblank hended =>
    rw [hblank] at htold
    cases htold
  | stopped hblank hended =>
    rw [hblank] at htold
    cases htold

/-! ### Reports -/

/-- A run passes exactly if the interpreter exits with zero. The report of one that passes has the
lines of standard output, those lines of the error stream that are not blank, and the mark of
success. The report of one that fails has the lines of standard output and the one message that
there is. If the error stream says anything, the message does, on one line. -/
theorem toResult_reports (run : Captured) :
    let result := run.toResult
    (result.success = true ↔ run.ended = .ok 0) ∧
    (run.ended = .ok 0 → result = .passed (Text.lines run.stdout ++
      (Text.lines run.stderr).filter (fun line => !Text.allBlank line) ++ [successLine])) ∧
    (run.ended ≠ .ok 0 → ∃ message, result = .failed (Text.lines run.stdout) message .runtime ∧
      (∀ other, run.Blames other ↔ other = message) ∧
      (Text.allBlank run.stderr = false →
        Text.allBlank message = false ∧ '\n' ∉ message.toList)) := by
  intro result
  cases hsucceeded : run.succeeded with
  | true =>
    have hended : run.ended = .ok 0 := succeeded_iff.mp hsucceeded
    have hresult : result = .passed (Text.lines run.stdout ++
        (Text.lines run.stderr).filter (fun line => !Text.allBlank line) ++ [successLine]) :=
      if_pos hsucceeded
    exact ⟨iff_of_true (by rw [hresult]; rfl) hended, fun _ => hresult, fun h => absurd hended h⟩
  | false =>
    have hended : run.ended ≠ .ok 0 := by
      rw [ne_eq, ← succeeded_iff, hsucceeded]
      exact Bool.false_ne_true
    have hresult : result = .failed (Text.lines run.stdout) run.failureMessage .runtime :=
      if_neg (by rw [hsucceeded]; exact Bool.false_ne_true)
    exact ⟨iff_of_false (by rw [hresult]; exact Bool.false_ne_true) hended,
      fun h => absurd h hended, fun _ => ⟨run.failureMessage, hresult, fun other => blames_iff,
        (blames_iff.mpr rfl).isClean⟩⟩

/-- Blank lines behind the last one that says anything, and the line ends of another system, play no
role. -/
example :
    (⟨"a\n", "Traceback:\r\n  ValueError: no \r\n \n\n", .ok 1⟩ : Captured).toResult =
      .failed ["a"] "ValueError: no" .runtime := by decide

end Sandbox.Python.Captured
