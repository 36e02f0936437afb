import Sandbox.Proofs.Console.Lines
import Sandbox.Proofs.Text.Utf8
import Sandbox.Python.Basic

/-!
# Lines before and after decoding

Compiled guests and the interpreter show their output alike: cutting bytes into lines as they come
and decoding each line gives the same lines as decoding everything at once and splitting the text.
Both ways treat a carriage return and an ill-formed part at the end of a line alike, since a byte of
a line end is decoded on its own.

## Main results

* `Emission.lineText_eq` : the text of a line, decoded before or after its carriage return is
  dropped.
* `Transcript.lines_decodeLossy_append` : splitting a decoded text follows the cutting of its bytes.
* `Transcript.finish_eq_lines_decodeLossy` : a transcript of one stream has the lines of the decoded
  text.
-/

namespace Sandbox

/-! ### Splitting texts -/

namespace Text

theorem linesFrom_append_newline {line : List Char} (h : '\n' ∉ line) (before rest : List Char) :
    linesFrom before (line ++ '\n' :: rest) =
      closeLine (line.reverse ++ before) :: linesOf rest := by
  induction line generalizing before with
  | nil => simp [linesFrom, linesOf]
  | cons c line ih =>
    rw [List.mem_cons, not_or] at h
    simp [linesFrom, Ne.symm h.1, ih h.2]

theorem linesFrom_of_newline_not_mem {line : List Char} (h : '\n' ∉ line) (before : List Char) :
    linesFrom before line =
      if line.reverse ++ before = [] then [] else [before.reverse ++ line] := by
  induction line generalizing before with
  | nil => by_cases hb : before = [] <;> simp [linesFrom, hb]
  | cons c line ih =>
    rw [List.mem_cons, not_or] at h
    simp [linesFrom, Ne.symm h.1, ih h.2]

theorem closeLine_reverse (line : List Char) :
    closeLine line.reverse = if line.getLast? = some '\r' then line.dropLast else line := by
  induction line using List.reverseRecOn with
  | nil => rfl
  | append_singleton line c _ =>
    rw [List.reverse_append, List.reverse_singleton, List.singleton_append, List.getLast?_concat]
    by_cases hc : c = '\r' <;> simp [closeLine, hc]

end Text

open Text.Utf8 (decodeLossy decoded)

/-! ### Lines of bytes -/

/-- Decoding the bytes of a line without its carriage return is decoding the line and dropping the
carriage return of the text. -/
theorem Emission.lineText_eq (bytes : List UInt8) :
    lineText bytes = String.ofList (Text.closeLine (decoded bytes).reverse) := by
  rw [lineText, Text.Utf8.decodeLossy_eq, Text.closeLine_reverse]
  have hiff : (decoded bytes).getLast? = some '\r' ↔
      bytes.getLast? = some Transcript.carriageReturn :=
    Text.Utf8.getLast?_decoded_eq_return_iff bytes
  by_cases hlast : bytes.getLast? = some Transcript.carriageReturn
  · obtain ⟨front, rfl⟩ := List.getLast?_eq_some_iff.mp hlast
    have hdecoded : decoded (front ++ [Transcript.carriageReturn]) = decoded front ++ ['\r'] :=
      Text.Utf8.decoded_append_cons (k := Transcript.carriageReturn) (by decide) front []
    rw [if_pos hlast, if_pos (hiff.mpr hlast), hdecoded, List.dropLast_concat, List.dropLast_concat]
  · rw [if_neg hlast, if_neg (mt hiff.mp hlast)]

namespace Transcript

open Emission

/-- The lines of a decoded text are the ones that cutting its bytes at newlines gives; `before`
holds the bytes of the first line that were already read. -/
theorem lines_decodeLossy_append {before : List UInt8} (h : newline ∉ before)
    (bytes : List UInt8) :
    Text.lines (decodeLossy (before ++ bytes)) =
      (cut before.reverse bytes).1 ++
        Unfinished.lines ⟨(cut before.reverse bytes).2.reverse, 0⟩ := by
  induction bytes generalizing before with
  | nil =>
    have hline : '\n' ∉ decoded before := by rwa [Text.Utf8.newline_mem_decoded_iff]
    have hempty : decoded before = [] ↔ before = [] := Text.Utf8.decoded_eq_nil_iff before
    rw [List.append_nil, Text.lines, Text.linesOf, Text.Utf8.decodeLossy_eq, String.toList_ofList,
      Text.linesFrom_of_newline_not_mem hline]
    by_cases hb : before = []
    · simp [cut, Unfinished.lines, hb]
    · simp [cut, Unfinished.lines, hb, hempty, Text.Utf8.decodeLossy_eq]
  | cons b bytes ih =>
    by_cases hb : b = newline
    · subst hb
      have hline : '\n' ∉ decoded before := by rwa [Text.Utf8.newline_mem_decoded_iff]
      have hdecoded : decoded (before ++ newline :: bytes) =
          decoded before ++ '\n' :: decoded bytes :=
        Text.Utf8.decoded_append_cons (k := newline) (by decide) before bytes
      have hrest : (Text.linesOf (decoded bytes)).map String.ofList =
          (cut [] bytes).1 ++ Unfinished.lines ⟨(cut [] bytes).2.reverse, 0⟩ := by
        simpa [Text.lines, Text.Utf8.decodeLossy_eq] using @ih [] List.not_mem_nil
      rw [Text.lines, Text.linesOf, Text.Utf8.decodeLossy_eq, String.toList_ofList, hdecoded,
        Text.linesFrom_append_newline hline, List.append_nil, List.map_cons, hrest,
        ← lineText_eq]
      simp only [cut, if_true, closeLine_eq, List.reverse_reverse, List.cons_append]
    · have hbefore : newline ∉ before ++ [b] := by
        simp [h, Ne.symm hb]
      simpa [cut, hb] using ih hbefore

/-- The lines and the rest of what one stream has written are those that cutting gives. -/
theorem endedLines_restLines_of_one (stream : Stream) (bytes : List UInt8) :
    endedLines (bytes.map (Prod.mk stream)) = (cut [] bytes).1 ∧
      restLines (bytes.map (Prod.mk stream)) =
        Unfinished.lines ⟨(cut [] bytes).2.reverse, 0⟩ := by
  obtain ⟨hlines, hrest⟩ := cut_rest stream [] bytes
  have hopen := @openStreams_append_of_fresh stream [] bytes (Or.inl (rest_nil stream))
  rw [List.nil_append] at hlines hrest hopen
  rw [rest_nil, List.reverse_nil] at hlines hrest
  refine ⟨hlines, ?_⟩
  rw [restLines, hopen, hrest]
  by_cases hend : (cut [] bytes).2 = [] <;> simp [openStreams, Unfinished.lines, hrest, hend]

theorem ofChunks_map_mk (stream : Stream) (pieces : List (List UInt8)) :
    ofChunks (pieces.map (Chunk.mk stream)) = pieces.flatten.map (Prod.mk stream) := by
  rw [ofChunks, List.flatMap_map, List.map_flatten, List.flatMap_def]

/-- A transcript to which one stream was written, in any pieces, shows the lines of the text that
all its bytes decode to. Those are the lines with which the report of an interpreter that wrote
these bytes begins, and all of them if it failed. -/
theorem finish_eq_lines_decodeLossy (stream : Stream) (pieces : List (List UInt8)) :
    let shown := ((ofLines []).writeAll (pieces.map (Chunk.mk stream))).finish
    let text := decodeLossy pieces.flatten
    shown = Text.lines text ∧
      ∀ (stderr : String) (ended : Python.Ended),
        let run : Python.Captured := ⟨text, stderr, ended⟩
        run.toResult.output = shown ++
          if run.succeeded then
            (Text.lines stderr).filter (fun line => !Text.allBlank line) ++
              [Python.Captured.successLine]
          else [] := by
  intro shown text
  have hshown : shown = Text.lines text := by
    obtain ⟨hlines, hrest⟩ := endedLines_restLines_of_one stream pieces.flatten
    have hsplit := lines_decodeLossy_append List.not_mem_nil pieces.flatten
    rw [List.nil_append, List.reverse_nil] at hsplit
    rw [show text = decodeLossy pieces.flatten from rfl, hsplit, ← hlines, ← hrest,
      ← ofChunks_map_mk]
    exact finish_writeAll [] _
  refine ⟨hshown, fun stderr ended => ?_⟩
  intro run
  rw [hshown, Python.Captured.toResult]
  by_cases hrun : run.succeeded
  · rw [if_pos hrun, if_pos hrun, ← List.append_assoc]
    rfl
  · rw [if_neg hrun, if_neg hrun, List.append_nil]
    rfl

end Transcript

end Sandbox
