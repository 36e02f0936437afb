import Sandbox.Proofs.Console.Emission

/-!
# The lines of a transcript

A transcript has the lines of the bytes that were written, in the order of their newlines, and at
its end the unterminated rests, in the order of their first bytes. The bytes alone decide, and not
how they were cut into writes.

A write numbers its stream's unfinished line anew whenever it ends a line or nothing was pending, so
the numbers of two unfinished lines compare like the places of their first bytes. `Records` is the
invariant that says so; `Records.write` shows that a write keeps it.

## Main definitions

* `Transcript.byAge` : the streams, in the order in which unfinished lines are shown.
* `Transcript.Records` : a transcript holds the lines and the rests of a sequence of bytes.

## Main results

* `Transcript.Records.write` : a write keeps the invariant.
* `Transcript.lines_finish_writeAll` : the lines of a transcript after any writes.
-/

namespace Sandbox.Transcript

open Emission

/-! ### Cutting at newlines -/

theorem closeLine_eq (reversed : List UInt8) : closeLine reversed = lineText reversed.reverse := by
  rcases reversed with _ | ⟨b, before⟩
  · rfl
  · by_cases hb : b = carriageReturn <;> simp [closeLine, lineText, hb]

theorem cut_concat (reversed bytes : List UInt8) (b : UInt8) :
    cut reversed (bytes ++ [b]) =
      if b = newline then
        ((cut reversed bytes).1 ++ [closeLine (cut reversed bytes).2], [])
      else ((cut reversed bytes).1, b :: (cut reversed bytes).2) := by
  induction bytes generalizing reversed with
  | nil => by_cases hb : b = newline <;> simp [cut, hb]
  | cons a bytes ih =>
    by_cases ha : a = newline
    · simp only [List.cons_append, cut, ha, if_true, ih]
      split <;> rfl
    · simp only [List.cons_append, cut, ha, if_false, ih]

theorem cut_fst_eq_nil_iff (reversed bytes : List UInt8) :
    (cut reversed bytes).1 = [] ↔ newline ∉ bytes := by
  induction bytes generalizing reversed with
  | nil => simp [cut]
  | cons a bytes ih =>
    by_cases ha : a = newline
    · simp [cut, ha]
    · simp [cut, ha, ih, Ne.symm ha]

/-- Cutting what a stream writes after its rest gives the lines that are added, and the new rest. -/
theorem cut_rest (stream : Stream) (written : List Emission) (bytes : List UInt8) :
    endedLines (written ++ bytes.map (Prod.mk stream)) =
        endedLines written ++ (cut (rest stream written).reverse bytes).1 ∧
      rest stream (written ++ bytes.map (Prod.mk stream)) =
        (cut (rest stream written).reverse bytes).2.reverse := by
  induction bytes using List.reverseRecOn with
  | nil => simp [cut]
  | append_singleton bytes b ih =>
    obtain ⟨hlines, hrest⟩ := ih
    rw [List.map_append, List.map_singleton, ← List.append_assoc, endedLines_concat, rest_concat,
      cut_concat, closeLine_eq, hlines, hrest]
    by_cases hb : b = newline <;> simp [hb]

/-! ### What a write changes -/

theorem write_of_eq_nil (t : Transcript) {chunk : Chunk} (h : chunk.bytes = []) :
    t.write chunk = t := by
  simp only [write, h, List.isEmpty_nil, if_true]

section Write

variable (t : Transcript) {chunk : Chunk} (h : chunk.bytes ≠ [])

include h

theorem lines_write : (t.write chunk).lines =
    t.lines ++ (cut (t.unfinished chunk.stream).bytes.reverse chunk.bytes).1 := by
  simp only [write, List.isEmpty_iff, h, if_false]

theorem writes_write : (t.write chunk).writes = t.writes + 1 := by
  simp only [write, List.isEmpty_iff, h, if_false]

theorem unfinished_write_self : (t.write chunk).unfinished chunk.stream =
    let before := t.unfinished chunk.stream
    ⟨(cut before.bytes.reverse chunk.bytes).2.reverse,
      if before.bytes = [] ∨ newline ∈ chunk.bytes then t.writes + 1 else before.since⟩ := by
  have hwhen (before : Unfinished) :
      (before.bytes.isEmpty || !(cut before.bytes.reverse chunk.bytes).1.isEmpty) = true ↔
        before.bytes = [] ∨ newline ∈ chunk.bytes := by
    rw [Bool.or_eq_true, List.isEmpty_iff, Bool.not_eq_true', ← Bool.not_eq_true, List.isEmpty_iff,
      cut_fst_eq_nil_iff, not_not]
  obtain ⟨stream, bytes⟩ := chunk
  simp only [write, List.isEmpty_iff, h, if_false]
  cases stream <;> exact congrArg (Unfinished.mk _) (if_congr (hwhen _) rfl rfl)

theorem unfinished_write_of_ne {other : Stream} (hne : chunk.stream ≠ other) :
    (t.write chunk).unfinished other = t.unfinished other := by
  obtain ⟨stream, bytes⟩ := chunk
  simp only [write, List.isEmpty_iff, h, if_false]
  cases stream <;> cases other <;> first | rfl | exact absurd rfl hne

end Write

/-- A transcript counts at most one write for each chunk. -/
theorem writes_writeAll_le (t : Transcript) (chunks : List Chunk) :
    (t.writeAll chunks).writes ≤ t.writes + chunks.length := by
  induction chunks generalizing t with
  | nil => exact le_rfl
  | cons chunk chunks ih =>
    have hstep : (t.write chunk).writes ≤ t.writes + 1 := by
      by_cases h : chunk.bytes = []
      · rw [write_of_eq_nil t h]
        exact Nat.le_succ _
      · rw [writes_write t h]
    have hrest := ih (t.write chunk)
    rw [List.length_cons]
    exact hrest.trans (by omega)

/-! ### The order of unfinished lines -/

/-- The streams, in the order in which their unfinished lines are shown. -/
def byAge (t : Transcript) : List Stream :=
  if t.stderr.since < t.stdout.since then [.stderr, .stdout] else [.stdout, .stderr]

/-- The streams with an unfinished line, in the order in which these are shown. -/
def pending (t : Transcript) : List Stream :=
  t.byAge.filter fun stream => (t.unfinished stream).bytes ≠ []

theorem finish_eq (t : Transcript) : t.finish =
    t.lines ++ t.pending.map fun stream => Text.Utf8.decodeLossy (t.unfinished stream).bytes := by
  by_cases hage : t.stderr.since < t.stdout.since <;> by_cases hout : t.stdout.bytes = [] <;>
    by_cases herr : t.stderr.bytes = [] <;>
      simp [finish, pending, byAge, Unfinished.lines, unfinished, hage, hout, herr]

theorem byAge_congr {t u : Transcript}
    (h : ∀ stream, (t.unfinished stream).since = (u.unfinished stream).since) :
    t.byAge = u.byAge := by
  have hout : t.stdout.since = u.stdout.since := h .stdout
  have herr : t.stderr.since = u.stderr.since := h .stderr
  rw [byAge, byAge, hout, herr]

theorem byAge_of_lt {t : Transcript} {stream other : Stream}
    (h : (t.unfinished other).since < (t.unfinished stream).since) :
    t.byAge = [other, stream] := by
  cases stream <;> cases other
  · exact absurd h (lt_irrefl _)
  · exact if_pos h
  · exact if_neg (lt_asymm h)
  · exact absurd h (lt_irrefl _)

private theorem pending_filter_ne {stream other : Stream} (t : Transcript) (hne : stream ≠ other) :
    t.pending.filter (· ≠ stream) =
      if (t.unfinished other).bytes = [] then [] else [other] := by
  by_cases hage : t.stderr.since < t.stdout.since <;> cases stream <;> cases other <;>
    first
    | exact absurd rfl hne
    | (by_cases hout : t.stdout.bytes = [] <;> by_cases herr : t.stderr.bytes = [] <;>
        simp [pending, byAge, unfinished, hage, hout, herr])

private theorem exists_other (stream : Stream) : ∃ other, stream ≠ other := by
  cases stream
  · exact ⟨.stderr, Stream.noConfusion⟩
  · exact ⟨.stdout, Stream.noConfusion⟩

/-! ### The invariant -/

/-- A transcript that began with the lines `first` holds the lines and the rests of what was
written: its unfinished lines are the rests, and are shown in the order of their first bytes. -/
structure Records (first : List String) (written : List Emission) (t : Transcript) : Prop where
  lines_eq : t.lines = first ++ endedLines written
  bytes_eq : ∀ stream, (t.unfinished stream).bytes = rest stream written
  since_le : ∀ stream, (t.unfinished stream).since ≤ t.writes
  pending_eq : t.pending = openStreams written

theorem Records.ofLines (first : List String) : Records first [] (ofLines first) where
  lines_eq := (List.append_nil first).symm
  bytes_eq stream := by cases stream <;> rfl
  since_le stream := by cases stream <;> exact le_rfl
  pending_eq := rfl

theorem Records.finish_eq {first : List String} {written : List Emission} {t : Transcript}
    (h : Records first written t) :
    t.finish = first ++ endedLines written ++ restLines written := by
  simp only [Transcript.finish_eq, h.lines_eq, h.pending_eq, h.bytes_eq, restLines]

/-- A write keeps the invariant, whether it ends lines, begins a rest or goes on with one. -/
theorem Records.write {first : List String} {written : List Emission} {t : Transcript}
    (h : Records first written t) (chunk : Chunk) :
    Records first (written ++ chunk.bytes.map (Prod.mk chunk.stream)) (t.write chunk) := by
  by_cases hempty : chunk.bytes = []
  · rw [write_of_eq_nil t hempty, hempty, List.map_nil, List.append_nil]
    exact h
  obtain ⟨hlines, hrest⟩ := cut_rest chunk.stream written chunk.bytes
  rw [← h.bytes_eq] at hlines hrest
  have hself := unfinished_write_self t hempty
  have hother {other : Stream} (hne : chunk.stream ≠ other) := unfinished_write_of_ne t hempty hne
  have hwrites := writes_write t hempty
  have hbytes (stream : Stream) : ((t.write chunk).unfinished stream).bytes =
      rest stream (written ++ chunk.bytes.map (Prod.mk chunk.stream)) := by
    by_cases hs : chunk.stream = stream
    · rw [← hs, hself, hrest]
    · rw [hother hs, rest_append_of_ne hs, h.bytes_eq]
  refine ⟨?_, hbytes, fun stream => ?_, ?_⟩
  · rw [lines_write t hempty, h.lines_eq, hlines, List.append_assoc]
  · by_cases hs : chunk.stream = stream
    · rw [← hs, hself, hwrites]
      have hle := h.since_le chunk.stream
      dsimp only
      split <;> omega
    · rw [hother hs, hwrites]
      exact (h.since_le stream).trans (Nat.le_succ _)
  · by_cases hfresh : rest chunk.stream written = [] ∨ newline ∈ chunk.bytes
    -- The stream is numbered anew, so that its rest comes after that of the other stream.
    · obtain ⟨other, hne⟩ := exists_other chunk.stream
      have hage : (t.write chunk).byAge = [other, chunk.stream] := by
        refine byAge_of_lt ?_
        rw [hother hne, hself]
        dsimp only
        rw [if_pos (by rwa [h.bytes_eq])]
        exact Nat.lt_succ_of_le (h.since_le other)
      rw [openStreams_append_of_fresh hfresh, ← h.pending_eq, pending_filter_ne t hne, pending,
        hage, ← hbytes, List.filter_cons, List.filter_singleton, hother hne]
      by_cases ho : (t.unfinished other).bytes = [] <;>
        by_cases hn : ((t.write chunk).unfinished chunk.stream).bytes = [] <;> simp [ho, hn]
    · rw [not_or] at hfresh
      obtain ⟨hopen, hpending⟩ := openStreams_append_of_open hfresh.1 hfresh.2
      have hage : (t.write chunk).byAge = t.byAge := by
        refine byAge_congr fun stream => ?_
        by_cases hs : chunk.stream = stream
        · rw [← hs, hself]
          dsimp only
          rw [if_neg (by rw [h.bytes_eq, not_or]; exact hfresh)]
        · rw [hother hs]
      rw [hopen, ← h.pending_eq, pending, pending, hage]
      refine List.filter_congr fun stream _ => ?_
      by_cases hs : chunk.stream = stream
      · rw [hbytes, h.bytes_eq, ← hs]
        simp [hpending, hfresh.1]
      · rw [hother hs]

/-- Whatever was written before, the invariant holds after more chunks. -/
theorem Records.writeAll {first : List String} {written : List Emission} {t : Transcript}
    (h : Records first written t) (chunks : List Chunk) :
    Records first (written ++ ofChunks chunks) (t.writeAll chunks) := by
  induction chunks generalizing written t with
  | nil => simpa [Transcript.writeAll] using h
  | cons chunk chunks ih => simpa [ofChunks, Transcript.writeAll] using ih (h.write chunk)

/-! ### The lines after any writes -/

theorem records_writeAll (first : List String) (chunks : List Chunk) :
    Records first (ofChunks chunks) ((ofLines first).writeAll chunks) := by
  simpa using (Records.ofLines first).writeAll chunks

/-- A transcript shows the lines and then the rests of the bytes that were written. -/
theorem finish_writeAll (first : List String) (chunks : List Chunk) :
    ((ofLines first).writeAll chunks).finish =
      first ++ endedLines (ofChunks chunks) ++ restLines (ofChunks chunks) :=
  (records_writeAll first chunks).finish_eq

/-- After any writes, the finished lines are those of the bytes written, one for each newline, and
the unfinished ones follow at the end. Chunks that cut the same sequence of bytes elsewhere give the
same lines. The counter of writes is at most the number of chunks, so that with fewer than `2 ^ 64`
of them a counter of 64 bits is as good as this one. -/
theorem lines_finish_writeAll (first : List String) (chunks : List Chunk) :
    let t := (ofLines first).writeAll chunks
    let written := ofChunks chunks
    t.lines = first ++ endedLines written ∧
      t.lines.length = first.length + written.countP (fun e => e.2 = newline) ∧
      t.finish = first ++ endedLines written ++ restLines written ∧
      (∀ others : List Chunk, ofChunks others = written →
        ((ofLines first).writeAll others).lines = t.lines ∧
          ((ofLines first).writeAll others).finish = t.finish) ∧
      t.writes ≤ chunks.length := by
  intro t written
  have h : Records first written t := records_writeAll first chunks
  refine ⟨h.lines_eq, ?_, h.finish_eq, fun others hsame => ?_, ?_⟩
  · rw [h.lines_eq, List.length_append, length_endedLines]
  · have hothers := records_writeAll first others
    rw [hsame] at hothers
    exact ⟨hothers.lines_eq.trans h.lines_eq.symm, hothers.finish_eq.trans h.finish_eq.symm⟩
  · exact (writes_writeAll_le (ofLines first) chunks).trans_eq (Nat.zero_add _)

end Sandbox.Transcript
