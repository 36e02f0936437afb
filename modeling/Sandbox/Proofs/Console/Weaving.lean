import Sandbox.Proofs.Console.Lines

/-!
# Streams beside each other

A transcript shows the lines of both streams, but the streams do not disturb each other. Whatever is
written to the other one in between, the lines that stem from a stream are those that it has alone,
in the same order. So only the order between the two streams depends on how their writes interleave.

A line stems from the stream whose write adds it, which is the stream of the newline that ends it;
an unfinished line stems from its own stream.

## Main definitions

* `Weaves` : chunks are writes to standard output and to standard error, in some interleaving.
* `Transcript.shown` : the lines of a new transcript after chunks.
* `Transcript.sources` : the streams that these lines stem from.
* `Emission.origins`, `Emission.linesFrom` : the same of a sequence of bytes, and the lines that
  stem from one stream.

## Main results

* `Emission.linesFrom_eq` : the lines that stem from a stream are those of its bytes alone.
* `Emission.shownLines_perm` : all lines stem from one stream or the other.
* `Transcript.Records.sources_eq` : the streams that lines stem from are those of their newlines.
* `Transcript.shown_of_weaves` : two interleavings of the same writes.
-/

namespace Sandbox

/-- The chunks are the writes `outs` to standard output and `errs` to standard error, each in order,
in some interleaving. -/
inductive Weaves : List (List UInt8) → List (List UInt8) → List Chunk → Prop
  /-- Nothing is written. -/
  | nil : Weaves [] [] []
  /-- The first write is to standard output. -/
  | stdout {outs errs : List (List UInt8)} {chunks : List Chunk} (bytes : List UInt8)
      (h : Weaves outs errs chunks) : Weaves (bytes :: outs) errs (⟨.stdout, bytes⟩ :: chunks)
  /-- The first write is to standard error. -/
  | stderr {outs errs : List (List UInt8)} {chunks : List Chunk} (bytes : List UInt8)
      (h : Weaves outs errs chunks) : Weaves outs (bytes :: errs) (⟨.stderr, bytes⟩ :: chunks)

/-- What belongs to a stream, of what belongs to standard output and to standard error. -/
def Stream.pick {α : Type} (out err : α) : Stream → α
  | stdout => out
  | stderr => err

open Transcript (newline)

namespace Emission

variable (stream : Stream) (written : List Emission)

/-- The streams of the newlines. -/
def closers : List Stream :=
  (written.filter fun e => e.2 = newline).map Prod.fst

/-- The streams that the lines stem from, in the order of the lines: for each newline its stream,
and then the streams with an unterminated rest. -/
def origins : List Stream :=
  closers written ++ openStreams written

/-- The lines and the unterminated rests. -/
def shownLines : List String :=
  endedLines written ++ restLines written

/-- The lines that stem from a stream. -/
def linesFrom : List String :=
  (((origins written).zip (shownLines written)).filter fun line => line.1 = stream).map Prod.snd

/-! ### The bytes of one stream -/

theorem rest_filter : rest stream (written.filter fun e => e.1 = stream) = rest stream written := by
  simp only [rest, bytesOf, List.filter_filter, Bool.and_self]

variable {stream written} in
theorem rest_filter_of_ne {other : Stream} (h : other ≠ stream) :
    rest other (written.filter fun e => e.1 = stream) = [] := by
  have hnone : bytesOf other (written.filter fun e => e.1 = stream) = [] := by
    rw [bytesOf, List.filter_filter, List.map_eq_nil_iff, List.filter_eq_nil_iff]
    intro e _ he
    rw [Bool.and_eq_true, decide_eq_true_eq, decide_eq_true_eq] at he
    exact h (he.1.symm.trans he.2)
  rw [rest, hnone, List.rtakeWhile_nil]

/-! ### Lines and their streams -/

theorem length_closers : (closers written).length = (endedLines written).length := by
  rw [closers, List.length_map, length_endedLines, List.countP_eq_length_filter]

theorem length_origins : (origins written).length = (shownLines written).length := by
  simp only [origins, shownLines, restLines, List.length_append, List.length_map, length_closers]

/-- The lines that newlines of a stream end. -/
def endedBy : List String :=
  (((closers written).zip (endedLines written)).filter fun line => line.1 = stream).map Prod.snd

theorem endedBy_concat (e : Emission) :
    endedBy stream (written ++ [e]) = endedBy stream written ++
      if e.1 = stream ∧ e.2 = newline then [lineText (rest stream written)] else [] := by
  rw [endedBy, closers, endedLines_concat, List.filter_append, List.map_append, ← closers]
  by_cases hb : e.2 = newline
  · by_cases hs : e.1 = stream <;>
      simp [endedBy, hb, hs, List.zip_append (length_closers written)]
  · simp [endedBy, hb]

theorem endedBy_eq :
    endedBy stream written = endedLines (written.filter fun e => e.1 = stream) := by
  induction written using List.reverseRecOn with
  | nil => rfl
  | append_singleton written e ih =>
    rw [endedBy_concat, ih, List.filter_append]
    by_cases hs : e.1 = stream
    · rw [List.filter_singleton, decide_eq_true hs, cond_true, endedLines_concat, hs, rest_filter]
      simp only [true_and]
    · rw [List.filter_singleton, decide_eq_false hs, cond_false, List.append_nil,
        if_neg (fun h => hs h.1), List.append_nil]

/-! ### Rests and their streams -/

/-- A stream has at most one unterminated rest. -/
theorem filter_openStreams :
    (openStreams written).filter (· = stream) =
      if rest stream written = [] then [] else [stream] := by
  induction written using List.reverseRecOn with
  | nil => rfl
  | append_singleton written e ih =>
    rw [openStreams_concat, rest_concat]
    by_cases hs : e.1 = stream
    · by_cases hb : e.2 = newline
      · simp [hs, hb]
      · by_cases hr : rest stream written = [] <;> simp_all
    · by_cases hb : e.2 = newline
      · have hothers : ((openStreams written).filter (· ≠ e.1)).filter (· = stream) =
            (openStreams written).filter (· = stream) := by
          rw [List.filter_filter]
          refine List.filter_congr fun other _ => ?_
          by_cases ho : other = stream <;> simp [ho, Ne.symm hs]
        rw [if_pos hb, if_neg hs, hothers, ih]
      · by_cases hr : rest e.1 written = [] <;> simp_all

theorem openStreams_filter :
    openStreams (written.filter fun e => e.1 = stream) =
      if rest stream written = [] then [] else [stream] := by
  rw [← rest_filter, ← filter_openStreams, eq_comm, List.filter_eq_self]
  intro other hother
  refine decide_eq_true (by_contra fun hne => ?_)
  exact (mem_openStreams_iff _ _).mp hother (rest_filter_of_ne hne)

/-! ### The lines of one stream -/

/-- The lines that stem from a stream are those of its bytes alone. -/
theorem linesFrom_eq :
    linesFrom stream written = shownLines (written.filter fun e => e.1 = stream) := by
  have hrests : (((openStreams written).zip (restLines written)).filter fun line =>
      line.1 = stream).map Prod.snd = restLines (written.filter fun e => e.1 = stream) := by
    have hpairs : (openStreams written).zip (restLines written) = (openStreams written).map
        fun other => (other, Text.Utf8.decodeLossy (rest other written)) := by
      simpa [restLines] using List.zip_map' (f := id) (l := openStreams written)
    rw [hpairs, List.filter_map, List.map_map, restLines, openStreams_filter, ← filter_openStreams]
    refine List.map_congr_left fun other hother => ?_
    obtain rfl : other = stream := by simpa using (List.mem_filter.mp hother).2
    rw [rest_filter]
    rfl
  rw [linesFrom, origins, shownLines, List.zip_append (length_closers written), List.filter_append,
    List.map_append, hrests, ← endedBy, endedBy_eq, shownLines]

/-- The lines are those that stem from standard output and those that stem from standard error, in
some order. -/
theorem shownLines_perm :
    (shownLines written).Perm (linesFrom .stdout written ++ linesFrom .stderr written) := by
  let lines := (origins written).zip (shownLines written)
  have hlines : lines.map Prod.snd = shownLines written :=
    List.map_snd_zip (length_origins written).ge
  have hstderr : lines.filter (fun line => !decide (line.1 = .stdout)) =
      lines.filter fun line => line.1 = .stderr :=
    List.filter_congr fun ⟨stream, _⟩ _ => by cases stream <;> rfl
  have hsplit := List.filter_append_perm (fun line => decide (line.1 = .stdout)) lines
  rw [hstderr] at hsplit
  rw [← hlines, linesFrom, linesFrom, ← List.map_append]
  exact (hsplit.map Prod.snd).symm

/-! ### All chunks and those of one stream -/

/-- The writes to one stream among chunks. -/
theorem ofChunks_filter (chunks : List Chunk) :
    (ofChunks chunks).filter (fun e => e.1 = stream) =
      ofChunks (chunks.filter fun chunk => chunk.stream = stream) := by
  induction chunks with
  | nil => rfl
  | cons chunk chunks ih =>
    rw [ofChunks, List.flatMap_cons, List.filter_append, ← ofChunks, ih, List.filter_map]
    by_cases hs : chunk.stream = stream <;> simp [ofChunks, hs, Function.comp_def]

/-- Every newline among the bytes of one stream is one of that stream. -/
theorem closers_map_mk (bytes : List UInt8) :
    closers (bytes.map (Prod.mk stream)) =
      List.replicate ((bytes.map (Prod.mk stream)).countP fun e => e.2 = newline) stream := by
  refine List.eq_replicate_iff.mpr ⟨by rw [closers, List.length_map, List.countP_eq_length_filter],
    fun other hother => ?_⟩
  obtain ⟨e, he, rfl⟩ := List.mem_map.mp hother
  obtain ⟨b, -, rfl⟩ := List.mem_map.mp (List.mem_of_mem_filter he)
  rfl

end Emission

/-- The writes to a stream among chunks that interleave the writes to both. -/
theorem Weaves.filter_eq {outs errs : List (List UInt8)} {chunks : List Chunk}
    (h : Weaves outs errs chunks) (stream : Stream) :
    chunks.filter (fun chunk => chunk.stream = stream) =
      (stream.pick outs errs).map (Chunk.mk stream) := by
  induction h with
  | nil => cases stream <;> rfl
  | stdout bytes h ih => cases stream <;> simpa [Stream.pick] using ih
  | stderr bytes h ih => cases stream <;> simpa [Stream.pick] using ih

namespace Transcript

open Emission

/-- All lines of a new transcript after chunks. -/
def shown (chunks : List Chunk) : List String :=
  ((ofLines []).writeAll chunks).finish

theorem shown_eq (chunks : List Chunk) : shown chunks = shownLines (ofChunks chunks) := by
  rw [shown, finish_writeAll, List.nil_append, shownLines]

/-- The streams that lines stem from when chunks are added to a transcript: for each line that a
write adds its stream, and then the streams whose unfinished lines are shown at the end. -/
def sources (t : Transcript) : List Chunk → List Stream
  | [] => t.pending
  | chunk :: chunks =>
    List.replicate ((t.write chunk).lines.length - t.lines.length) chunk.stream ++
      (t.write chunk).sources chunks

/-- Lines stem from the streams of their newlines. -/
theorem Records.sources_eq {first : List String} {written : List Emission} {t : Transcript}
    (h : Records first written t) (chunks : List Chunk) :
    t.sources chunks = closers (ofChunks chunks) ++ openStreams (written ++ ofChunks chunks) := by
  induction chunks generalizing written t with
  | nil => simpa [sources, closers] using h.pending_eq
  | cons chunk chunks ih =>
    have hwrite := h.write chunk
    have hadded : (t.write chunk).lines.length - t.lines.length =
        (chunk.bytes.map (Prod.mk chunk.stream)).countP fun e => e.2 = newline := by
      rw [hwrite.lines_eq, h.lines_eq, List.length_append, List.length_append, length_endedLines,
        length_endedLines, List.countP_append, ← Nat.add_assoc, Nat.add_sub_cancel_left]
    have hchunks : ofChunks (chunk :: chunks) =
        chunk.bytes.map (Prod.mk chunk.stream) ++ ofChunks chunks := List.flatMap_cons
    rw [sources, ih hwrite, hadded, ← closers_map_mk, hchunks, closers, closers, closers,
      List.filter_append, List.map_append, List.append_assoc, List.append_assoc]

theorem sources_eq (chunks : List Chunk) :
    (ofLines []).sources chunks = origins (ofChunks chunks) :=
  (Records.ofLines []).sources_eq chunks

theorem linesFrom_of_weaves {outs errs : List (List UInt8)} {chunks : List Chunk}
    (h : Weaves outs errs chunks) (stream : Stream) :
    linesFrom stream (ofChunks chunks) = shown ((stream.pick outs errs).map (Chunk.mk stream)) := by
  rw [linesFrom_eq, ofChunks_filter, h.filter_eq, shown_eq]

/-- Chunks that interleave the same writes give the same lines, perhaps in another order. In each,
every line stems from a stream, and those that stem from a stream are the lines of that stream
alone, in the same order. -/
theorem shown_of_weaves {outs errs : List (List UInt8)} {chunks others : List Chunk}
    (h : Weaves outs errs chunks) (h' : Weaves outs errs others) :
    (shown chunks).Perm (shown others) ∧
      ∀ woven ∈ [chunks, others],
        ((ofLines []).sources woven).length = (shown woven).length ∧
        ∀ stream : Stream,
          ((((ofLines []).sources woven).zip (shown woven)).filter fun line =>
              line.1 = stream).map Prod.snd =
            shown ((stream.pick outs errs).map (Chunk.mk stream)) := by
  constructor
  · have hchunks := shownLines_perm (ofChunks chunks)
    have hothers := shownLines_perm (ofChunks others)
    rw [linesFrom_of_weaves h, linesFrom_of_weaves h, ← shown_eq] at hchunks
    rw [linesFrom_of_weaves h', linesFrom_of_weaves h', ← shown_eq] at hothers
    exact hchunks.trans hothers.symm
  · intro woven hmem
    have hwoven : Weaves outs errs woven := by
      rcases List.mem_pair.mp hmem with rfl | rfl
      · exact h
      · exact h'
    rw [sources_eq, shown_eq woven]
    exact ⟨length_origins _, linesFrom_of_weaves hwoven⟩

/-- Standard error may be written to before or after standard output: its line comes first or
second, and the rest of standard output last. -/
theorem shown_of_weaves_sample :
    let out : Chunk := ⟨.stdout, [97, 10, 98]⟩
    let first := [out, ⟨.stderr, [120]⟩, ⟨.stderr, [121, 10]⟩]
    let second := [⟨.stderr, [120]⟩, ⟨.stderr, [121, 10]⟩, out]
    Weaves [[97, 10, 98]] [[120], [121, 10]] first ∧
    Weaves [[97, 10, 98]] [[120], [121, 10]] second ∧
    shown first = ["a", "xy", "b"] ∧ shown second = ["xy", "a", "b"] ∧
    (shown first).Perm (shown second) ∧
    ((((ofLines []).sources second).zip (shown second)).filter fun line =>
      line.1 = .stdout).map Prod.snd = shown [out] := by
  have hfirst : Weaves [[97, 10, 98]] [[120], [121, 10]] _ :=
    .stdout [97, 10, 98] (.stderr [120] (.stderr [121, 10] .nil))
  have hsecond : Weaves [[97, 10, 98]] [[120], [121, 10]] _ :=
    .stderr [120] (.stderr [121, 10] (.stdout [97, 10, 98] .nil))
  obtain ⟨hperm, hlines⟩ := shown_of_weaves hfirst hsecond
  exact ⟨hfirst, hsecond, by decide, by decide, hperm,
    (hlines _ (List.mem_cons_of_mem _ List.mem_cons_self)).2 .stdout⟩

end Transcript

end Sandbox
