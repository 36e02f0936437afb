import Mathlib.Data.List.DropRight
import Sandbox.Console.Transcript

/-!
# Written bytes and their lines

What a guest writes to both streams is a sequence of bytes, each with its stream. This file says
which lines such a sequence has, without saying how they are found: every newline ends a line, which
is what its stream has written since its own newline before, and a stream that has written something
after its last newline has an unterminated rest. How the sequence was cut into writes plays no role.

The lines are listed by the places of their newlines, and the rests by the places of their first
bytes. What one more byte changes is stated for each of the definitions (`rest_concat`,
`endedLines_concat`, `openStreams_concat`), so that later proofs follow a sequence from its end.

## Main definitions

* `Emission` : a byte and the stream it was written to.
* `Emission.ofChunks` : the sequence that chunks write.
* `Emission.rest` : what a stream has written since its last newline.
* `Emission.endedLines` : the lines, in the order of their newlines.
* `Emission.openStreams`, `Emission.restLines` : the streams with an unterminated rest, and the
  rests, in the order of their first bytes.

## Main results

* `Emission.mem_openStreams_iff` : a stream is listed if and only if its rest is not empty.
* `Emission.openStreams_append_of_fresh`, `Emission.openStreams_append_of_open` : the order of the
  rests after more bytes of one stream.
* `Emission.length_endedLines` : there are as many lines as newlines.
-/

namespace Sandbox

open Transcript (newline carriageReturn)

/-- A byte that was written, after its stream. -/
abbrev Emission : Type := Stream × UInt8

namespace Emission

/-! ### Sequences of bytes -/

/-- The bytes that chunks write, in order. -/
def ofChunks (chunks : List Chunk) : List Emission :=
  chunks.flatMap fun chunk => chunk.bytes.map (Prod.mk chunk.stream)

/-- The bytes of one stream. -/
def bytesOf (stream : Stream) (written : List Emission) : List UInt8 :=
  (written.filter fun e => e.1 = stream).map Prod.snd

/-- The bytes of a stream since its last newline. -/
def rest (stream : Stream) (written : List Emission) : List UInt8 :=
  (bytesOf stream written).rtakeWhile (· ≠ newline)

/-- The text of a line without its newline: one carriage return directly before the newline does not
belong to it. -/
def lineText (bytes : List UInt8) : String :=
  Text.Utf8.decodeLossy (if bytes.getLast? = some carriageReturn then bytes.dropLast else bytes)

@[simp] theorem ofChunks_nil : ofChunks [] = [] := rfl

/-! ### Lines -/

/-- The line that the byte at place `i` ends, if it is a newline: what its stream has written before
it and since its own newline before. -/
def lineEndedAt (written : List Emission) (i : Nat) : Option String :=
  match written[i]? with
  | some (stream, b) =>
    if b = newline then some (lineText (rest stream (written.take i))) else none
  | none => none

/-- The lines, in the order of their newlines over both streams. -/
def endedLines (written : List Emission) : List String :=
  (List.range written.length).filterMap (lineEndedAt written)

/-! ### Unterminated rests -/

/-- The stream whose unterminated rest begins with the byte at place `i`: no newline of the stream
follows, and nothing that belongs to the rest stands before. -/
def openedAt (written : List Emission) (i : Nat) : Option Stream :=
  match written[i]? with
  | some (stream, _) =>
    if (stream, newline) ∉ written.drop i ∧ rest stream (written.take i) = [] then some stream
    else none
  | none => none

/-- The streams with an unterminated rest, in the order of the first bytes of their rests. -/
def openStreams (written : List Emission) : List Stream :=
  (List.range written.length).filterMap (openedAt written)

/-- The texts of the unterminated rests, in the order of their first bytes. -/
def restLines (written : List Emission) : List String :=
  (openStreams written).map fun stream => Text.Utf8.decodeLossy (rest stream written)

/-! ### One more byte -/

@[simp] theorem rest_nil (stream : Stream) : rest stream [] = [] := rfl

theorem rest_concat (stream : Stream) (written : List Emission) (e : Emission) :
    rest stream (written ++ [e]) =
      if e.1 = stream then (if e.2 = newline then [] else rest stream written ++ [e.2])
      else rest stream written := by
  by_cases hs : e.1 = stream
  · rw [if_pos hs]
    have hbytes : bytesOf stream (written ++ [e]) = bytesOf stream written ++ [e.2] := by
      simp only [bytesOf, List.filter_append, List.map_append, List.filter_singleton, hs,
        decide_true, cond_true, List.map_singleton]
    by_cases hb : e.2 = newline <;>
      simp only [rest, hbytes, List.rtakeWhile_concat, hb, ne_eq, not_true_eq_false,
        not_false_eq_true, decide_true, decide_false, Bool.false_eq_true, if_true, if_false]
  · rw [if_neg hs]
    simp only [rest, bytesOf, List.filter_append, List.filter_singleton, hs, decide_false,
      cond_false, List.append_nil]

/-- Bytes of one stream do not change the rest of another. -/
theorem rest_append_of_ne {stream other : Stream} (h : stream ≠ other) (written : List Emission)
    (bytes : List UInt8) :
    rest other (written ++ bytes.map (Prod.mk stream)) = rest other written := by
  induction bytes using List.reverseRecOn with
  | nil => rw [List.map_nil, List.append_nil]
  | append_singleton bytes b ih =>
    rw [List.map_append, List.map_singleton, ← List.append_assoc, rest_concat, if_neg h, ih]

private theorem filterMap_range_concat {α : Type} (f g : List Emission → Nat → Option α)
    (written : List Emission) (e : Emission)
    (h : ∀ i < written.length, f (written ++ [e]) i = g written i) :
    (List.range (written ++ [e]).length).filterMap (f (written ++ [e])) =
      (List.range written.length).filterMap (g written) ++
        (f (written ++ [e]) written.length).toList := by
  rw [List.length_append, List.length_singleton, List.range_succ, List.filterMap_append,
    List.filterMap_congr fun i hi => h i (List.mem_range.mp hi)]
  cases hf : f (written ++ [e]) written.length <;> simp [hf]

theorem endedLines_concat (written : List Emission) (e : Emission) :
    endedLines (written ++ [e]) =
      endedLines written ++ if e.2 = newline then [lineText (rest e.1 written)] else [] := by
  have hbefore : ∀ i < written.length,
      lineEndedAt (written ++ [e]) i = lineEndedAt written i := by
    intro i hi
    simp only [lineEndedAt, List.getElem?_append_left hi, List.take_append_of_le_length hi.le]
  have hlast : lineEndedAt (written ++ [e]) written.length =
      if e.2 = newline then some (lineText (rest e.1 written)) else none := by
    simp only [lineEndedAt, List.getElem?_concat_length, List.take_left]
  rw [endedLines, filterMap_range_concat lineEndedAt lineEndedAt written e hbefore, hlast]
  split <;> rfl

theorem openStreams_concat (written : List Emission) (e : Emission) :
    openStreams (written ++ [e]) =
      if e.2 = newline then (openStreams written).filter (· ≠ e.1)
      else openStreams written ++ if rest e.1 written = [] then [e.1] else [] := by
  have hlast : openedAt (written ++ [e]) written.length =
      if e.2 ≠ newline ∧ rest e.1 written = [] then some e.1 else none := by
    obtain ⟨stream, b⟩ := e
    simp only [openedAt, List.getElem?_concat_length, List.take_left, List.drop_left,
      List.mem_singleton, Prod.mk.injEq, true_and, ne_eq, eq_comm (a := newline)]
  -- A place before the last one loses its rest exactly if the last byte is a newline of its stream.
  have hbefore : ∀ i < written.length, openedAt (written ++ [e]) i =
      (openedAt written i).filter fun stream => (stream, newline) ≠ e := by
    intro i hi
    simp only [openedAt, List.getElem?_append_left hi, List.take_append_of_le_length hi.le,
      List.drop_append_of_le_length hi.le, List.mem_append, List.mem_singleton]
    rcases written[i]? with _ | ⟨stream, b⟩
    · rfl
    · by_cases he : (stream, newline) = e
      · simp only [he, or_true, not_true_eq_false, false_and, if_false]
        split <;> simp [Option.filter, he]
      · simp only [he, or_false]
        split <;> simp [Option.filter, he]
  rw [openStreams, filterMap_range_concat openedAt
    (fun written i => (openedAt written i).filter fun stream => (stream, newline) ≠ e)
    written e hbefore, hlast, ← List.filter_filterMap, ← openStreams]
  obtain ⟨stream, b⟩ := e
  by_cases hb : b = newline
  · simp [hb]
  · have hne : ∀ other : Stream, (other, newline) ≠ (stream, b) := by
      intro other h
      exact hb (Prod.ext_iff.mp h).2.symm
    by_cases hr : rest stream written = [] <;> simp [hb, hr, hne]

/-- A stream is listed if and only if it has written something since its last newline. -/
theorem mem_openStreams_iff (stream : Stream) (written : List Emission) :
    stream ∈ openStreams written ↔ rest stream written ≠ [] := by
  induction written using List.reverseRecOn with
  | nil => simp [openStreams]
  | append_singleton written e ih =>
    rw [openStreams_concat, rest_concat]
    by_cases hs : e.1 = stream
    · subst hs
      by_cases hb : e.2 = newline <;> by_cases hr : rest e.1 written = [] <;> simp [hb, hr, ih]
    · have hs' : stream ≠ e.1 := fun h => hs h.symm
      by_cases hb : e.2 = newline <;> by_cases hr : rest e.1 written = [] <;>
        simp [hb, hr, hs, hs', ih]

/-! ### More bytes of one stream -/

private theorem openStreams_filter_append_of_one (stream : Stream) (written : List Emission)
    (bytes : List UInt8) :
    (openStreams (written ++ bytes.map (Prod.mk stream))).filter (· ≠ stream) =
      (openStreams written).filter (· ≠ stream) := by
  induction bytes using List.reverseRecOn with
  | nil => rw [List.map_nil, List.append_nil]
  | append_singleton bytes b ih =>
    rw [List.map_append, List.map_singleton, ← List.append_assoc, openStreams_concat]
    by_cases hb : b = newline
    · simp only [hb, if_true, List.filter_filter, Bool.and_self, ih]
    · rw [if_neg hb, List.filter_append, ih]
      split <;> simp

private theorem openStreams_filter_of_rest_eq_nil {stream : Stream} {written : List Emission}
    (h : rest stream written = []) :
    (openStreams written).filter (· ≠ stream) = openStreams written := by
  refine List.filter_eq_self.mpr fun other hother => ?_
  have hne : other ≠ stream := by
    rintro rfl
    exact (mem_openStreams_iff other written).mp hother h
  exact decide_eq_true hne

/-- After a newline, or if it had no rest before, the rest of a stream is the one begun last. -/
theorem openStreams_append_of_fresh {stream : Stream} {written : List Emission}
    {bytes : List UInt8} (h : rest stream written = [] ∨ newline ∈ bytes) :
    openStreams (written ++ bytes.map (Prod.mk stream)) =
      (openStreams written).filter (· ≠ stream) ++
        if rest stream (written ++ bytes.map (Prod.mk stream)) = [] then [] else [stream] := by
  induction bytes using List.reverseRecOn with
  | nil =>
    have hrest : rest stream written = [] := h.resolve_right List.not_mem_nil
    rw [List.map_nil, List.append_nil, if_pos hrest, List.append_nil,
      openStreams_filter_of_rest_eq_nil hrest]
  | append_singleton bytes b ih =>
    have hothers := openStreams_filter_append_of_one stream written bytes
    rw [List.map_append, List.map_singleton, ← List.append_assoc, openStreams_concat, rest_concat]
    set before := written ++ bytes.map (Prod.mk stream)
    by_cases hb : b = newline
    · simp only [hb, if_true, hothers, List.append_nil]
    · have hfresh : rest stream written = [] ∨ newline ∈ bytes := by
        refine h.imp_right fun hmem => ?_
        exact (List.mem_append.mp hmem).resolve_right fun hlast =>
          hb (List.mem_singleton.mp hlast).symm
      by_cases hrest : rest stream before = [] <;> simp [hb, hrest, ih hfresh]

/-- Bytes without a newline leave a rest where it was begun. -/
theorem openStreams_append_of_open {stream : Stream} {written : List Emission}
    {bytes : List UInt8} (hrest : rest stream written ≠ []) (hbytes : newline ∉ bytes) :
    openStreams (written ++ bytes.map (Prod.mk stream)) = openStreams written ∧
      rest stream (written ++ bytes.map (Prod.mk stream)) ≠ [] := by
  induction bytes using List.reverseRecOn with
  | nil => simpa using hrest
  | append_singleton bytes b ih =>
    obtain ⟨hopen, hpending⟩ := ih fun h => hbytes (List.mem_append_left _ h)
    have hb : b ≠ newline := by
      rintro rfl
      exact hbytes (List.mem_append_right _ (List.mem_singleton_self _))
    rw [List.map_append, List.map_singleton, ← List.append_assoc, openStreams_concat, rest_concat]
    simp [hb, hopen, hpending]

/-- There are as many lines as newlines. -/
theorem length_endedLines (written : List Emission) :
    (endedLines written).length = written.countP fun e => e.2 = newline := by
  induction written using List.reverseRecOn with
  | nil => rfl
  | append_singleton written e ih =>
    rw [endedLines_concat, List.length_append, List.countP_append, ih, List.countP_singleton]
    by_cases hb : e.2 = newline <;> simp [hb]

end Emission

end Sandbox
