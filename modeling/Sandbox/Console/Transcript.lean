import Sandbox.Console.Stream
import Sandbox.Text.Utf8

/-!
# Transcripts

A transcript turns the chunks of both streams into lines. Every stream has its own unfinished line;
a line joins the transcript when its newline arrives, so that lines stand in the order in which they
were finished across both streams. Bytes are decoded only when their line is complete.

## Main definitions

* `Transcript` : the finished lines, and the unfinished line of each stream.
* `Transcript.write` : what one chunk adds.
* `Transcript.finish` : all lines, with what was left unfinished at the end.
-/

namespace Sandbox

/-- The bytes of a stream since its last newline, with the number of the write that brought the
first of them. -/
structure Unfinished where
  /-- The bytes. -/
  bytes : List UInt8
  /-- The number of the write. -/
  since : Nat
  deriving DecidableEq, Repr

/-- Nothing written yet. -/
def Unfinished.none : Unfinished :=
  ⟨[], 0⟩

/-- Lines of both streams. -/
structure Transcript where
  /-- The finished lines. -/
  lines : List String
  /-- The unfinished line of standard output. -/
  stdout : Unfinished
  /-- The unfinished line of standard error. -/
  stderr : Unfinished
  /-- How many writes of at least one byte there were. -/
  writes : Nat
  deriving DecidableEq, Repr

namespace Transcript

/-- A newline. -/
def newline : UInt8 := 10

/-- The carriage return that may stand before a newline. -/
def carriageReturn : UInt8 := 13

/-- The text of a line whose bytes are given from right to left: a carriage return at its end is
dropped. -/
def closeLine (reversed : List UInt8) : String :=
  match reversed with
  | [] => Text.Utf8.decodeLossy []
  | b :: before =>
    if b = carriageReturn then Text.Utf8.decodeLossy before.reverse
    else Text.Utf8.decodeLossy (b :: before).reverse

/-- Cuts bytes at newlines. `reversed` holds the bytes of the current line from right to left. The
answer is the finished lines and the bytes of the last one, from right to left. -/
def cut (reversed : List UInt8) : List UInt8 → List String × List UInt8
  | [] => ([], reversed)
  | b :: bytes =>
    if b = newline then
      let (lines, last) := cut [] bytes
      (closeLine reversed :: lines, last)
    else cut (b :: reversed) bytes

/-- A transcript that begins with the given lines. -/
def ofLines (lines : List String) : Transcript :=
  ⟨lines, .none, .none, 0⟩

/-- The unfinished line of a stream. -/
def unfinished (t : Transcript) : Stream → Unfinished
  | .stdout => t.stdout
  | .stderr => t.stderr

/-- The transcript with another unfinished line of a stream. -/
def withUnfinished (t : Transcript) (stream : Stream) (part : Unfinished) : Transcript :=
  match stream with
  | .stdout => { t with stdout := part }
  | .stderr => { t with stderr := part }

/-- Adds a chunk. An unfinished line counts from the write that brought its first byte: this one, if
nothing was pending or if a line was finished by it. -/
def write (t : Transcript) (chunk : Chunk) : Transcript :=
  if chunk.bytes.isEmpty then t
  else
    let number := t.writes + 1
    let before := t.unfinished chunk.stream
    let (finished, last) := cut before.bytes.reverse chunk.bytes
    let since := if before.bytes.isEmpty || !finished.isEmpty then number else before.since
    { t.withUnfinished chunk.stream ⟨last.reverse, since⟩ with
      lines := t.lines ++ finished
      writes := number }

/-- Adds chunks in order. -/
def writeAll (t : Transcript) (chunks : List Chunk) : Transcript :=
  chunks.foldl write t

/-- The text of an unfinished line, if there is any. -/
def Unfinished.lines (part : Unfinished) : List String :=
  if part.bytes.isEmpty then [] else [Text.Utf8.decodeLossy part.bytes]

/-- All lines: the finished ones and then the unfinished ones, the one that was begun first before
the other. -/
def finish (t : Transcript) : List String :=
  if t.stderr.since < t.stdout.since then
    t.lines ++ Unfinished.lines t.stderr ++ Unfinished.lines t.stdout
  else t.lines ++ Unfinished.lines t.stdout ++ Unfinished.lines t.stderr

end Transcript

end Sandbox
