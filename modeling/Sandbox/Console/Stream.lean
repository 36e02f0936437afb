/-!
# Console streams

A guest writes chunks of bytes to two streams. A chunk may end inside a character, so bytes become
text only once a consumer holds complete text.

## Main definitions

* `Stream` : standard output or standard error.
* `Chunk` : the bytes of one write to a stream.
-/

namespace Sandbox

/-- A stream that a guest writes to. -/
inductive Stream where
  /-- Standard output. -/
  | stdout
  /-- Standard error. -/
  | stderr
  deriving DecidableEq, Repr

namespace Stream

/-- The stream behind a file descriptor. -/
def ofDescriptor? (fd : Int) : Option Stream :=
  if fd = 1 then some stdout else if fd = 2 then some stderr else none

/-- The name of a stream. -/
def name : Stream → String
  | stdout => "stdout"
  | stderr => "stderr"

end Stream

/-- The bytes of one write. -/
structure Chunk where
  /-- The stream written to. -/
  stream : Stream
  /-- The bytes written. -/
  bytes : List UInt8
  deriving DecidableEq, Repr

end Sandbox
