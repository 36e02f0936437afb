/-!
# Decoding UTF-8

A byte sequence is read one byte at a time. Every well-formed character is one symbol, and every
maximal part of a character that cannot be completed, or byte that cannot begin one, is one
ill-formed symbol.

## Main definitions

* `Symbol` : a character, or an ill-formed part.
* `Reader` : the symbols read so far, and the character that is still incomplete.
* `symbols` : the symbols of a byte sequence.
* `decodeLossy` : the text with U+FFFD for each ill-formed part.
* `decode?` : the text, if no part is ill-formed.
-/

namespace Sandbox.Text.Utf8

/-- A decoded symbol: a character, or none for an ill-formed part. -/
abbrev Symbol : Type := Option Char

/-- A character whose first bytes have been read. -/
structure Incomplete where
  /-- How many bytes are still owed. -/
  owed : Nat
  /-- The least byte that may come next. -/
  low : UInt8
  /-- The greatest byte that may come next. -/
  high : UInt8
  /-- The bits read so far. -/
  value : Nat
  deriving DecidableEq, Repr

/-- What a byte between characters is. -/
inductive Lead where
  /-- A character on its own. -/
  | single (c : Char)
  /-- The first byte of a longer character. -/
  | opens (character : Incomplete)
  /-- No character begins so. -/
  | invalid
  deriving DecidableEq, Repr

/-- The role of a byte between characters. The ranges for the second byte leave out overlong forms,
surrogates and everything above U+10FFFF. -/
def lead (b : UInt8) : Lead :=
  if b < 0x80 then .single (Char.ofNat b.toNat)
  else if b < 0xC2 then .invalid
  else if b < 0xE0 then .opens ⟨1, 0x80, 0xBF, b.toNat - 0xC0⟩
  else if b < 0xF0 then
    .opens ⟨2, if b = 0xE0 then 0xA0 else 0x80, if b = 0xED then 0x9F else 0xBF, b.toNat - 0xE0⟩
  else if b < 0xF5 then
    .opens ⟨3, if b = 0xF0 then 0x90 else 0x80, if b = 0xF4 then 0x8F else 0xBF, b.toNat - 0xF0⟩
  else .invalid

/-- The state of reading. -/
structure Reader where
  /-- The symbols read so far, the last one first. -/
  done : List Symbol
  /-- The character that is still incomplete. -/
  inside : Option Incomplete
  deriving DecidableEq, Repr

/-- Before the first byte. -/
def Reader.start : Reader :=
  ⟨[], none⟩

/-- Reads a byte between characters. -/
def Reader.begin (done : List Symbol) (b : UInt8) : Reader :=
  match lead b with
  | .single c => ⟨some c :: done, none⟩
  | .opens character => ⟨done, some character⟩
  | .invalid => ⟨none :: done, none⟩

/-- Reads one byte. A byte that cannot continue the incomplete character ends it as ill-formed and
is read again between characters. -/
def Reader.feed (r : Reader) (b : UInt8) : Reader :=
  match r.inside with
  | none => Reader.begin r.done b
  | some character =>
    if character.low ≤ b ∧ b ≤ character.high then
      let value := character.value * 64 + (b.toNat - 0x80)
      if character.owed ≤ 1 then ⟨some (Char.ofNat value) :: r.done, none⟩
      else ⟨r.done, some ⟨character.owed - 1, 0x80, 0xBF, value⟩⟩
    else Reader.begin (none :: r.done) b

/-- The symbols in order, once no byte follows: an incomplete character is ill-formed. -/
def Reader.finish (r : Reader) : List Symbol :=
  match r.inside with
  | none => r.done.reverse
  | some _ => (none :: r.done).reverse

/-- The symbols of a byte sequence. -/
def symbols (bytes : List UInt8) : List Symbol :=
  (bytes.foldl Reader.feed Reader.start).finish

/-- The text of a byte sequence, with U+FFFD for each ill-formed part. -/
def decodeLossy (bytes : List UInt8) : String :=
  String.ofList ((symbols bytes).map fun symbol => symbol.getD '\uFFFD')

/-- The text of a well-formed byte sequence. -/
def decode? (bytes : List UInt8) : Option String :=
  let read := symbols bytes
  if read.all Option.isSome then some (String.ofList (read.filterMap id)) else none

/-- The bytes of a text. -/
def encode (text : String) : List UInt8 :=
  text.toUTF8.toList

end Sandbox.Text.Utf8
