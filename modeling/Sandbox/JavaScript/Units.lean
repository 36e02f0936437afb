import Sandbox.Text.Search

/-!
# Texts of 16 bit units

Texts in scripts are sequences of 16 bit units, in which a character above U+FFFF takes two. A unit
that is one of two may stand alone, and then the sequence stands for no text.

## Main definitions

* `Units` : sequences of units.
* `Units.ofText`, `Units.toText?` : between units and texts.
-/

namespace Sandbox.JavaScript

/-- A sequence of 16 bit units. -/
abbrev Units : Type := List UInt16

namespace Units

/-- The units of a character. -/
def ofChar (c : Char) : Units :=
  let n := c.toNat
  if n < 0x10000 then [UInt16.ofNat n]
  else
    [UInt16.ofNat (0xD800 + (n - 0x10000) / 0x400), UInt16.ofNat (0xDC00 + (n - 0x10000) % 0x400)]

/-- The units of a text. -/
def ofText (text : String) : Units :=
  text.toList.flatMap ofChar

/-- Whether a unit is the first of two. -/
def isLeading (u : UInt16) : Bool :=
  decide (0xD800 ≤ u) && decide (u < 0xDC00)

/-- Whether a unit is the second of two. -/
def isTrailing (u : UInt16) : Bool :=
  decide (0xDC00 ≤ u) && decide (u < 0xE000)

/-- The character of two units. -/
def pairChar (u v : UInt16) : Char :=
  Char.ofNat (0x10000 + (u.toNat - 0xD800) * 0x400 + (v.toNat - 0xDC00))

/-- The characters of units, unless a unit of two stands alone. -/
def toChars? : Units → Option (List Char)
  | [] => some []
  | u :: v :: rest =>
    if isLeading u then
      if isTrailing v then (toChars? rest).map (pairChar u v :: ·) else none
    else if isTrailing u then none
    else (toChars? (v :: rest)).map (Char.ofNat u.toNat :: ·)
  | [u] => if isLeading u || isTrailing u then none else some [Char.ofNat u.toNat]

/-- The text of units, unless a unit of two stands alone. -/
def toText? (units : Units) : Option String :=
  (toChars? units).map String.ofList

/-- A hexadecimal digit below sixteen. -/
def hexUnit (n : Nat) : UInt16 :=
  UInt16.ofNat (Nat.digitChar n).toNat

/-- A unit as an escape of four digits. -/
def escaped (u : UInt16) : Units :=
  let n := u.toNat
  ofText "\\u" ++ [hexUnit (n / 4096 % 16), hexUnit (n / 256 % 16), hexUnit (n / 16 % 16),
    hexUnit (n % 16)]

/-- One unit of a quoted text, other than units of two. -/
def quoteUnit (u : UInt16) : Units :=
  if u = 0x22 then ofText "\\\""
  else if u = 0x5C then ofText "\\\\"
  else if u = 0x08 then ofText "\\b"
  else if u = 0x0C then ofText "\\f"
  else if u = 0x0A then ofText "\\n"
  else if u = 0x0D then ofText "\\r"
  else if u = 0x09 then ofText "\\t"
  else if u < 0x20 then escaped u
  else [u]

/-- The inside of a quoted text. Units of two that stand alone are escaped. -/
def quoteInside : Units → Units
  | [] => []
  | u :: v :: rest =>
    if isLeading u then
      if isTrailing v then u :: v :: quoteInside rest else escaped u ++ quoteInside (v :: rest)
    else if isTrailing u then escaped u ++ quoteInside (v :: rest)
    else quoteUnit u ++ quoteInside (v :: rest)
  | [u] => if isLeading u || isTrailing u then escaped u else quoteUnit u

/-- A text in double quotes. -/
def quoted (units : Units) : Units :=
  0x22 :: quoteInside units ++ [0x22]

end Units

end Sandbox.JavaScript
