import Sandbox.Decimal.Shortest
import Sandbox.Text.Quoted

/-!
# Reading JSON

A document is read from left to right for values of known types; the first fault met decides the
answer. Values that nobody asked for are passed over, but have to be well-formed.

## Main definitions

* `ReadError` : the faults, and `Mismatch.message` their wording.
* `Reader` : readers of a value at the front of the text.
* `Reader.bool`, `Reader.string`, `Reader.stringList`, `Reader.optional` : values of a known type.
* `Reader.skipValue` : a value that is passed over.
* `Reader.run` : a whole document.
-/

namespace Sandbox.Json

/-- What stands where another type of value was expected. -/
inductive Found where
  /-- The null value. -/
  | null
  /-- A truth value. -/
  | bool (b : Bool)
  /-- A number without fraction that fits 64 bits. -/
  | integer (n : Int)
  /-- Any other number, by its text. -/
  | floating (shown : String)
  /-- A string. -/
  | text (s : String)
  /-- An array. -/
  | sequence
  /-- An object. -/
  | map
  deriving DecidableEq, Repr

/-- How the thing found is named. -/
def Found.describe : Found → String
  | null => "null"
  | bool b => "boolean `" ++ (if b then "true" else "false") ++ "`"
  | integer n => "integer `" ++ toString n ++ "`"
  | floating shown => "floating point `" ++ shown ++ "`"
  | text s => "string " ++ Text.quoted s
  | sequence => "sequence"
  | map => "map"

/-- Well-formed text that does not describe the value asked for. -/
inductive Mismatch where
  /-- A value of another type. -/
  | wrongType (found : Found) (expected : String)
  /-- A member that has to be there. -/
  | missingField (name : String)
  /-- A member that is there twice. -/
  | duplicateField (name : String)
  /-- A word that is none of the choices. -/
  | unknownVariant (name : String) (choices : List String)
  /-- Too few items. -/
  | tooShort (count : Nat) (expected : String)
  deriving DecidableEq, Repr

/-- The wording of a mismatch. -/
def Mismatch.message : Mismatch → String
  | wrongType found expected => "invalid type: " ++ found.describe ++ ", expected " ++ expected
  | missingField name => "missing field `" ++ name ++ "`"
  | duplicateField name => "duplicate field `" ++ name ++ "`"
  | unknownVariant name choices =>
    "unknown variant `" ++ name ++ "`, expected one of " ++
      ", ".intercalate (choices.map fun choice => "`" ++ choice ++ "`")
  | tooShort count expected => "invalid length " ++ toString count ++ ", expected " ++ expected

/-- Why a text is not read. -/
inductive ReadError where
  /-- The text ends inside a value. -/
  | cutShort
  /-- The text is not JSON. -/
  | malformed
  /-- The text is JSON, but not what was asked for. -/
  | mismatch (cause : Mismatch)
  deriving DecidableEq, Repr

/-- Readers of a value at the front of the text that is left. -/
abbrev Reader (α : Type) : Type := StateT (List Char) (Except ReadError) α

namespace Reader

/-- Whether `c` may stand between tokens. -/
def isSpace (c : Char) : Bool :=
  c == ' ' || c == '\n' || c == '\t' || c == '\r'

/-- The next character, which is left in place; spaces before it are dropped. -/
def peek : Reader (Option Char) := do
  modify (·.dropWhile isSpace)
  return (← get).head?

/-- Drops one character. -/
def advance : Reader Unit :=
  modify (·.drop 1)

/-- The next character, spaces before it dropped; there has to be one. -/
def need : Reader Char := do
  match ← peek with
  | some c => return c
  | none => throw .cutShort

/-- Reads the rest of a word. -/
def word : List Char → Reader Unit
  | [] => return ()
  | w :: ws => do
    match ← get with
    | [] => throw .cutShort
    | c :: rest => if c == w then set rest; word ws else throw .malformed

/-! ### Strings -/

/-- The value of a hexadecimal digit. -/
def hexValue? (c : Char) : Option Nat :=
  if '0' ≤ c ∧ c ≤ '9' then some (c.toNat - 48)
  else if 'a' ≤ c ∧ c ≤ 'f' then some (c.toNat - 87)
  else if 'A' ≤ c ∧ c ≤ 'F' then some (c.toNat - 55)
  else none

/-- The value of four hexadecimal digits. -/
def hexQuad? : List Char → Option Nat
  | [a, b, c, d] => do
    let a ← hexValue? a
    let b ← hexValue? b
    let c ← hexValue? c
    let d ← hexValue? d
    return ((a * 16 + b) * 16 + c) * 16 + d
  | _ => none

/-- The four digits of an escape; a text with less than four bytes left is cut short. -/
def codeUnit : Reader Nat := do
  let rest ← get
  let bytes := (rest.take 4).foldl (fun n c => n + c.utf8Size) 0
  if bytes < 4 then throw .cutShort
  match hexQuad? (rest.take 4) with
  | some n => set (rest.drop 4); return n
  | none => throw .malformed

/-- Reads exactly `c`, as the next part of a surrogate pair. -/
def exactly (c : Char) : Reader Unit := do
  match ← get with
  | [] => throw .cutShort
  | d :: rest => if d == c then set rest else throw .malformed

/-- The character of a `\u` escape: a code unit, or a pair of surrogates. -/
def unicodeEscape : Reader Char := do
  let unit ← codeUnit
  if 0xDC00 ≤ unit ∧ unit ≤ 0xDFFF then throw .malformed
  if 0xD800 ≤ unit ∧ unit ≤ 0xDBFF then
    exactly '\\'
    exactly 'u'
    let low ← codeUnit
    if 0xDC00 ≤ low ∧ low ≤ 0xDFFF then
      return Char.ofNat (0x10000 + (unit - 0xD800) * 0x400 + (low - 0xDC00))
    else throw .malformed
  else return Char.ofNat unit

/-- The character of an escape, after its backslash. -/
def escaped (asUnicode : Reader Char) : Reader Char := do
  match ← get with
  | [] => throw .cutShort
  | c :: rest =>
    set rest
    match c with
    | '"' => return '"'
    | '\\' => return '\\'
    | '/' => return '/'
    | 'b' => return '\x08'
    | 'f' => return '\x0c'
    | 'n' => return '\n'
    | 'r' => return '\r'
    | 't' => return '\t'
    | 'u' => asUnicode
    | _ => throw .malformed

/-- The characters of a string up to its closing quote, the last one first. `fuel` bounds the
number of characters. -/
def stringFrom (asUnicode : Reader Char) : (fuel : Nat) → (done : List Char) → Reader (List Char)
  | 0, _ => throw .cutShort
  | fuel + 1, done => do
    match ← get with
    | [] => throw .cutShort
    | c :: rest =>
      set rest
      if c == '"' then return done
      else if c == '\\' then
        let c ← escaped asUnicode
        stringFrom asUnicode fuel (c :: done)
      else if c.toNat < 0x20 then throw .malformed
      else stringFrom asUnicode fuel (c :: done)

/-- The text of a string, after its opening quote. -/
def stringBody : Reader String := do
  let done ← stringFrom unicodeEscape ((← get).length + 1) []
  return String.ofList done.reverse

/-- Passes over a string, after its opening quote. Surrogates need no partner. -/
def skipString : Reader Unit := do
  let _ ← stringFrom (do let _ ← codeUnit; return ' ') ((← get).length + 1) []

/-! ### Numbers -/

/-- Takes the digits at the front. -/
def digits : Reader (List Char) := do
  let rest ← get
  set (rest.dropWhile Char.isDigit)
  return rest.takeWhile Char.isDigit

/-- Takes at least one digit; `onEnd` is the fault at the end of the text. -/
def someDigits (onEnd : ReadError) : Reader (List Char) := do
  match ← get with
  | [] => throw onEnd
  | c :: _ => if c.isDigit then digits else throw .malformed

/-- A number as it is written. -/
structure Numeral where
  /-- Whether it begins with a minus sign. -/
  negative : Bool
  /-- The digits before the point. -/
  whole : List Char
  /-- The digits after the point, if there is one. -/
  fraction : List Char
  /-- The exponent, if there is one. -/
  exponent : Int
  /-- Whether it has neither point nor exponent. -/
  isWhole : Bool
  deriving DecidableEq, Repr

/-- The number that digits spell. -/
def spelled (cs : List Char) : Nat :=
  cs.foldl (fun n c => n * 10 + (c.toNat - 48)) 0

/-- A numeral, after its minus sign if it has one. -/
def numeral (onEnd : ReadError) (negative : Bool) : Reader Numeral := do
  let whole ← someDigits onEnd
  if whole.head? == some '0' && whole.length != 1 then throw .malformed
  let fraction ← match ← get with
    | '.' :: rest => do set rest; some <$> someDigits onEnd
    | _ => pure none
  let exponent ← match ← get with
    | c :: rest =>
      if c == 'e' || c == 'E' then do
        let sign ← match rest with
          | '-' :: rest => do set rest; pure (-1)
          | '+' :: rest => do set rest; pure 1
          | _ => do set rest; pure 1
        some <$> (fun ds => sign * (spelled ds : Int)) <$> someDigits onEnd
      else pure none
    | [] => pure none
  return ⟨negative, whole, fraction.getD [], exponent.getD 0, fraction.isNone && exponent.isNone⟩

/-- Numbers other than integers are written positionally from five zeros behind the point up to
sixteen digits before it, and always with a point or an exponent. -/
def floatStyle : Decimal.NumberStyle :=
  ⟨-4, 16, true, false⟩

/-- The text of a number that is no integer of 64 bits, unless it is out of range. -/
def Numeral.floatText? (n : Numeral) : Option String :=
  let mantissa := spelled (n.whole ++ n.fraction)
  let exponent := n.exponent - n.fraction.length
  let sign := if n.negative then "-" else ""
  if mantissa = 0 then some (sign ++ "0.0")
  else if exponent < -400 - (n.whole ++ n.fraction).length then some (sign ++ "0.0")
  else if 400 < exponent then none
  else
    let value := Float.ofScientific mantissa (decide (exponent < 0)) exponent.natAbs
    if value.isInf then none
    else if value == 0 then some (sign ++ "0.0")
    else some (sign ++ floatStyle.render
      (Decimal.shortest (Decimal.Binary.ofBits value.toBits.toNat)))

/-- What a numeral is, for messages. -/
def Numeral.found? (n : Numeral) : Option Found :=
  let magnitude := spelled n.whole
  if n.isWhole && !n.negative && decide (magnitude < 0x10000000000000000) then
    some (.integer magnitude)
  else if n.isWhole && n.negative && decide (0 < magnitude) &&
      decide (magnitude ≤ 0x8000000000000000) then
    some (.integer (-(magnitude : Int)))
  else n.floatText?.map .floating

/-! ### Values of another type -/

/-- The fault for the value at the front, where `expected` should be. -/
def unexpected {α : Type} (expected : String) : Reader α := do
  let found ← match ← need with
    | 'n' => do advance; word "ull".toList; pure Found.null
    | 't' => do advance; word "rue".toList; pure (Found.bool true)
    | 'f' => do advance; word "alse".toList; pure (Found.bool false)
    | '-' => do
      advance
      match (← numeral .cutShort true).found? with
      | some found => pure found
      | none => throw .malformed
    | '"' => do advance; Found.text <$> stringBody
    | '[' => pure Found.sequence
    | '{' => pure Found.map
    | c =>
      if c.isDigit then do
        match (← numeral .cutShort false).found? with
        | some found => pure found
        | none => throw .malformed
      else throw .malformed
  throw (.mismatch (.wrongType found expected))

/-! ### Arrays and objects -/

/-- Whether an array has another item. `isFirst` tells whether none was read yet. -/
def hasItem (isFirst : Bool) : Reader Bool := do
  match ← need with
  | ']' => return false
  | c =>
    if isFirst then return true
    else if c == ',' then
      advance
      match ← need with
      | ']' => throw .malformed
      | _ => return true
    else throw .malformed

/-- Whether an object has another member; its key has to be a string. -/
def hasMember (isFirst : Bool) : Reader Bool := do
  match ← need with
  | '}' => return false
  | c =>
    if isFirst then
      if c == '"' then return true else throw .malformed
    else if c == ',' then
      advance
      match ← need with
      | '"' => return true
      | _ => throw .malformed
    else throw .malformed

/-- Reads the colon after a key. -/
def colon : Reader Unit := do
  match ← need with
  | ':' => advance
  | _ => throw .malformed

/-- Reads the end of an array or object, `close`. -/
def ending (close : Char) : Reader Unit := do
  let c ← need
  if c == close then advance else throw .malformed

mutual

/-- Passes over a value. `fuel` bounds the number of values and ends in it. -/
def skipFrom : (fuel : Nat) → Reader Unit
  | 0 => throw .cutShort
  | fuel + 1 => do
    match ← need with
    | 'n' => advance; word "ull".toList
    | 't' => advance; word "rue".toList
    | 'f' => advance; word "alse".toList
    | '"' => advance; skipString
    | '-' => advance; let _ ← numeral .malformed false
    | '[' => advance; skipItems fuel true
    | '{' => advance; skipMembers fuel true
    | c => if c.isDigit then let _ ← numeral .malformed false else throw .malformed

/-- Passes over the items of an array and its end. -/
def skipItems : (fuel : Nat) → (isFirst : Bool) → Reader Unit
  | 0, _ => throw .cutShort
  | fuel + 1, isFirst => do
    if ← hasItem isFirst then
      skipFrom fuel
      skipItems fuel false
    else ending ']'

/-- Passes over the members of an object and its end. -/
def skipMembers : (fuel : Nat) → (isFirst : Bool) → Reader Unit
  | 0, _ => throw .cutShort
  | fuel + 1, isFirst => do
    if ← hasMember isFirst then
      advance
      skipString
      colon
      skipFrom fuel
      skipMembers fuel false
    else ending '}'

end

/-- Passes over a value, however deep arrays and objects are nested in it. -/
def skipValue : Reader Unit := do
  skipFrom (2 * (← get).length + 2)

/-! ### Values of a known type -/

/-- A truth value. -/
def bool : Reader Bool := do
  match ← need with
  | 't' => advance; word "rue".toList; return true
  | 'f' => advance; word "alse".toList; return false
  | _ => unexpected "a boolean"

/-- A string. -/
def string : Reader String := do
  match ← need with
  | '"' => advance; stringBody
  | _ => unexpected "a string"

/-- The strings of an array up to its end, after those in `done`, which is in reverse. -/
def stringsFrom : (fuel : Nat) → (isFirst : Bool) → (done : List String) → Reader (List String)
  | 0, _, _ => throw .cutShort
  | fuel + 1, isFirst, done => do
    if ← hasItem isFirst then
      let s ← string
      stringsFrom fuel false (s :: done)
    else
      ending ']'
      return done.reverse

/-- An array of strings. -/
def stringList : Reader (List String) := do
  match ← need with
  | '[' => advance; stringsFrom ((← get).length + 1) true []
  | _ => unexpected "a sequence"

/-- The null value, or a value of the type of `value`. -/
def optional {α : Type} (value : Reader α) : Reader (Option α) := do
  match ← peek with
  | some 'n' => advance; word "ull".toList; return none
  | _ => some <$> value

/-- The null value. -/
def unit : Reader Unit := do
  match ← need with
  | 'n' => advance; word "ull".toList
  | _ => unexpected "unit"

/-- The value of a whole document: nothing but spaces may follow it. -/
def run {α : Type} (reader : Reader α) (document : String) : Except ReadError α := do
  let (value, rest) ← StateT.run reader document.toList
  if rest.all isSpace then return value else throw .malformed

end Reader

end Sandbox.Json
