import Sandbox.Toml.Datetime
import Sandbox.Toml.Tree

/-!
# Reading TOML

## Main definitions

* `Reader.value` : a value.
* `Reader.document` : the tables of a document.
* `parse` : the table that a text describes.
-/

namespace Sandbox.Toml

/-- Readers of a part of a document at the front of the text that is left. -/
abbrev Reader (α : Type) : Type := StateT (List Char) (Except Fault) α

namespace Reader

/-- The greatest depth of arrays and inline tables. -/
def deepest : Nat := 80

/-- A space or a tab. -/
def isBlank (c : Char) : Bool :=
  c == ' ' || c == '\t'

/-- Whether a character may stand in strings and comments: every one but controls. -/
def isVisible (c : Char) : Bool :=
  c == '\t' || (decide (0x20 ≤ c.toNat) && c != '\x7f')

/-- Drops spaces and tabs. -/
def blanks : Reader Unit :=
  modify (·.dropWhile isBlank)

/-- The next character, which is left in place. -/
def peek : Reader (Option Char) :=
  return (← get).head?

/-- Drops characters. -/
def advance (count : Nat) : Reader Unit :=
  modify (·.drop count)

/-- Whether the text that is left begins with `front`. -/
def startsWith (front : String) : Reader Bool :=
  return front.toList.isPrefixOf (← get)

/-- Reads a character that has to be there. -/
def expect (c : Char) : Reader Unit := do
  match ← get with
  | d :: rest => if c == d then set rest else throw .malformed
  | [] => throw .malformed

/-- Reads a comment, if there is one. -/
def comment : Reader Unit := do
  if (← peek) == some '#' then
    let rest ← get
    let body := (rest.drop 1).takeWhile (· != '\n')
    let after := (rest.drop 1).dropWhile (· != '\n')
    let isEnd := after.isEmpty
    let body := if !isEnd && body.getLast? == some '\r' then body.dropLast else body
    if body.all isVisible then
      if isEnd then set ([] : List Char)
      else if (rest.drop 1).take body.length == body then set ((rest.drop 1).drop body.length)
    else throw .malformed

/-- Reads a newline, if there is one. -/
def newline? : Reader Bool := do
  match ← get with
  | '\n' :: rest => set rest; return true
  | '\r' :: '\n' :: rest => set rest; return true
  | _ => return false

/-- Reads blanks, comments and newlines. -/
def gap : (fuel : Nat) → Reader Unit
  | 0 => return ()
  | fuel + 1 => do
    blanks
    comment
    if ← newline? then gap fuel

/-- Reads blanks and comments up to the end of the line. -/
def lineEnd : Reader Unit := do
  blanks
  comment
  match ← get with
  | [] => return ()
  | _ => if ← newline? then return () else throw .malformed

/-! ### Strings -/

/-- The value of a hexadecimal digit. -/
def hexDigit? (c : Char) : Option Nat :=
  if '0' ≤ c ∧ c ≤ '9' then some (c.toNat - 48)
  else if 'a' ≤ c ∧ c ≤ 'f' then some (c.toNat - 87)
  else if 'A' ≤ c ∧ c ≤ 'F' then some (c.toNat - 55)
  else none

/-- Reads exactly `count` hexadecimal digits. -/
def hexNumber : (count : Nat) → (value : Nat) → Reader Nat
  | 0, value => return value
  | count + 1, value => do
    match ← get with
    | c :: rest =>
      match hexDigit? c with
      | some d => set rest; hexNumber count (value * 16 + d)
      | none => throw .malformed
    | [] => throw .malformed

/-- The character with a given code point. -/
def codePoint (n : Nat) : Reader Char :=
  if n < 0xD800 ∨ (0xDFFF < n ∧ n < 0x110000) then return Char.ofNat n else throw .malformed

/-- The character of an escape, after its backslash. -/
def escape : Reader Char := do
  match ← get with
  | [] => throw .malformed
  | c :: rest =>
    set rest
    match c with
    | 'b' => return '\x08'
    | 't' => return '\t'
    | 'n' => return '\n'
    | 'f' => return '\x0c'
    | 'r' => return '\r'
    | 'e' => return '\x1b'
    | '"' => return '"'
    | '\\' => return '\\'
    | 'x' => codePoint (← hexNumber 2 0)
    | 'u' => codePoint (← hexNumber 4 0)
    | 'U' => codePoint (← hexNumber 8 0)
    | _ => throw .malformed

/-- The characters of a string on one line, up to its closing quote. -/
def basicFrom : (fuel : Nat) → (done : List Char) → Reader String
  | 0, _ => throw .malformed
  | fuel + 1, done => do
    match ← get with
    | [] => throw .malformed
    | c :: rest =>
      set rest
      if c == '"' then return String.ofList done.reverse
      else if c == '\\' then basicFrom fuel ((← escape) :: done)
      else if isVisible c then basicFrom fuel (c :: done)
      else throw .malformed

/-- The characters of a literal string on one line, up to its closing quote. -/
def literalFrom : (fuel : Nat) → (done : List Char) → Reader String
  | 0, _ => throw .malformed
  | fuel + 1, done => do
    match ← get with
    | [] => throw .malformed
    | c :: rest =>
      set rest
      if c == '\x27' then return String.ofList done.reverse
      else if isVisible c then literalFrom fuel (c :: done)
      else throw .malformed

/-- The number of quotes at the front. -/
def quoteCount (quote : Char) (cs : List Char) : Nat :=
  (cs.takeWhile (· == quote)).length

/-- Whether a backslash is followed by blanks and a newline. -/
def joinsLines (cs : List Char) : Bool :=
  match cs.dropWhile isBlank with
  | '\n' :: _ => true
  | '\r' :: '\n' :: _ => true
  | _ => false

/-- Drops blanks and newlines. -/
def dropLayout : (fuel : Nat) → List Char → List Char
  | 0, cs => cs
  | fuel + 1, cs =>
    match cs.dropWhile isBlank with
    | '\n' :: rest => dropLayout fuel rest
    | '\r' :: '\n' :: rest => dropLayout fuel rest
    | rest => rest

/-- The characters of a string on several lines, up to its three closing quotes; two more quotes
before them belong to the string. -/
def multiFrom (quote : Char) (escapes : Bool) : (fuel : Nat) → (done : List Char) → Reader String
  | 0, _ => throw .malformed
  | fuel + 1, done => do
    match ← get with
    | [] => throw .malformed
    | c :: rest =>
      if c == quote then
        let n := quoteCount quote (c :: rest)
        if n < 3 then
          advance n
          multiFrom quote escapes fuel (List.replicate n quote ++ done)
        else if n ≤ 5 then
          advance n
          return String.ofList (List.replicate (n - 3) quote ++ done).reverse
        else throw .malformed
      else
        set rest
        if escapes && c == '\\' then
          if joinsLines rest then
            set (dropLayout (rest.length + 1) rest)
            multiFrom quote escapes fuel done
          else multiFrom quote escapes fuel ((← escape) :: done)
        else if c == '\n' then multiFrom quote escapes fuel ('\n' :: done)
        else if c == '\r' then
          if rest.head? == some '\n' then multiFrom quote escapes fuel done else throw .malformed
        else if isVisible c then multiFrom quote escapes fuel (c :: done)
        else throw .malformed

/-- A string of any form, whose opening quote stands at the front. -/
def string : Reader String := do
  let fuel := (← get).length + 1
  if ← startsWith "\"\"\"" then
    advance 3
    let _ ← newline?
    multiFrom '"' true fuel []
  else if ← startsWith "\x27\x27\x27" then
    advance 3
    let _ ← newline?
    multiFrom '\x27' false fuel []
  else if (← peek) == some '"' then advance 1; basicFrom fuel []
  else advance 1; literalFrom fuel []

/-! ### Keys -/

/-- Characters of keys without quotes. -/
def isKeyChar (c : Char) : Bool :=
  c.isAlphanum || c == '_' || c == '-'

/-- One part of a key. -/
def simpleKey : Reader String := do
  match ← peek with
  | some '"' => advance 1; basicFrom ((← get).length + 1) []
  | some '\x27' => advance 1; literalFrom ((← get).length + 1) []
  | _ =>
    let rest ← get
    let word := rest.takeWhile isKeyChar
    if word.isEmpty then throw .malformed
    set (rest.drop word.length)
    return String.ofList word

/-- A key: parts with points between them. -/
def keyFrom : (fuel : Nat) → Reader (List String)
  | 0 => throw .malformed
  | fuel + 1 => do
    blanks
    let first ← simpleKey
    blanks
    if (← peek) == some '.' then
      advance 1
      return first :: (← keyFrom fuel)
    else return [first]

/-- A key: parts with points between them. -/
def key : Reader (List String) := do
  keyFrom ((← get).length + 1)

/-! ### Numbers and words -/

/-- Whether characters are digits of a kind, with single underscores between them. -/
def isDigits (isDigit : Char → Bool) : List Char → Bool
  | [] => false
  | [c] => isDigit c
  | c :: '_' :: rest => isDigit c && isDigits isDigit rest
  | c :: rest => isDigit c && isDigits isDigit rest

/-- The number that digits of a base spell, underscores left out. -/
def spelled (base : Nat) (cs : List Char) : Nat :=
  cs.foldl (fun n c => if c == '_' then n else n * base + (hexDigit? c).getD 0) 0

/-- Whether characters are a decimal integer without sign. -/
def isDecimal (cs : List Char) : Bool :=
  isDigits Char.isDigit cs && (cs.length == 1 || cs.head? != some '0')

/-- The integer that characters are. -/
def integer? (cs : List Char) : Option Int :=
  match cs with
  | '0' :: 'x' :: digits =>
    if isDigits (fun c => (hexDigit? c).isSome) digits then some (spelled 16 digits) else none
  | '0' :: 'o' :: digits =>
    if isDigits (fun c => decide ('0' ≤ c) && decide (c ≤ '7')) digits then some (spelled 8 digits)
    else none
  | '0' :: 'b' :: digits =>
    if isDigits (fun c => c == '0' || c == '1') digits then some (spelled 2 digits) else none
  | '+' :: digits => if isDecimal digits then some (spelled 10 digits) else none
  | '-' :: digits => if isDecimal digits then some (-(spelled 10 digits : Int)) else none
  | digits => if isDecimal digits then some (spelled 10 digits) else none

/-- The characters without a sign at their front. -/
def unsigned : List Char → List Char
  | '+' :: cs => cs
  | '-' :: cs => cs
  | cs => cs

/-- Whether characters are a number with a fraction or an exponent, or one of the words for
infinity and no number. -/
def isFloat (cs : List Char) : Bool :=
  let cs := unsigned cs
  if cs == "inf".toList || cs == "nan".toList then true
  else
    let isMark := fun c : Char => c == 'e' || c == 'E'
    let mantissa := cs.takeWhile fun c => !isMark c
    let exponent := cs.drop mantissa.length
    let whole := mantissa.takeWhile (· != '.')
    let fraction := mantissa.drop whole.length
    let hasFraction := !fraction.isEmpty
    let hasExponent := !exponent.isEmpty
    isDecimal whole && (hasFraction || hasExponent) &&
      (!hasFraction || isDigits Char.isDigit (fraction.drop 1)) &&
      (!hasExponent || isDigits Char.isDigit (unsigned (exponent.drop 1)))

/-- Characters of numbers, dates and words. -/
def isScalarChar (c : Char) : Bool :=
  c.isAlphanum || c == '_' || c == '-' || c == '+' || c == '.' || c == ':'

/-- A truth value, a number, a date or a time. -/
def scalar : Reader Value := do
  let rest ← get
  let word := rest.takeWhile isScalarChar
  let after := rest.drop word.length
  -- a date may be followed by a blank and a time
  let time := match after with
    | ' ' :: more => if (afterDate? word) == some [] then more.takeWhile isScalarChar else []
    | _ => []
  let dated := word ++ ' ' :: time
  if !time.isEmpty && isDatetime dated then
    set (rest.drop dated.length)
    return .datetime (String.ofList dated)
  set after
  if word == "true".toList then return .bool true
  if word == "false".toList then return .bool false
  match integer? word with
  | some n =>
    if -0x80000000000000000000000000000000 ≤ n ∧ n < 0x100000000000000000000000000000000 then
      return .integer n
    else throw .malformed
  | none =>
    if isFloat word then return .float (String.ofList word)
    else if isDatetime word then return .datetime (String.ofList word)
    else throw .malformed

/-! ### Values -/

mutual

/-- A value. `room` is how many arrays and inline tables may still be entered. -/
def valueFrom : (fuel room : Nat) → Reader Value
  | 0, _ => throw .malformed
  | fuel + 1, room => do
    match ← peek with
    | some '"' | some '\x27' => return .text (← string)
    | some '[' =>
      if room = 0 then throw .tooDeep
      advance 1
      return .array (← itemsFrom fuel (room - 1) [])
    | some '{' =>
      if room = 0 then throw .tooDeep
      advance 1
      return .table (finishMembers (← membersFrom fuel (room - 1) []))
    | _ => scalar

/-- The items of an array up to its end, after those in `done`, which is in reverse. A comma may
stand after the last item. -/
def itemsFrom : (fuel room : Nat) → (done : List Value) → Reader (List Value)
  | 0, _, _ => throw .malformed
  | fuel + 1, room, done => do
    gap (fuel + 1)
    if (← peek) == some ']' then
      advance 1
      return done.reverse
    let item ← valueFrom fuel room
    gap (fuel + 1)
    match ← peek with
    | some ',' => advance 1; itemsFrom fuel room (item :: done)
    | some ']' => advance 1; return (item :: done).reverse
    | _ => throw .malformed

/-- The members of an inline table up to its end, added to `done`. -/
def membersFrom : (fuel room : Nat) → (done : Members) → Reader Members
  | 0, _, _ => throw .malformed
  | fuel + 1, room, done => do
    gap (fuel + 1)
    if (← peek) == some '}' then
      advance 1
      return done
    let path ← key
    expect '='
    blanks
    let v ← valueFrom fuel room
    let done ← assign (.value v) path done
    gap (fuel + 1)
    match ← peek with
    | some ',' => advance 1; membersFrom fuel room done
    | some '}' => advance 1; return done
    | _ => throw .malformed

end

/-- A value. -/
def value : Reader Value := do
  valueFrom (2 * (← get).length + 2) deepest

/-! ### Documents -/

/-- Reads the lines of a document. `current` is the path of the table that keys are given to. -/
def linesFrom : (fuel : Nat) → (current : List String) → (root : Members) → Reader Members
  | 0, _, root => return root
  | fuel + 1, current, root => do
    blanks
    match ← peek with
    | none => return root
    | some '[' =>
      if ← startsWith "[[" then
        advance 2
        let path ← key
        expect ']'
        expect ']'
        lineEnd
        let root ← openElement path.dropLast (path.getLastD "") root
        linesFrom fuel path root
      else
        advance 1
        let path ← key
        expect ']'
        lineEnd
        let root ← openTable path.dropLast (path.getLastD "") root
        linesFrom fuel path root
    | some c =>
      if c == '#' || c == '\n' || c == '\r' then
        lineEnd
        linesFrom fuel current root
      else
        let path ← key
        expect '='
        blanks
        let v ← value
        lineEnd
        let root ← descend (assign (.value v) path) current root
        linesFrom fuel current root

/-- The members of a document. -/
def document : Reader Members := do
  match ← get with
  | '\uFEFF' :: rest => set rest
  | _ => pure ()
  linesFrom ((← get).length + 1) [] []

end Reader

/-- The table that a text describes. -/
def parse (text : String) : Except Fault Table := do
  let (members, _) ← Reader.document.run text.toList
  return finishMembers members

end Sandbox.Toml
