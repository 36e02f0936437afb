import Sandbox.Toml.Value

/-!
# Writing TOML

A string is written in the plainest of the four forms that shows it without escapes, and with
escapes if none does.

## Main definitions

* `StringForm` : the forms of strings.
* `StringForm.choose` : the form for a text.
* `quote` : a text as a string.
* `render?` : a document whose tables have no tables inside.
-/

namespace Sandbox.Toml

/-- The forms of strings. -/
inductive StringForm where
  /-- One line, with escapes. -/
  | basic
  /-- One line, without escapes. -/
  | literal
  /-- Several lines, with escapes. -/
  | multiBasic
  /-- Several lines, without escapes. -/
  | multiLiteral
  deriving DecidableEq, Repr

/-- The length of the longest run of `c`. -/
def longestRun (c : Char) (cs : List Char) : Nat :=
  (cs.foldl (fun (best, now) d =>
    let now := if d == c then now + 1 else 0
    (max best now, now)) (0, 0)).1

/-- Whether a character can only be written by an escape. -/
def needsEscape (c : Char) : Bool :=
  (decide (c.toNat < 0x20) && c != '\t' && c != '\n') || c == '\x7f'

/-- The form for a text. -/
def StringForm.choose (cs : List Char) : StringForm :=
  let escapes := cs.any needsEscape
  let backslash := cs.contains '\\'
  let lineBreak := cs.contains '\n'
  let double := longestRun '"' cs
  let single := longestRun '\x27' cs
  if !escapes && !backslash && double == 0 && !lineBreak then basic
  else if !escapes && single == 0 && !lineBreak then literal
  else if !escapes && !backslash && decide (double ≤ 2) then multiBasic
  else if !escapes && decide (single ≤ 2) then multiLiteral
  else if lineBreak then multiBasic
  else basic

/-- Four hexadecimal digits, in uppercase. -/
def hexQuad (n : Nat) : List Char :=
  let digits := (Nat.toDigits 16 n).map Char.toUpper
  List.replicate (4 - digits.length) '0' ++ digits

/-- One character in a form with escapes, after a run of `quotes` quotes that are not escaped.
Newlines and two quotes in a row stand for themselves on several lines. -/
def escapeChar (multi : Bool) (quotes : Nat) (c : Char) : List Char :=
  match c with
  | '\x08' => ['\\', 'b']
  | '\t' => ['\\', 't']
  | '\n' => if multi then ['\n'] else ['\\', 'n']
  | '\x0c' => ['\\', 'f']
  | '\r' => ['\\', 'r']
  | '"' => if multi && decide (quotes < 2) then ['"'] else ['\\', '"']
  | '\\' => ['\\', '\\']
  | c => if needsEscape c then '\\' :: 'u' :: hexQuad c.toNat else [c]

/-- The characters in a form with escapes. -/
def escapeFrom (multi : Bool) (quotes : Nat) : List Char → List Char
  | [] => []
  | c :: cs =>
    let written := escapeChar multi quotes c
    written ++ escapeFrom multi (if written == ['"'] then quotes + 1 else 0) cs

/-- A text in a form. On several lines the text begins on a line of its own if it has newlines. -/
def StringForm.write (form : StringForm) (cs : List Char) : List Char :=
  let lead := if cs.contains '\n' then ['\n'] else []
  match form with
  | basic => '"' :: escapeFrom false 0 cs ++ ['"']
  | literal => '\x27' :: cs ++ ['\x27']
  | multiBasic => "\"\"\"".toList ++ lead ++ escapeFrom true 0 cs ++ "\"\"\"".toList
  | multiLiteral => "\x27\x27\x27".toList ++ lead ++ cs ++ "\x27\x27\x27".toList

/-- A text as a string. -/
def quote (text : String) : String :=
  String.ofList ((StringForm.choose text.toList).write text.toList)

/-- Whether documents can hold an integer. -/
def fitsInteger (n : Int) : Bool :=
  decide (-0x8000000000000000 ≤ n) && decide (n < 0x10000000000000000)

mutual

/-- A value on one line. Tables do not occur here. -/
def inline? : Value → Option String
  | .text s => some (quote s)
  | .integer n => if fitsInteger n then some (toString n) else none
  | .float written => some written
  | .bool b => some (if b then "true" else "false")
  | .datetime written => some written
  | .array items => do
    let written ← inlineItems? items
    return "[" ++ ", ".intercalate written ++ "]"
  | .table _ => none

/-- Values on one line, in order. -/
def inlineItems? : List Value → Option (List String)
  | [] => some []
  | item :: items => do
    let first ← inline? item
    let rest ← inlineItems? items
    return first :: rest

end

/-- The lines of keys with their values. -/
def renderMembers? : Table → Option (List String)
  | [] => some []
  | (key, value) :: members => do
    let first ← inline? value
    let rest ← renderMembers? members
    return (key ++ " = " ++ first ++ "\n") :: rest

/-- A table with its header. -/
def renderSection? (key : String) : Value → Option String
  | .table members => do
    let written ← renderMembers? members
    return "[" ++ key ++ "]\n" ++ String.join written
  | _ => none

/-- A document of tables, with an empty line between them. Keys are written without quotes. -/
def render? (document : Table) : Option String := do
  let written ← document.mapM fun (key, value) => renderSection? key value
  return "\n".intercalate written

end Sandbox.Toml
