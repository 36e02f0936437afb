import Sandbox.JavaScript.Syntax
import Sandbox.Text.Blank
import Sandbox.Text.Word

/-!
# Tokens of scripts

## Main definitions

* `Token` : words, numbers, texts and marks.
* `Lexeme` : a token with its place in the text.
* `lexemes` : the tokens of a text.
-/

namespace Sandbox.JavaScript

/-- A token. -/
inductive Token where
  /-- A name or keyword. -/
  | word (name : String)
  /-- A number. -/
  | number (value : Float)
  /-- An integer of any size. -/
  | bigint (value : Nat)
  /-- A text. -/
  | string (units : Units)
  /-- A pattern. -/
  | regex (body flags : String)
  /-- An operator or another mark. -/
  | mark (text : String)

/-- A token with its place. -/
structure Lexeme where
  /-- The token. -/
  token : Token
  /-- The text from its first character on. -/
  text : List Char
  /-- How many characters it has. -/
  length : Nat
  /-- Whether a line ends before it. -/
  afterNewline : Bool

namespace Lexeme

/-- The characters of a token. -/
def shown (l : Lexeme) : String :=
  String.ofList (l.text.take l.length)

end Lexeme

namespace Lexer

/-- Characters that end lines. -/
def isNewline (c : Char) : Bool :=
  c == '\n' || c == '\r' || c.toNat == 0x2028 || c.toNat == 0x2029

/-- Characters between tokens. -/
def isGap (c : Char) : Bool :=
  Text.isBlank c || c.toNat == 0xFEFF

/-- Characters of names. -/
def isNameChar (c : Char) : Bool :=
  c == '$' || Text.isWordChar c

/-- The marks, longer ones before those that begin them. -/
def marks : List String := [
  ">>>=", "...", "===", "!==", "**=", "<<=", ">>=", ">>>", "&&=", "||=", "??=",
  "=>", "==", "!=", "<=", ">=", "&&", "||", "??", "?.", "++", "--", "+=", "-=", "*=", "/=", "%=",
  "&=", "|=", "^=", "<<", ">>", "**",
  "\x7b", "\x7d", "(", ")", "[", "]", ";", ",", "<", ">", "+", "-", "*", "/", "%", "&", "|", "^",
  "!", "~", "?", ":", "=", "."]

/-- The rest after a comment in brackets, and whether a line ends in it. -/
def afterComment (newline : Bool) : List Char → Option (List Char × Bool)
  | [] => none
  | '*' :: '/' :: rest => some (rest, newline)
  | c :: rest => afterComment (newline || isNewline c) rest

/-- The rest after blanks and comments, and whether a line ends in them. -/
def afterGap : (fuel : Nat) → (newline : Bool) → List Char → Except SyntaxFault (List Char × Bool)
  | 0, newline, cs => .ok (cs, newline)
  | fuel + 1, newline, cs =>
    match cs with
    | '/' :: '/' :: rest => afterGap fuel newline (rest.dropWhile (!isNewline ·))
    | '/' :: '*' :: rest =>
      match afterComment newline rest with
      | some (rest, newline) => afterGap fuel newline rest
      | none => .error .unclosed
    | c :: rest =>
      if isGap c then afterGap fuel (newline || isNewline c) rest else .ok (cs, newline)
    | [] => .ok ([], newline)

/-- The value of a digit in a base up to sixteen. -/
def digit? (base : Nat) (c : Char) : Option Nat :=
  let value := if c.isDigit then c.toNat - 48
    else if 'a' ≤ c ∧ c ≤ 'f' then c.toNat - 87
    else if 'A' ≤ c ∧ c ≤ 'F' then c.toNat - 55
    else base
  if value < base then some value else none

/-- The number that digits spell; underscores between them are passed over. -/
def spelled (base : Nat) (cs : List Char) : Nat :=
  cs.foldl (fun n c => match digit? base c with
    | some d => n * base + d
    | none => n) 0

/-- Whether a character may stand among the digits of a base. -/
def isDigitChar (base : Nat) (c : Char) : Bool :=
  (digit? base c).isSome || c == '_'

/-- The base that is announced by a letter after a zero. -/
def base? (c : Char) : Option Nat :=
  match c with
  | 'x' | 'X' => some 16
  | 'o' | 'O' => some 8
  | 'b' | 'B' => some 2
  | _ => none

/-- The number nearest to `n`. -/
def floatOf (n : Nat) : Float :=
  Float.ofScientific n false 0

/-- The exponent at the front of a text, and the rest. -/
def exponent? (cs : List Char) : Option (Int × List Char) :=
  let signed (sign : Int) (rest : List Char) : Option (Int × List Char) :=
    let digits := rest.takeWhile Char.isDigit
    if digits.isEmpty then none
    else some (sign * (spelled 10 digits : Int), rest.drop digits.length)
  match cs with
  | c :: '+' :: rest => if c == 'e' || c == 'E' then signed 1 rest else none
  | c :: '-' :: rest => if c == 'e' || c == 'E' then signed (-1) rest else none
  | c :: rest => if c == 'e' || c == 'E' then signed 1 rest else none
  | [] => none

/-- The number `digits * 10 ^ exponent`. -/
def decimal (digits : Nat) (exponent : Int) : Float :=
  if exponent < 0 then Float.ofScientific digits true (-exponent).toNat
  else Float.ofScientific digits false exponent.toNat

/-- A number at the front of a text, and the rest. -/
def number (cs : List Char) : Token × List Char :=
  match cs with
  | '0' :: c :: rest =>
    match base? c with
    | some base =>
      let digits := rest.takeWhile (isDigitChar base)
      let after := rest.drop digits.length
      let n := spelled base digits
      match after with
      | 'n' :: after => (.bigint n, after)
      | _ => (.number (floatOf n), after)
    | none => fromDecimal cs
  | _ => fromDecimal cs
where
  /-- A decimal number at the front of a text, and the rest. -/
  fromDecimal (cs : List Char) : Token × List Char :=
    let whole := cs.takeWhile (isDigitChar 10)
    let after := cs.drop whole.length
    match after with
    | 'n' :: after => (.bigint (spelled 10 whole), after)
    | _ =>
      let fraction := match after with
        | '.' :: rest => rest.takeWhile (isDigitChar 10)
        | _ => []
      let after := match after with
        | '.' :: rest => rest.drop fraction.length
        | _ => after
      let places := (fraction.filter Char.isDigit).length
      match exponent? after with
      | some (e, after) => (.number (decimal (spelled 10 (whole ++ fraction)) (e - places)), after)
      | none => (.number (decimal (spelled 10 (whole ++ fraction)) (-(places : Int))), after)

/-- The unit of a hexadecimal escape with so many digits, and the rest. -/
def hexEscape? (count : Nat) (cs : List Char) : Option (Nat × List Char) :=
  let digits := cs.take count
  if digits.length = count ∧ digits.all (fun c => (digit? 16 c).isSome) then
    some (spelled 16 digits, cs.drop count)
  else none

/-- The units of an escape after its backslash, and the rest. -/
def escape (cs : List Char) : Except SyntaxFault (Units × List Char) :=
  match cs with
  | [] => .error .unclosed
  | 'n' :: rest => .ok ([10], rest)
  | 't' :: rest => .ok ([9], rest)
  | 'r' :: rest => .ok ([13], rest)
  | 'b' :: rest => .ok ([8], rest)
  | 'f' :: rest => .ok ([12], rest)
  | 'v' :: rest => .ok ([11], rest)
  | '0' :: rest => .ok ([0], rest)
  | '\n' :: rest => .ok ([], rest)
  | 'x' :: rest =>
    match hexEscape? 2 rest with
    | some (n, rest) => .ok ([UInt16.ofNat n], rest)
    | none => .error .unclosed
  | 'u' :: '\x7b' :: rest =>
    let digits := rest.takeWhile (· != '\x7d')
    .ok (Units.ofChar (Char.ofNat (spelled 16 digits)), (rest.drop digits.length).drop 1)
  | 'u' :: rest =>
    match hexEscape? 4 rest with
    | some (n, rest) => .ok ([UInt16.ofNat n], rest)
    | none => .error .unclosed
  | c :: rest => .ok (Units.ofChar c, rest)

/-- The units of a text up to its closing quote, and the rest. -/
def string (quote : Char) : (fuel : Nat) → (done : Units) → List Char →
    Except SyntaxFault (Units × List Char)
  | 0, _, _ => .error .unclosed
  | _, _, [] => .error .unclosed
  | fuel + 1, done, c :: rest =>
    if c == quote then .ok (done.reverse, rest)
    else if c == '\\' then
      match escape rest with
      | .ok (units, rest) => string quote fuel (units.reverse ++ done) rest
      | .error fault => .error fault
    else if c == '\n' || c == '\r' then .error .unclosed
    else string quote fuel ((Units.ofChar c).reverse ++ done) rest

/-- The characters of a pattern up to its closing slash, and the rest. -/
def pattern (inClass : Bool) (done : List Char) : List Char → Option (List Char × List Char)
  | [] => none
  | '\\' :: c :: rest => pattern inClass (c :: '\\' :: done) rest
  | c :: rest =>
    if isNewline c then none
    else if c == '/' && !inClass then some (done.reverse, rest)
    else pattern (if c == '[' then true else if c == ']' then false else inClass) (c :: done) rest

/-- Words after which an operand follows. -/
def operandWords : List String :=
  ["return", "typeof", "throw", "case", "void", "delete", "in", "of", "instanceof", "new", "else",
    "do"]

/-- Whether a slash after a token begins a pattern. -/
def patternMayFollow : Option Token → Bool
  | none => true
  | some (.mark text) => text != ")" && text != "]"
  | some (.word name) => operandWords.contains name
  | some _ => false

/-- The token at the front of a text that begins with no gap, and the rest. -/
def token (previous : Option Token) (cs : List Char) : Except SyntaxFault (Token × List Char) :=
  match cs with
  | [] => .error .unclosed
  | c :: rest =>
    let startsFraction := c == '.' && (rest.head?.map Char.isDigit).getD false
    if c.isDigit || startsFraction then .ok (number cs)
    else if isNameChar c then
      .ok (.word (String.ofList (cs.takeWhile isNameChar)), cs.dropWhile isNameChar)
    else if c == '"' || c == '\x27' then
      (string c (rest.length + 1) [] rest).map fun (units, rest) => (.string units, rest)
    else
      let asPattern := if c == '/' && patternMayFollow previous then pattern false [] rest else none
      match asPattern with
      | some (body, rest) =>
        .ok (.regex (String.ofList body) (String.ofList (rest.takeWhile isNameChar)),
          rest.dropWhile isNameChar)
      | none =>
        match marks.find? fun mark => Text.hasStart mark.toList cs with
        | some mark => .ok (.mark mark, cs.drop mark.length)
        | none => .error (.unexpected (String.singleton c))

/-- The tokens of a text, after those in `done`, which is in reverse. -/
def lexemesFrom : (fuel : Nat) → (done : List Lexeme) → List Char → Except SyntaxFault (List Lexeme)
  | 0, done, _ => .ok done.reverse
  | fuel + 1, done, cs => do
    let (cs, newline) ← afterGap (cs.length + 1) false cs
    if cs.isEmpty then return done.reverse
    let (token, rest) ← token (done.head?.map Lexeme.token) cs
    lexemesFrom fuel (⟨token, cs, cs.length - rest.length, newline⟩ :: done) rest

end Lexer

/-- The tokens of a text. -/
def lexemes (text : List Char) : Except SyntaxFault (List Lexeme) :=
  Lexer.lexemesFrom (text.length + 1) [] text

end Sandbox.JavaScript
