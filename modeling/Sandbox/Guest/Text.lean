import Sandbox.Guest.Module
import Sandbox.Text.Blank
import Sandbox.Text.Quoted
import Sandbox.Text.Search
import Sandbox.Text.Utf8

/-!
# Modules from bytes

A module is given in binary form or as text. Of binaries only the empty module is read here; of
texts, modules that have memories and functions without code. All other bytes are refused, also
those of modules with code, with imports or with data: such a module is held as it is and not as its
bytes, see `Files.Content`.

## Main definitions

* `Module.ofBytes` : the module, or why there is none.
-/

namespace Sandbox.Guest

/-- The first bytes of every binary module. -/
def magic : List UInt8 := [0x00, 0x61, 0x73, 0x6D]

/-- The version that follows. -/
def binaryVersion : List UInt8 := [0x01, 0x00, 0x00, 0x00]

/-- A module without anything. -/
def Module.empty : Module :=
  ⟨[], none, [], none, none⟩

namespace ModuleText

/-- A token and what is left from it on. -/
inductive Token where
  /-- An opening parenthesis. -/
  | opening
  /-- A closing parenthesis. -/
  | closing
  /-- A word or number. -/
  | word (cs : List Char)
  /-- A text in quotes. -/
  | string (cs : List Char)
  deriving DecidableEq, Repr

/-- Characters of words. -/
def isWordChar (c : Char) : Bool :=
  c.isAlphanum || "!#$%&*+-./:<=>?@\\^_|~`".toList.contains c || c.toNat == 0x27

/-- The characters between tokens. -/
def isGap (c : Char) : Bool :=
  c == ' ' || c == '\n' || c == '\t' || c == '\r'

/-- The first token and the rest, the place where no token begins, or nothing. -/
inductive Lexed where
  /-- A token, and what follows it. -/
  | token (token : Token) (rest : List Char)
  /-- The text is at its end. -/
  | ended
  /-- No token begins with this character. -/
  | unexpected (c : Char) (rest : List Char)

/-- The first token of a text. -/
def lex (cs : List Char) : Lexed :=
  match cs.dropWhile isGap with
  | [] => .ended
  | '(' :: rest => .token .opening rest
  | ')' :: rest => .token .closing rest
  | '"' :: rest => .token (.string (rest.takeWhile (· != '"'))) ((rest.dropWhile (· != '"')).drop 1)
  | c :: rest =>
    if isWordChar c then
      .token (.word ((c :: rest).takeWhile isWordChar)) ((c :: rest).dropWhile isWordChar)
    else .unexpected c rest

/-- A fault, with what is left of the text where it shows. -/
structure Fault where
  /-- What is wrong. -/
  message : String
  /-- The text from there on. -/
  rest : List Char

/-- The fault of a token that is not the one wanted. -/
def wanting (wanted : String) (cs : List Char) : Fault :=
  match lex cs with
  | .unexpected c rest =>
    ⟨"unexpected character " ++ "\x27" ++
      String.ofList (Text.escapeChar true c) ++ "\x27", c :: rest⟩
  | _ => ⟨"expected `" ++ wanted ++ "`", cs.dropWhile isGap⟩

/-- Reads a token that has to be there. -/
def expect (token : Token) (spelling : String) (cs : List Char) : Except Fault (List Char) :=
  match lex cs with
  | .token found rest => if found = token then .ok rest else .error (wanting spelling cs)
  | _ => .error (wanting spelling cs)

/-- Reads an export clause: the name. -/
def exportClause (cs : List Char) : Except Fault (String × List Char) := do
  let cs ← expect .opening "(" cs
  let cs ← expect (.word "export".toList) "export" cs
  match lex cs with
  | .token (.string name) rest => return (String.ofList name, ← expect .closing ")" rest)
  | _ => throw (wanting "\"" cs)

/-- Reads a field after its opening parenthesis and adds it to the module. -/
def field (m : Module) (cs : List Char) : Except Fault (Module × List Char) := do
  match lex cs with
  | .token (.word word) rest =>
    if word = "func".toList then
      let (name, rest) ← exportClause rest
      return ({ m with entry := some (name, .function ⟨[], []⟩ []) }, ← expect .closing ")" rest)
    else if word = "memory".toList then
      let (name, rest) ← exportClause rest
      match lex rest with
      | .token (.word digits) rest =>
        let pages := digits.foldl (fun n c => n * 10 + (c.toNat - 48)) 0
        return ({ m with memory := some (pages, name) }, ← expect .closing ")" rest)
      | _ => throw ⟨"expected a u64", rest.dropWhile isGap⟩
    else throw ⟨"unknown operator or unexpected token", cs.dropWhile isGap⟩
  | _ => throw ⟨"unknown operator or unexpected token", cs.dropWhile isGap⟩

/-- Reads fields up to the end, which is a closing parenthesis for `inside` and the end of the text
otherwise. `fuel` bounds the number of fields. -/
def fields (inside : Bool) : (fuel : Nat) → Module → List Char → Except Fault (Module × List Char)
  | 0, _, cs => .error (wanting ")" cs)
  | fuel + 1, m, cs =>
    match lex cs with
    | .token .opening rest => do
      let (m, rest) ← field m rest
      fields inside fuel m rest
    | .token .closing rest =>
      if inside then .ok (m, rest) else .error (wanting "(" cs)
    | .ended => if inside then .error (wanting ")" cs) else .ok (m, [])
    | _ => .error (wanting "(" cs)

/-- Reads a whole text. -/
def readModule (cs : List Char) : Except Fault Module := do
  match lex cs with
  | .ended => throw ⟨"expected at least one module field", cs.dropWhile isGap⟩
  | .token .opening rest =>
    match lex rest with
    | .token (.word word) rest =>
      if word = "module".toList then
        let (m, rest) ← fields true (cs.length + 1) .empty rest
        match lex rest with
        | .ended => return m
        | _ => throw ⟨"extra tokens remaining after parse", rest.dropWhile isGap⟩
      else return (← fields false (cs.length + 1) .empty cs).1
    | _ => return (← fields false (cs.length + 1) .empty cs).1
  | _ => throw (wanting "(" cs)

/-- A fault, shown at its line and column. -/
def Fault.render (source : List Char) (fault : Fault) : String :=
  let before := source.take (source.length - fault.rest.length)
  let lineStart := (before.reverse.takeWhile (· != '\n')).reverse
  let line := toString (before.count '\n' + 1)
  let column := lineStart.length + 1
  let shown := lineStart ++ fault.rest.takeWhile (· != '\n')
  let margin := String.ofList (List.replicate line.length ' ')
  fault.message ++ "\n    " ++ margin ++ "--> <anon>:" ++ line ++ ":" ++ toString column ++
    "\n     " ++ margin ++ "|\n    " ++ line ++ " | " ++ String.ofList shown ++
    "\n     " ++ margin ++ "| " ++ String.ofList (List.replicate (column - 1) ' ') ++ "^"

end ModuleText

/-- The module that bytes describe, if it is one without code, imports and data. -/
def Module.ofBytes (bytes : List UInt8) : Except String Module :=
  match Text.stripStart? magic bytes with
  | some rest =>
    if rest = binaryVersion then .ok .empty else .error "failed to parse WebAssembly module"
  | none =>
    match Text.Utf8.decode? bytes with
    | none => .error "input bytes aren\x27t valid utf-8"
    | some text =>
      match ModuleText.readModule text.toList with
      | .ok m => .ok m
      | .error fault => .error (fault.render text.toList)

end Sandbox.Guest
