/-!
# Writing JSON

## Main definitions

* `Document` : documents without numbers, which no document written here holds.
* `quoteText` : a text as a JSON string.
* `Document.compact`, `Document.pretty` : the two layouts, without any space and indented by two
  spaces.
-/

namespace Sandbox.Json

/-- A document. Members of an object keep their order. -/
inductive Document where
  /-- The null value. -/
  | null
  /-- A truth value. -/
  | bool (b : Bool)
  /-- A string. -/
  | text (s : String)
  /-- An array. -/
  | array (items : List Document)
  /-- An object. -/
  | object (members : List (String × Document))

/-- A hexadecimal digit below sixteen, in lowercase. -/
def hexDigit (n : Nat) : Char :=
  Nat.digitChar n

/-- One character of a JSON string. Only quotes, backslashes and controls below U+0020 are
escaped. -/
def escape (c : Char) : List Char :=
  match c with
  | '"' => ['\\', '"']
  | '\\' => ['\\', '\\']
  | '\x08' => ['\\', 'b']
  | '\x0c' => ['\\', 'f']
  | '\n' => ['\\', 'n']
  | '\r' => ['\\', 'r']
  | '\t' => ['\\', 't']
  | c =>
    if c.toNat < 0x20 then
      ['\\', 'u', '0', '0', hexDigit (c.toNat / 16), hexDigit (c.toNat % 16)]
    else [c]

/-- The characters of a JSON string for `cs`. -/
def quote (cs : List Char) : List Char :=
  '"' :: cs.flatMap escape ++ ['"']

/-- Two spaces for each level. -/
def indent (level : Nat) : List Char :=
  '\n' :: List.replicate (2 * level) ' '

namespace Document

mutual

/-- The layout without spaces. -/
def compactChars : Document → List Char
  | null => ['n', 'u', 'l', 'l']
  | bool true => ['t', 'r', 'u', 'e']
  | bool false => ['f', 'a', 'l', 's', 'e']
  | text s => quote s.toList
  | array items => '[' :: compactItems true items ++ [']']
  | object members => '{' :: compactMembers true members ++ ['}']

/-- The items of an array; a comma stands before each but the first. -/
def compactItems (isFirst : Bool) : List Document → List Char
  | [] => []
  | item :: items =>
    (if isFirst then [] else [',']) ++ compactChars item ++ compactItems false items

/-- The members of an object; a comma stands before each but the first. -/
def compactMembers (isFirst : Bool) : List (String × Document) → List Char
  | [] => []
  | (key, value) :: members =>
    (if isFirst then [] else [',']) ++ quote key.toList ++ ':' :: compactChars value ++
      compactMembers false members

end

mutual

/-- The indented layout of a value that stands at `level`. -/
def prettyChars (level : Nat) : Document → List Char
  | null => ['n', 'u', 'l', 'l']
  | bool true => ['t', 'r', 'u', 'e']
  | bool false => ['f', 'a', 'l', 's', 'e']
  | text s => quote s.toList
  | array [] => ['[', ']']
  | array (item :: items) =>
    '[' :: indent (level + 1) ++ prettyChars (level + 1) item ++ prettyItems level items ++
      indent level ++ [']']
  | object [] => ['{', '}']
  | object ((key, value) :: members) =>
    '{' :: indent (level + 1) ++ quote key.toList ++ ':' :: ' ' :: prettyChars (level + 1) value ++
      prettyMembers level members ++ indent level ++ ['}']

/-- The items after the first of an array that stands at `level`. -/
def prettyItems (level : Nat) : List Document → List Char
  | [] => []
  | item :: items =>
    ',' :: indent (level + 1) ++ prettyChars (level + 1) item ++ prettyItems level items

/-- The members after the first of an object that stands at `level`. -/
def prettyMembers (level : Nat) : List (String × Document) → List Char
  | [] => []
  | (key, value) :: members =>
    ',' :: indent (level + 1) ++ quote key.toList ++ ':' :: ' ' :: prettyChars (level + 1) value ++
      prettyMembers level members

end

/-- The document without spaces. -/
def compact (document : Document) : String :=
  String.ofList document.compactChars

/-- The document indented by two spaces. -/
def pretty (document : Document) : String :=
  String.ofList (document.prettyChars 0)

end Document

/-- A text as a JSON string. -/
def quoteText (text : String) : String :=
  String.ofList (quote text.toList)

end Sandbox.Json
