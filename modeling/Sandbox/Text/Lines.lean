/-!
# Lines of a text

A line ends at a newline, which is not part of it, and neither is one carriage return directly
before that newline. Text after the last newline is a line of its own if there is any, with all its
characters.

## Main definitions

* `linesOf` : the lines of a list of characters.
* `lines` : the lines of a text.
-/

namespace Sandbox.Text

/-- The line whose characters, from right to left, were followed by a newline: one carriage return
at its end is dropped. -/
def closeLine : List Char → List Char
  | '\r' :: before => before.reverse
  | before => before.reverse

/-- The lines of a list of characters, when `before` holds the characters of the current line from
right to left. -/
def linesFrom (before : List Char) : List Char → List (List Char)
  | [] => if before.isEmpty then [] else [before.reverse]
  | c :: rest =>
    if c = '\n' then closeLine before :: linesFrom [] rest else linesFrom (c :: before) rest

/-- The lines of a list of characters. -/
def linesOf (cs : List Char) : List (List Char) :=
  linesFrom [] cs

/-- The lines of a text. -/
def lines (text : String) : List String :=
  (linesOf text.toList).map String.ofList

end Sandbox.Text
