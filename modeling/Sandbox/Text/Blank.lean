import Sandbox.Text.CodePoints

/-!
# White space

The characters with the Unicode property White_Space, and trimming by them.

## Main definitions

* `isBlank` : the property White_Space.
* `trimEnd`, `trim` : a text without the blanks at its end, or at both ends.
* `allBlank` : whether a text has blanks only.
-/

namespace Sandbox.Text

/-- The code points with the property White_Space. -/
def blankPoints : CodePoints := [
  (0x9, 0xD), (0x20, 0x20), (0x85, 0x85), (0xA0, 0xA0), (0x1680, 0x1680), (0x2000, 0x200A),
  (0x2028, 0x2029), (0x202F, 0x202F), (0x205F, 0x205F), (0x3000, 0x3000)]

/-- Whether `c` has the property White_Space. -/
def isBlank (c : Char) : Bool :=
  blankPoints.contains c

/-- The characters without the blanks at their end. -/
def dropEndBlanks (cs : List Char) : List Char :=
  (cs.reverse.dropWhile isBlank).reverse

/-- `text` without the blanks at its end. -/
def trimEnd (text : String) : String :=
  String.ofList (dropEndBlanks text.toList)

/-- `text` without the blanks at both ends. -/
def trim (text : String) : String :=
  String.ofList (dropEndBlanks (text.toList.dropWhile isBlank))

/-- Whether every character of `text` is a blank. -/
def allBlank (text : String) : Bool :=
  text.toList.all isBlank

end Sandbox.Text
