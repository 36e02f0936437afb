import Sandbox.Text.Blank
import Sandbox.Text.Search
import Sandbox.Text.Word

/-!
# Entry points in C sources

An entry point is the text `int main(`, with any blanks between the words and before the
parenthesis, where `int` begins a word. It is recognised as text, without parsing the source.

A source is cut into pieces from left to right: its entry points and the characters between them.
All operations are operations on the pieces.

## Main definitions

* `Piece` : an entry point, or a character that belongs to none.
* `pieces` : the pieces of a source.
* `entryPointCount` : how many entry points a source has.
* `neutralize` : the source with its entry points renamed.
-/

namespace Sandbox.EntryPoint

/-- A part of a source. -/
inductive Piece where
  /-- A character that belongs to no entry point. -/
  | plain (c : Char)
  /-- An entry point, from `int` to the parenthesis. -/
  | entry (span : List Char)
  deriving DecidableEq, Repr

/-- The text of a piece. -/
def Piece.text : Piece → List Char
  | plain c => [c]
  | entry span => span

/-- Whether a piece is an entry point. -/
def Piece.isEntry : Piece → Bool
  | plain _ => false
  | entry _ => true

/-- The number of blanks at the front. -/
def blankCount (cs : List Char) : Nat :=
  (cs.takeWhile Text.isBlank).length

/-- The length of the entry point at the front of `cs`, if the word boundary before it is given. -/
def spanLength? (cs : List Char) : Option Nat := do
  let afterInt ← Text.stripStart? "int".toList cs
  let gap := blankCount afterInt
  if gap = 0 then none
  let afterMain ← Text.stripStart? "main".toList (afterInt.drop gap)
  let space := blankCount afterMain
  match afterMain.drop space with
  | '(' :: _ => some (3 + gap + 4 + space + 1)
  | _ => none

/-- Whether a word may begin after `before`, the character to the left if there is one. -/
def mayBegin (before : Option Char) : Bool :=
  match before with
  | some c => !Text.isWordChar c
  | none => true

/-- The length of the entry point at the front of `cs` when `before` stands to the left. -/
def entryLength? (before : Option Char) (cs : List Char) : Option Nat :=
  if mayBegin before then spanLength? cs else none

/-- The pieces of `cs` when `before` stands to the left. After an entry point the search goes on
behind its parenthesis. -/
def piecesAfter (before : Option Char) : List Char → List Piece
  | [] => []
  | c :: rest =>
    match entryLength? before (c :: rest) with
    | some n => .entry (c :: rest.take (n - 1)) :: piecesAfter (some '(') (rest.drop (n - 1))
    | none => .plain c :: piecesAfter (some c) rest
termination_by cs => cs.length
decreasing_by
  · simp only [List.length_drop, List.length_cons]; omega
  · simp

/-- The pieces of a source. -/
def pieces (source : List Char) : List Piece :=
  piecesAfter none source

/-- The name that the learner's entry point is renamed to. -/
def disabledName : String := "__user_main_disabled"

/-- What stands in place of an entry point. -/
def replacement : List Char :=
  ("int " ++ disabledName ++ "(").toList

/-- The text that stands for a piece when entry points are renamed. -/
def Piece.neutralized : Piece → List Char
  | plain c => [c]
  | entry _ => replacement

/-- The source with its entry points renamed. -/
def neutralize (source : String) : String :=
  String.ofList ((pieces source.toList).flatMap Piece.neutralized)

/-- How many entry points a source has. -/
def count (source : String) : Nat :=
  (pieces source.toList).countP Piece.isEntry

/-- The pieces of a source lose and reorder nothing. -/
theorem flatMap_text_piecesAfter (before : Option Char) (source : List Char) :
    (piecesAfter before source).flatMap Piece.text = source := by
  fun_induction piecesAfter before source with
  | case1 => rfl
  | case2 before c rest n _ ih => simp [Piece.text, ih]
  | case3 before c rest _ ih => simp [Piece.text, ih]

end Sandbox.EntryPoint
