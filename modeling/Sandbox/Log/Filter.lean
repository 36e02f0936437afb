import Sandbox.Log
import Sandbox.Text.Blank
import Sandbox.Text.Search

/-!
# Which events are shown

A filter is a list of directives between commas. A directive names a level, or the beginning of the
names of some parts of the sandbox with a level; the longest beginning counts.

## Main definitions

* `Directive` : one directive.
* `Directive.ofText?` : the directive that a text stands for.
* `Filter` : directives.
* `Filter.ofText` : the filter that a text stands for, and what could not be read.
* `Filter.shows` : whether an event is shown.
-/

namespace Sandbox.Log

/-- Which events of some parts of the sandbox are shown. -/
structure Directive where
  /-- The beginning of the names of the parts. -/
  target : String
  /-- How much detail is shown; zero is none at all. -/
  detail : Nat
  deriving DecidableEq, Repr

/-- Directives. -/
abbrev Filter : Type := List Directive

/-- The names of the amounts of detail. -/
def detailNames : List (String × Nat) :=
  [("off", 0), ("error", 1), ("warn", 2), ("info", 3), ("debug", 4), ("trace", 5),
    ("0", 0), ("1", 1), ("2", 2), ("3", 3), ("4", 4), ("5", 5)]

/-- The amount of detail with a name, in any case of letters. -/
def detail? (name : String) : Option Nat :=
  detailNames.lookup (String.ofList (name.toList.map Char.toLower))

/-- The greatest amount of detail. -/
def fullDetail : Nat := 5

/-- Whether a character may be part of the name of a part of the sandbox. -/
def isTargetChar (c : Char) : Bool :=
  c.isAlphanum || c == '_' || c == '-' || c == ':'

/-- The directive that a text stands for. A name without a level asks for all of its events. -/
def Directive.ofText? (text : String) : Option Directive :=
  match detail? text with
  | some detail => some ⟨"", detail⟩
  | none =>
    let name := text.toList.takeWhile (· != '=')
    if name.isEmpty || !name.all isTargetChar then none
    else
      match text.toList.drop name.length with
      | [] | [_] => some ⟨String.ofList name, fullDetail⟩
      | _ :: level => (detail? (String.ofList level)).map (⟨String.ofList name, ·⟩)

namespace Filter

/-- The filter that a text stands for, and the directives that could not be read. A filter without
directives shows errors. -/
def ofText (text : String) : Filter × List String :=
  let parts := ((Text.splitOn ',' text.toList).filter (!·.isEmpty)).map String.ofList
  let directives := parts.filterMap Directive.ofText?
  (if directives.isEmpty then [⟨"", Level.error.detail⟩] else directives,
    parts.filter fun part => (Directive.ofText? part).isNone)

/-- The text of the filter when nothing is asked for: warnings and errors. -/
def defaultText : String := "warn"

/-- The text of the filter, by what the environment asks for. A blank text asks for nothing. -/
def textFor (asked : Option String) : String :=
  (asked.filter fun text => !Text.allBlank text).getD defaultText

/-- The directive that counts for a part of the sandbox: the one with the longest beginning, and of
two that are alike the later one. -/
def directiveFor? (filter : Filter) (target : String) : Option Directive :=
  (filter.filter fun directive => Text.beginsWith target directive.target).foldl
    (fun best? directive =>
      match best? with
      | some best =>
        if directive.target.length < best.target.length then some best else some directive
      | none => some directive) none

/-- Whether an event is shown. -/
def shows (filter : Filter) (event : Event) : Bool :=
  (directiveFor? filter event.target).any fun directive => event.level.detail ≤ directive.detail

end Filter

end Sandbox.Log
