/-!
# Similar words

How much alike two words are, by the Jaro measure: the share of letters that they have in common at
nearly the same place, and the share of those that stand in the same order.

## Main definitions

* `commonLetters` : the letters of one word that the other has at nearly the same place.
* `similarity` : the measure, as a fraction.
* `mostSimilar` : the words that are much like a given one.
-/

namespace Sandbox.Text

/-- Takes the first letter `c` at a place from `low` to below `high` that is not taken, and gives
the places that are taken then. -/
def takeLetter (c : Char) (low high : Nat) (word : List Char) (taken : List Nat) :
    Option (List Nat) :=
  ((word.zip (List.range word.length)).find? fun (d, k) =>
    low ≤ k && k < high && c == d && !taken.contains k).map fun (_, k) => k :: taken

/-- The letters of `a` that `b` has not more than `range` places away, in order, and the places
in `b`. No letter of `b` counts twice. -/
def commonLetters (range : Nat) (a b : List Char) : List Char × List Nat :=
  let (letters, places) := (a.zip (List.range a.length)).foldl (fun (letters, taken) (c, i) =>
    match takeLetter c (i - range) (i + range + 1) b taken with
    | some taken => (c :: letters, taken)
    | none => (letters, taken)) (([] : List Char), ([] : List Nat))
  (letters.reverse, places)

/-- How much alike two words are: a numerator and a denominator that is zero only for words that
have nothing in common. -/
def similarity (a b : List Char) : Nat × Nat :=
  let (inA, places) := commonLetters (max a.length b.length / 2 - 1) a b
  let inB := (b.zip (List.range b.length)).filterMap fun (c, k) =>
    if places.contains k then some c else none
  let common := inA.length
  let moved := (inA.zip inB).countP (fun (c, d) => c != d) / 2
  (common * common * (a.length + b.length) + (common - moved) * (a.length * b.length),
    3 * a.length * b.length * common)

/-- Whether one fraction is less than another one. -/
def fractionLess (x y : Nat × Nat) : Bool :=
  x.1 * y.2 < y.1 * x.2

/-- Puts a word with its measure before the first one that is more alike. -/
def insertByMeasure (entry : (Nat × Nat) × String) :
    List ((Nat × Nat) × String) → List ((Nat × Nat) × String)
  | [] => [entry]
  | other :: rest =>
    if fractionLess entry.1 other.1 then entry :: other :: rest
    else other :: insertByMeasure entry rest

/-- The words among some candidates that are alike by more than seven tenths, the most alike
last. -/
def mostSimilar (word : String) (candidates : List String) : List String :=
  let measured := candidates.map fun candidate =>
    (similarity word.toList candidate.toList, candidate)
  let alike := measured.filter fun entry => fractionLess (7, 10) entry.1
  (alike.foldl (fun sorted entry => insertByMeasure entry sorted) []).map Prod.snd

end Sandbox.Text
