/-!
# Searching texts

Prefixes, suffixes and occurrences, over lists of characters.

## Main definitions

* `stripStart?`, `stripEnd?` : what is left of a list when a given list begins or ends it.
* `hasStart`, `hasEnd`, `occursIn` : the tests.
* `contains` : whether a text occurs in another.
* `splitOn` : the pieces between the occurrences of one element.
* `replaceAll` : a text with every occurrence of another replaced.
-/

namespace Sandbox.Text

variable {α : Type} [BEq α]

/-- The rest of `xs` after `front`, if `xs` begins with it. -/
def stripStart? : (front xs : List α) → Option (List α)
  | [], xs => some xs
  | _ :: _, [] => none
  | a :: front, x :: xs => if a == x then stripStart? front xs else none

/-- Whether `xs` begins with `front`. -/
def hasStart (front xs : List α) : Bool :=
  (stripStart? front xs).isSome

/-- What stands in `xs` before `back`, if `xs` ends with it. -/
def stripEnd? (back xs : List α) : Option (List α) :=
  (stripStart? back.reverse xs.reverse).map List.reverse

/-- Whether `xs` ends with `back`. -/
def hasEnd (back xs : List α) : Bool :=
  (stripEnd? back xs).isSome

/-- Whether `part` occurs in `xs` as consecutive elements. -/
def occursIn (part : List α) : List α → Bool
  | [] => hasStart part []
  | x :: xs => hasStart part (x :: xs) || occursIn part xs

/-- Whether `needle` occurs in `text`. -/
def contains (text needle : String) : Bool :=
  occursIn needle.toList text.toList

/-- Whether `text` begins with `front`. -/
def beginsWith (text front : String) : Bool :=
  hasStart front.toList text.toList

/-- Whether `text` ends with `back`. -/
def endsWith (text back : String) : Bool :=
  hasEnd back.toList text.toList

/-- The pieces of a list between the occurrences of `mark`: one more than there are marks. -/
def splitOn (mark : α) : List α → List (List α)
  | [] => [[]]
  | x :: xs =>
    match splitOn mark xs with
    | [] => [[]]
    | piece :: pieces => if x == mark then [] :: piece :: pieces else (x :: piece) :: pieces

/-- The list with every occurrence of `part`, from left to right, replaced by `by'`. `skip`
counts the elements of the current occurrence that are still to be dropped. -/
def replaceFrom (part by' : List α) : (skip : Nat) → List α → List α
  | _, [] => []
  | skip + 1, _ :: xs => replaceFrom part by' skip xs
  | 0, x :: xs =>
    if hasStart part (x :: xs) then by' ++ replaceFrom part by' (part.length - 1) xs
    else x :: replaceFrom part by' 0 xs

/-- `text` with every occurrence of the nonempty `part`, from left to right, replaced by `by'`. -/
def replaceAll (part by' text : String) : String :=
  if part.isEmpty then text
  else String.ofList (replaceFrom part.toList by'.toList 0 text.toList)

@[simp] theorem stripStart?_append [LawfulBEq α] (front xs : List α) :
    stripStart? front (front ++ xs) = some xs := by
  induction front with
  | nil => rfl
  | cons a front ih => simpa [stripStart?] using ih

theorem eq_append_of_stripStart? [LawfulBEq α] {front xs rest : List α}
    (h : stripStart? front xs = some rest) : xs = front ++ rest := by
  induction front generalizing xs with
  | nil => simpa [stripStart?] using h
  | cons a front ih =>
    cases xs with
    | nil => simp [stripStart?] at h
    | cons x xs =>
      by_cases hax : a = x
      · subst hax
        simp only [stripStart?, BEq.rfl, if_true] at h
        simp [ih h]
      · simp [stripStart?, hax] at h

end Sandbox.Text
