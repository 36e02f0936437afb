/-!
# Sets of code points

A property of characters is given by the ranges of code points that have it.

## Main definitions

* `CodePoints` : inclusive ranges of code points, in ascending order.
* `CodePoints.contains` : membership of a character.
-/

namespace Sandbox.Text

/-- A set of code points, as inclusive ranges in ascending order. -/
abbrev CodePoints : Type := List (Nat × Nat)

/-- Whether some range of the set holds the code point of `c`. -/
def CodePoints.contains (set : CodePoints) (c : Char) : Bool :=
  set.any fun range => decide (range.1 ≤ c.toNat) && decide (c.toNat ≤ range.2)

theorem CodePoints.contains_eq_true_iff {set : CodePoints} {c : Char} :
    set.contains c = true ↔ ∃ range ∈ set, range.1 ≤ c.toNat ∧ c.toNat ≤ range.2 := by
  simp [CodePoints.contains]

end Sandbox.Text
