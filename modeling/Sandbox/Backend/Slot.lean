import Sandbox.LoadError

/-!
# What is made once

A backend needs something that is costly to make, such as a compiler. It is made when it is first
asked for and kept from then on. If making it fails, nothing is kept and the next one who asks tries
again.

## Main definitions

* `Slot` : the place in a world where such a thing is kept.
* `Slot.obtain` : the thing that is kept, or else a new one.

## Main results

* `Slot.obtain_of_some`, `Slot.obtain_ok`, `Slot.obtain_error` : what asking does.
-/

namespace Sandbox

/-- A place in a world `W` where a thing is kept once it is made. -/
structure Slot (W α : Type) where
  /-- What is kept. -/
  kept : W → Option α
  /-- The world in which a thing is kept. -/
  keep : α → W → W

namespace Slot

variable {W α : Type}

/-- Whether something is kept. -/
def isFilled (slot : Slot W α) (w : W) : Bool :=
  (slot.kept w).isSome

/-- What is kept, or else what `make` makes, which is kept if that succeeds. -/
def obtain (slot : Slot W α) (make : StateM W (Except LoadError α)) :
    StateM W (Except LoadError α) := do
  match slot.kept (← get) with
  | some thing => return .ok thing
  | none =>
    match ← make with
    | .ok thing =>
      modify (slot.keep thing)
      return .ok thing
    | .error e => return .error e

variable {slot : Slot W α} {make : StateM W (Except LoadError α)} {w : W}

theorem obtain_of_some {thing : α} (h : slot.kept w = some thing) :
    (slot.obtain make).run w = (.ok thing, w) := by
  simp only [obtain, StateT.run_bind, StateT.run_get, pure_bind, h, StateT.run_pure]
  rfl

theorem obtain_ok {thing : α} {after : W} (h : slot.kept w = none)
    (hmake : make.run w = (.ok thing, after)) :
    (slot.obtain make).run w = (.ok thing, slot.keep thing after) := by
  simp only [obtain, StateT.run_bind, StateT.run_get, pure_bind, h, hmake]
  rfl

theorem obtain_error {e : LoadError} {after : W} (h : slot.kept w = none)
    (hmake : make.run w = (.error e, after)) :
    (slot.obtain make).run w = (.error e, after) := by
  simp only [obtain, StateT.run_bind, StateT.run_get, pure_bind, h, hmake]
  rfl

end Slot

end Sandbox
