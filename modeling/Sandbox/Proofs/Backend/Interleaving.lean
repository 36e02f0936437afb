import Mathlib.Algebra.BigOperators.Group.List.Basic
import Mathlib.Algebra.Ring.Nat
import Mathlib.Logic.Relation
import Sandbox.Proofs.Backend.Routine

/-!
# Calls that share a slot

Any number of calls share one slot, and their steps are interleaved in any way. Of the slot it is
only assumed that one caller at a time makes what is to be kept, that a failure leaves the slot
empty so that another caller may try, and that what is kept stays.

## Main definitions

* `Cell`, `Cell.Allows` : the slot, and the steps that it allows.
* `Shared` : the slot and all callers, each with the steps that it has made.
* `Shared.Step`, `Shared.Reachable` : a step of one of the callers, and the states that can be
  reached.
* `Shared.tally` : how many steps of a kind all callers have made.
* `Shared.Consistent` : what the slot and the steps of the callers have to do with each other.

## Main results

* `Shared.Reachable.leads` : every caller makes the steps of its own routine.
* `Shared.Reachable.consistent` : the slot agrees with the steps of the callers.
* `Shared.kept_of_steps` : what is kept stays.
-/

namespace Sandbox

variable {Query : Type} {Answer : Query → Type} {κ α Call : Type}

namespace Move

/-- Whether a caller becomes the one to make what is to be kept. -/
def isEntered : Move Answer κ → Bool
  | entered => true
  | _ => false

/-- Whether a caller leaves the slot. -/
def isLeft : Move Answer κ → Bool
  | left _ => true
  | _ => false

/-- Whether a caller leaves the slot with what is kept from then on. -/
def isKept : Move Answer κ → Bool
  | left (.ok _) => true
  | _ => false

/-- A caller sees something in the slot, or puts it there. -/
def Shows (thing : κ) : Move Answer κ → Prop
  | looked kept => kept = some thing
  | found other => other = thing
  | left (.ok other) => other = thing
  | _ => False

end Move

/-- A slot that is shared: what is kept, and the caller who is making it. -/
structure Cell (κ : Type) where
  /-- What is kept. -/
  kept : Option κ
  /-- The caller who has entered and has not left. -/
  holder : Option Nat

/-- What the slot allows the caller `i` to do, and how it is then. A caller enters only if nothing
is kept and nobody is inside. A failure leaves the slot empty. -/
inductive Cell.Allows (i : Nat) : Cell κ → Move Answer κ → Cell κ → Prop
  | look (cell : Cell κ) : Allows i cell (.looked cell.kept) cell
  | find {cell : Cell κ} {thing : κ} (hkept : cell.kept = some thing) :
    Allows i cell (.found thing) cell
  | enter {cell : Cell κ} (hkept : cell.kept = none) (hfree : cell.holder = none) :
    Allows i cell .entered { cell with holder := some i }
  | keep {cell : Cell κ} (hinside : cell.holder = some i) (thing : κ) :
    Allows i cell (.left (.ok thing)) ⟨some thing, none⟩
  | fail {cell : Cell κ} (hinside : cell.holder = some i) (e : LoadError) :
    Allows i cell (.left (.error e)) { cell with holder := none }
  | tell (cell : Cell κ) (events : Log) : Allows i cell (.told events) cell
  | ask (cell : Cell κ) (query : Query) : Allows i cell (.asked query) cell
  | answer (cell : Cell κ) (query : Query) (answer : Answer query) :
    Allows i cell (.answered query answer) cell

namespace Cell.Allows

variable {i : Nat} {cell cell' : Cell κ} {m : Move Answer κ}

/-- Who enters is inside, and who leaves was inside. -/
theorem inside (h : cell.Allows i m cell') :
    (if m.isEntered then 1 else 0) + (if cell.holder = some i then 1 else 0) =
      (if m.isLeft then 1 else 0) + if cell'.holder = some i then 1 else 0 := by
  cases h <;> simp_all [Move.isEntered, Move.isLeft]

theorem holder_isSome (h : cell.Allows i m cell') :
    (if m.isEntered then 1 else 0) + (if cell.holder.isSome then 1 else 0) =
      (if m.isLeft then 1 else 0) + if cell'.holder.isSome then 1 else 0 := by
  cases h <;> simp_all [Move.isEntered, Move.isLeft]

theorem holder_eq_of_ne (h : cell.Allows i m cell') {j : Nat} (hj : j ≠ i) :
    cell'.holder = some j ↔ cell.holder = some j := by
  cases h <;> simp_all [Ne.symm hj]

/-- What a caller sees is what is kept from then on. -/
theorem kept_of_shows (h : cell.Allows i m cell') {thing : κ} (hshows : m.Shows thing) :
    cell'.kept = some thing := by
  cases h with
  | look => exact hshows
  | find hkept => exact hkept.trans (congrArg some hshows)
  | keep => exact congrArg some hshows
  | enter | fail | tell | ask | answer => exact hshows.elim

section Free

variable (hfree : ∀ thing, cell.kept = some thing → cell.holder = none)

include hfree

/-- What is kept stays, since only someone inside puts something there. -/
theorem kept_mono (h : cell.Allows i m cell') {thing : κ} (hkept : cell.kept = some thing) :
    cell'.kept = some thing := by
  have hnone := hfree thing hkept
  cases h with
  | keep hinside | fail hinside =>
    rw [hnone] at hinside
    cases hinside
  | look | find | enter | tell | ask | answer => exact hkept

theorem free (h : cell.Allows i m cell') {thing : κ} (hkept : cell'.kept = some thing) :
    cell'.holder = none := by
  cases h with
  | keep | fail => rfl
  | enter hnone =>
    rw [hnone] at hkept
    cases hkept
  | look | find | tell | ask | answer => exact hfree thing hkept

theorem kept_isSome (h : cell.Allows i m cell') :
    (if m.isKept then 1 else 0) + (if cell.kept.isSome then 1 else 0) =
      if cell'.kept.isSome then 1 else 0 := by
  cases h with
  | keep hinside thing =>
    have hnone : cell.kept = none := Option.eq_none_iff_forall_ne_some.mpr fun other hother => by
      rw [hfree other hother] at hinside
      cases hinside
    rw [hnone]
    rfl
  | look | find | enter | fail | tell | ask | answer => simp [Move.isKept]

end Free

end Cell.Allows

/-- A caller. -/
structure Caller (Call : Type) (Answer : Query → Type) (κ α : Type) where
  /-- What it calls. -/
  call : Call
  /-- The steps that it has made. -/
  made : List (Move Answer κ)
  /-- How far it is. -/
  progress : Progress Answer κ α

/-- A caller after another step. -/
def Caller.after (caller : Caller Call Answer κ α) (m : Move Answer κ)
    (progress : Progress Answer κ α) : Caller Call Answer κ α :=
  { caller with made := caller.made ++ [m], progress := progress }

/-- The slot and all those who share it. -/
structure Shared (Call : Type) (Answer : Query → Type) (κ α : Type) where
  /-- The slot. -/
  cell : Cell κ
  /-- The callers, in the order in which they came. -/
  callers : List (Caller Call Answer κ α)

namespace Shared

/-- Nobody has come. -/
def start : Shared Call Answer κ α :=
  ⟨⟨none, none⟩, []⟩

/-- Someone comes, or someone makes a step that the slot allows. -/
inductive Step (routine : Call → Routine Answer κ α) :
    Shared Call Answer κ α → Shared Call Answer κ α → Prop
  | come (s : Shared Call Answer κ α) (call : Call) :
    Step routine s { s with callers := s.callers ++ [⟨call, [], .ready (routine call)⟩] }
  | move {s : Shared Call Answer κ α} {i : Nat} {caller : Caller Call Answer κ α}
    {m : Move Answer κ} {progress : Progress Answer κ α} {cell : Cell κ}
    (hcaller : s.callers[i]? = some caller) (hmoves : caller.progress.Moves m progress)
    (hallows : s.cell.Allows i m cell) :
    Step routine s ⟨cell, s.callers.set i (caller.after m progress)⟩

/-- A state that can be reached from the one in which nobody has come. -/
def Reachable (routine : Call → Routine Answer κ α) (s : Shared Call Answer κ α) : Prop :=
  Relation.ReflTransGen (Step routine) start s

/-- How many steps of a kind all callers have made. -/
def tally (kind : Move Answer κ → Bool) (s : Shared Call Answer κ α) : Nat :=
  (s.callers.map fun caller => caller.made.countP kind).sum

variable {routine : Call → Routine Answer κ α} {s t : Shared Call Answer κ α}

/-! ### Single steps -/

section Tally

variable {i : Nat} {caller : Caller Call Answer κ α} {m : Move Answer κ}
  {progress : Progress Answer κ α}

theorem tally_come (kind : Move Answer κ → Bool) (cell : Cell κ)
    (callers : List (Caller Call Answer κ α)) (call : Call) (progress : Progress Answer κ α) :
    tally kind ⟨cell, callers ++ [⟨call, [], progress⟩]⟩ = tally kind ⟨cell, callers⟩ := by
  simp [tally]

theorem tally_move (kind : Move Answer κ → Bool) (cell cell' : Cell κ)
    {callers : List (Caller Call Answer κ α)} (hcaller : callers[i]? = some caller) :
    tally kind ⟨cell', callers.set i (caller.after m progress)⟩ =
      tally kind ⟨cell, callers⟩ + if kind m then 1 else 0 := by
  induction callers generalizing i with
  | nil => cases hcaller
  | cons first callers ih =>
    cases i with
    | zero =>
      obtain rfl := Option.some.inj hcaller
      simp only [tally, List.set_cons_zero, List.map_cons, List.sum_cons, Caller.after,
        List.countP_append, List.countP_singleton]
      omega
    | succ i =>
      have hrest := ih hcaller
      simp only [tally, List.set_cons_succ, List.map_cons, List.sum_cons] at hrest ⊢
      omega

/-- What holds for the counts of every caller holds for those of all. -/
theorem tally_add_le {a b c d : Move Answer κ → Bool}
    (h : ∀ caller ∈ s.callers, caller.made.countP a + caller.made.countP b ≤
      caller.made.countP c + caller.made.countP d) :
    s.tally a + s.tally b ≤ s.tally c + s.tally d := by
  obtain ⟨cell, callers⟩ := s
  induction callers with
  | nil => exact Nat.le_refl _
  | cons first callers ih =>
    obtain ⟨hfirst, hcallers⟩ := List.forall_mem_cons.mp h
    have hrest := ih hcallers
    simp only [tally, List.map_cons, List.sum_cons] at hrest ⊢
    omega

/-- If the steps of two kinds differ for some callers by one, they differ for all by the number of
those callers. -/
theorem tally_eq_add_countP {a b : Move Answer κ → Bool} {p : Caller Call Answer κ α → Bool}
    (h : ∀ caller ∈ s.callers, caller.made.countP a =
      caller.made.countP b + if p caller then 1 else 0) :
    s.tally a = s.tally b + s.callers.countP p := by
  obtain ⟨cell, callers⟩ := s
  induction callers with
  | nil => rfl
  | cons first callers ih =>
    obtain ⟨hfirst, hcallers⟩ := List.forall_mem_cons.mp h
    have hrest := ih hcallers
    simp only [tally, List.map_cons, List.sum_cons, List.countP_cons] at hrest ⊢
    omega

theorem exists_of_tally_pos {kind : Move Answer κ → Bool} (h : 0 < s.tally kind) :
    ∃ caller ∈ s.callers, ∃ m ∈ caller.made, kind m = true := by
  obtain ⟨cell, callers⟩ := s
  induction callers with
  | nil => exact absurd h (Nat.lt_irrefl 0)
  | cons first callers ih =>
    simp only [tally, List.map_cons, List.sum_cons] at h
    rcases Nat.eq_zero_or_pos (first.made.countP kind) with hzero | hpos
    · rw [hzero, Nat.zero_add] at h
      obtain ⟨caller, hcaller, hmade⟩ := ih h
      exact ⟨caller, List.mem_cons_of_mem _ hcaller, hmade⟩
    · exact ⟨first, List.mem_cons_self, List.countP_pos_iff.mp hpos⟩

end Tally

/-- What the slot and the steps of the callers have to do with each other: nobody is inside once
something is kept, the one inside has entered once more than it has left, at most one caller has
put something there, and everybody sees the same. -/
structure Consistent (s : Shared Call Answer κ α) : Prop where
  free : ∀ thing, s.cell.kept = some thing → s.cell.holder = none
  present : ∀ i, s.cell.holder = some i → i < s.callers.length
  inside : ∀ i caller, s.callers[i]? = some caller →
    caller.made.countP Move.isEntered =
      caller.made.countP Move.isLeft + if s.cell.holder = some i then 1 else 0
  entered : s.tally Move.isEntered = s.tally Move.isLeft + if s.cell.holder.isSome then 1 else 0
  kept : s.tally Move.isKept = if s.cell.kept.isSome then 1 else 0
  shows : ∀ caller ∈ s.callers, ∀ m ∈ caller.made, ∀ thing, m.Shows thing →
    s.cell.kept = some thing

theorem consistent_start : (start : Shared Call Answer κ α).Consistent where
  free _ h := by cases h
  present _ h := by cases h
  inside _ _ h := by cases h
  entered := rfl
  kept := rfl
  shows _ h := by cases h

/-- What is kept was put there by one of the callers. -/
theorem Consistent.exists_left (h : s.Consistent) {thing : κ} (hkept : s.cell.kept = some thing) :
    ∃ caller ∈ s.callers, Move.left (.ok thing) ∈ caller.made := by
  have htally : 0 < s.tally Move.isKept := by
    rw [h.kept, hkept]
    exact Nat.one_pos
  obtain ⟨caller, hcaller, m, hm, hkind⟩ := exists_of_tally_pos htally
  cases m with
  | left outcome =>
    cases outcome with
    | ok other =>
      have hother := h.shows caller hcaller _ hm other rfl
      obtain rfl : other = thing := Option.some.inj (hother.symm.trans hkept)
      exact ⟨caller, hcaller, hm⟩
    | error e => cases hkind
  | looked | found | entered | told | asked | answered => cases hkind

theorem Consistent.come (h : s.Consistent) (call : Call) (progress : Progress Answer κ α) :
    (⟨s.cell, s.callers ++ [⟨call, [], progress⟩]⟩ : Shared Call Answer κ α).Consistent where
  free := h.free
  present i hi := by
    rw [List.length_append]
    exact Nat.lt_add_right _ (h.present i hi)
  inside i caller hcaller := by
    -- The one inside was there before, so it is not the new one.
    rcases Nat.lt_or_ge i s.callers.length with hi | hi
    · rw [List.getElem?_append_left hi] at hcaller
      exact h.inside i caller hcaller
    · have hholder : s.cell.holder ≠ some i := fun hsome =>
        absurd (h.present i hsome) (Nat.not_lt.mpr hi)
      rw [List.getElem?_append_right hi] at hcaller
      obtain rfl := List.mem_singleton.mp (List.mem_of_getElem? hcaller)
      rw [if_neg hholder]
      rfl
  entered := by
    rw [tally_come, tally_come]
    exact h.entered
  kept := by
    rw [tally_come]
    exact h.kept
  shows caller hcaller m hm thing := by
    rcases List.mem_append.mp hcaller with hold | hnew
    · exact h.shows caller hold m hm thing
    · obtain rfl := List.mem_singleton.mp hnew
      cases hm

theorem Consistent.move (h : s.Consistent) {i : Nat} {caller : Caller Call Answer κ α}
    {m : Move Answer κ} {cell : Cell κ} (hcaller : s.callers[i]? = some caller)
    (hallows : s.cell.Allows i m cell) (progress : Progress Answer κ α) :
    (⟨cell, s.callers.set i (caller.after m progress)⟩ : Shared Call Answer κ α).Consistent where
  free thing := hallows.free h.free
  present j hj := by
    rw [List.length_set]
    by_cases hji : j = i
    · exact hji ▸ (List.getElem?_eq_some_iff.mp hcaller).1
    · exact h.present j ((hallows.holder_eq_of_ne hji).mp hj)
  inside j other hother := by
    by_cases hji : j = i
    · subst hji
      have hlt : j < s.callers.length := (List.getElem?_eq_some_iff.mp hcaller).1
      rw [List.getElem?_set_self hlt] at hother
      obtain rfl := Option.some.inj hother
      have hinside := hallows.inside
      have hbefore := h.inside j caller hcaller
      simp only [Caller.after, List.countP_append, List.countP_singleton]
      omega
    · rw [List.getElem?_set_ne (Ne.symm hji)] at hother
      simp only [hallows.holder_eq_of_ne hji]
      exact h.inside j other hother
  entered := by
    have hbefore := h.entered
    have hsome := hallows.holder_isSome
    rw [tally_move _ s.cell cell hcaller, tally_move _ s.cell cell hcaller]
    change s.tally Move.isEntered + _ =
      s.tally Move.isLeft + _ + if cell.holder.isSome then 1 else 0
    omega
  kept := by
    have hbefore := h.kept
    have hsome := hallows.kept_isSome h.free
    rw [tally_move _ s.cell cell hcaller]
    change s.tally Move.isKept + _ = if cell.kept.isSome then 1 else 0
    omega
  shows other hother n hn thing hshows := by
    rcases List.mem_or_eq_of_mem_set hother with hold | rfl
    · exact hallows.kept_mono h.free (h.shows other hold n hn thing hshows)
    · rcases List.mem_append.mp hn with hn | hn
      · exact hallows.kept_mono h.free
          (h.shows caller (List.mem_of_getElem? hcaller) n hn thing hshows)
      · obtain rfl := List.mem_singleton.mp hn
        exact hallows.kept_of_shows hshows

/-! ### Whole runs -/

theorem Step.consistent (h : Step routine s t) (hs : s.Consistent) : t.Consistent := by
  cases h with
  | come call => exact hs.come call _
  | move hcaller _ hallows => exact hs.move hcaller hallows _

theorem reachable_start : Reachable routine start := .refl

theorem Reachable.come (hs : Reachable routine s) (call : Call) : Reachable routine
    { s with callers := s.callers ++ [⟨call, [], .ready (routine call)⟩] } :=
  hs.tail (.come s call)

theorem Reachable.move (hs : Reachable routine s) {i : Nat} {caller : Caller Call Answer κ α}
    {m : Move Answer κ} {progress : Progress Answer κ α} {cell : Cell κ}
    (hcaller : s.callers[i]? = some caller) (hmoves : caller.progress.Moves m progress)
    (hallows : s.cell.Allows i m cell) :
    Reachable routine ⟨cell, s.callers.set i (caller.after m progress)⟩ :=
  hs.tail (.move hcaller hmoves hallows)

/-- The slot agrees with the steps of the callers. -/
theorem Reachable.consistent (h : Reachable routine s) : s.Consistent := by
  induction h with
  | refl => exact consistent_start
  | tail _ hstep ih => exact hstep.consistent ih

/-- Every caller makes the steps of its own routine. -/
theorem Reachable.leads (h : Reachable routine s) : ∀ caller ∈ s.callers,
    (Progress.ready (routine caller.call)).Leads caller.made caller.progress := by
  induction h with
  | refl => exact fun _ hcaller => (List.not_mem_nil hcaller).elim
  | tail _ hstep ih =>
    intro caller hcaller
    cases hstep with
    | come call =>
      rcases List.mem_append.mp hcaller with hold | hnew
      · exact ih caller hold
      · obtain rfl := List.mem_singleton.mp hnew
        exact .refl _
    | move hold hmoves _ =>
      rcases List.mem_or_eq_of_mem_set hcaller with hsame | rfl
      · exact ih caller hsame
      · exact (ih _ (List.mem_of_getElem? hold)).concat hmoves

/-- What is kept stays. -/
theorem kept_of_steps (hs : Reachable routine s) (h : Relation.ReflTransGen (Step routine) s t)
    {thing : κ} (hkept : s.cell.kept = some thing) : t.cell.kept = some thing := by
  induction h with
  | refl => exact hkept
  | tail hbefore hstep ih =>
    cases hstep with
    | come => exact ih
    | move _ _ hallows =>
      exact hallows.kept_mono (Reachable.consistent (hs.trans hbefore)).free ih

/-- A caller whose routine begins by looking sees what is kept when it makes its first step. -/
theorem Reachable.looked_of_first_step (hs : Reachable routine s) (hstep : Step routine s t)
    {i : Nat} {caller after : Caller Call Answer κ α} (hcaller : s.callers[i]? = some caller)
    (hafter : t.callers[i]? = some after) (hnew : caller.made = []) (hmade : after.made ≠ [])
    {next : Option κ → Routine Answer κ α} (hlooks : routine caller.call = .look next) :
    after.made = [.looked s.cell.kept] ∧ after.progress = .ready (next s.cell.kept) := by
  have hlt : i < s.callers.length := (List.getElem?_eq_some_iff.mp hcaller).1
  cases hstep with
  | come call =>
    rw [List.getElem?_append_left hlt, hcaller] at hafter
    obtain rfl := Option.some.inj hafter
    exact absurd hnew hmade
  | @move j other _ _ _ hother hmoves hallows =>
    by_cases hji : j = i
    · subst hji
      rw [List.getElem?_set_self hlt] at hafter
      obtain rfl := Option.some.inj hafter
      obtain rfl : caller = other := Option.some.inj (hcaller.symm.trans hother)
      -- Without a step so far, the caller is still at the beginning of its routine.
      have hleads := hs.leads caller (List.mem_of_getElem? hcaller)
      obtain ⟨call, made, point⟩ := caller
      obtain rfl : made = [] := hnew
      rw [hlooks] at hleads
      cases hleads
      cases hmoves
      cases hallows
      exact ⟨rfl, rfl⟩
    · rw [List.getElem?_set_ne hji, hcaller] at hafter
      obtain rfl := Option.some.inj hafter
      exact absurd hnew hmade

end Shared

end Sandbox
