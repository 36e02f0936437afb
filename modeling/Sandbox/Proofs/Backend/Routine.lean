import Sandbox.Backend.Basic
import Sandbox.Backend.Slot

/-!
# Calls of a backend, step by step

What a backend does for a call is written as a routine of single steps on the slot in which the
backend keeps what it needs, on the log, and on those outside who are asked. Performed without
interruption in one world, a routine is what the backend does; its steps may also be interleaved
with those of other calls.

To obtain what is kept in a slot, a call enters the slot. It finds what is kept, or it is the one to
make it, and leaves the slot with what it made or with a failure.

## Main definitions

* `Routine` : the steps of a call.
* `Routine.perform` : all steps, in one world.
* `Routine.obtain` : what is kept in the slot, or else what is made.
* `Progress`, `Move` : how far a call is, and a single step.
* `Progress.Leads` : the steps from one point to another.

## Main results

* `Routine.perform_obtain` : obtaining, performed without interruption.
* `Progress.Leads.bind_cases`, `Progress.Leads.obtain_cases` : the steps of composed routines.
-/

namespace Sandbox

variable {Query : Type}

/-- The steps of a call that ends with a value of type `α`. Queries are answered from outside, and
`κ` is what is kept in the slot. -/
inductive Routine (Answer : Query → Type) (κ α : Type) where
  /-- Nothing more to do. -/
  | done (result : α)
  /-- Asks someone outside, and waits for the answer. -/
  | ask (query : Query) (next : Answer query → Routine Answer κ α)
  /-- Logs events. -/
  | tell (events : Log) (next : Routine Answer κ α)
  /-- Looks at what is kept. -/
  | look (next : Option κ → Routine Answer κ α)
  /-- Enters the slot: finds what is kept, or else is the one to make it. -/
  | enter (next : Option κ → Routine Answer κ α)
  /-- Leaves the slot with what was made, or with a failure. -/
  | leave (outcome : Except LoadError κ) (next : Routine Answer κ α)

namespace Routine

variable {Answer : Query → Type} {κ α β : Type}

/-- A routine, and what follows for its result. -/
def bind : Routine Answer κ α → (α → Routine Answer κ β) → Routine Answer κ β
  | done result, f => f result
  | ask query next, f => ask query fun answer => (next answer).bind f
  | tell events next, f => tell events (next.bind f)
  | look next, f => look fun kept => (next kept).bind f
  | enter next, f => enter fun kept => (next kept).bind f
  | leave outcome next, f => leave outcome (next.bind f)

/-- What is kept in the slot, or else what `make` makes, and what follows for that. -/
def obtain (make : Routine Answer κ (Except LoadError κ))
    (next : Except LoadError κ → Routine Answer κ α) : Routine Answer κ α :=
  enter fun
    | some thing => next (.ok thing)
    | none => make.bind fun outcome => leave outcome (next outcome)

/-! ### Without interruption -/

section Perform

variable {W : Type} [Logging W] (slot : Slot W κ)
  (reply : (query : Query) → StateM W (Answer query))

/-- Performs all steps in one world, where `reply` answers the queries. -/
def perform : Routine Answer κ α → StateM W α
  | done result => return result
  | ask query next => do (next (← reply query)).perform
  | tell events next => do
    record events
    next.perform
  | look next => do (next (slot.kept (← get))).perform
  | enter next => do (next (slot.kept (← get))).perform
  | leave (.ok thing) next => do
    modify (slot.keep thing)
    next.perform
  | leave (.error _) next => next.perform

theorem perform_bind (routine : Routine Answer κ α) (f : α → Routine Answer κ β) :
    (routine.bind f).perform slot reply =
      routine.perform slot reply >>= fun result => (f result).perform slot reply := by
  induction routine with
  | done result => rw [bind, perform, pure_bind]
  | ask query next ih => simp only [bind, perform, bind_assoc, ih]
  | tell events next ih => simp only [bind, perform, bind_assoc, ih]
  | look next ih => simp only [bind, perform, bind_assoc, ih]
  | enter next ih => simp only [bind, perform, bind_assoc, ih]
  | leave outcome next ih =>
    cases outcome with
    | ok thing => simp only [bind, perform, bind_assoc, ih]
    | error e => simp only [bind, perform, ih]

/-- Without interruption, to obtain is to take what is kept or else to make and to keep it. -/
theorem perform_obtain (make : Routine Answer κ (Except LoadError κ))
    (next : Except LoadError κ → Routine Answer κ α) :
    (obtain make next).perform slot reply =
      slot.obtain (make.perform slot reply) >>= fun outcome =>
        (next outcome).perform slot reply := by
  refine StateT.ext fun w => ?_
  rw [StateT.run_bind]
  cases hkept : slot.kept w with
  | some thing =>
    rw [slot.obtain_of_some hkept]
    simp only [obtain, perform, StateT.run_bind, StateT.run_get, pure_bind, hkept]
    rfl
  | none =>
    have hmake : ((obtain make next).perform slot reply).run w =
        ((make.perform slot reply).run w >>= fun ran =>
          ((leave ran.1 (next ran.1)).perform slot reply).run ran.2) := by
      simp only [obtain, perform, StateT.run_bind, StateT.run_get, pure_bind, hkept, perform_bind]
    rw [hmake]
    cases hran : (make.perform slot reply).run w with
    | mk outcome after =>
      cases outcome with
      | ok thing =>
        rw [slot.obtain_ok hkept hran]
        rfl
      | error e =>
        rw [slot.obtain_error hkept hran]
        rfl

end Perform

end Routine

/-! ### Step by step -/

/-- How far a call is. -/
inductive Progress (Answer : Query → Type) (κ α : Type) where
  /-- It can go on. -/
  | ready (rest : Routine Answer κ α)
  /-- It waits for an answer. -/
  | awaiting (query : Query) (next : Answer query → Routine Answer κ α)

/-- A single step of a call. -/
inductive Move (Answer : Query → Type) (κ : Type) where
  /-- It looked, and saw what is kept. -/
  | looked (kept : Option κ)
  /-- It came to the slot, and found what is kept. -/
  | found (thing : κ)
  /-- It came to the slot, and is the one to make what is to be kept. -/
  | entered
  /-- It left the slot. -/
  | left (outcome : Except LoadError κ)
  /-- It logged events. -/
  | told (events : Log)
  /-- It asked a query. -/
  | asked (query : Query)
  /-- A query of it was answered. -/
  | answered (query : Query) (answer : Answer query)

namespace Progress

variable {Answer : Query → Type} {κ α β : Type}

/-- A call at one point can get to another one by a step. -/
inductive Moves : Progress Answer κ α → Move Answer κ → Progress Answer κ α → Prop
  | look (next : Option κ → Routine Answer κ α) (kept : Option κ) :
    Moves (ready (.look next)) (.looked kept) (ready (next kept))
  | find (next : Option κ → Routine Answer κ α) (thing : κ) :
    Moves (ready (.enter next)) (.found thing) (ready (next (some thing)))
  | enter (next : Option κ → Routine Answer κ α) :
    Moves (ready (.enter next)) .entered (ready (next none))
  | leave (outcome : Except LoadError κ) (next : Routine Answer κ α) :
    Moves (ready (.leave outcome next)) (.left outcome) (ready next)
  | tell (events : Log) (next : Routine Answer κ α) :
    Moves (ready (.tell events next)) (.told events) (ready next)
  | ask (query : Query) (next : Answer query → Routine Answer κ α) :
    Moves (ready (.ask query next)) (.asked query) (awaiting query next)
  | answer (query : Query) (next : Answer query → Routine Answer κ α) (answer : Answer query) :
    Moves (awaiting query next) (.answered query answer) (ready (next answer))

/-- Steps lead from one point of a call to another one. -/
inductive Leads : Progress Answer κ α → List (Move Answer κ) → Progress Answer κ α → Prop
  | refl (p : Progress Answer κ α) : Leads p [] p
  | cons {p q r : Progress Answer κ α} {m : Move Answer κ} {made : List (Move Answer κ)}
    (first : p.Moves m q) (rest : Leads q made r) : Leads p (m :: made) r

variable {p q r : Progress Answer κ α} {m : Move Answer κ} {made : List (Move Answer κ)}

theorem Leads.concat (h : p.Leads made q) (hlast : q.Moves m r) : p.Leads (made ++ [m]) r := by
  induction h with
  | refl p => exact .cons hlast (.refl r)
  | cons first _ ih => exact .cons first (ih hlast)

/-! ### The steps of each kind of routine -/

theorem Leads.done_cases {result : α} (h : (ready (.done result)).Leads made p) :
    made = [] ∧ p = ready (.done result) := by
  cases h with
  | refl => exact ⟨rfl, rfl⟩
  | cons first => cases first

theorem Leads.ask_cases {query : Query} {next : Answer query → Routine Answer κ α}
    (h : (ready (.ask query next)).Leads made p) :
    (made = [] ∧ p = ready (.ask query next)) ∨ (made = [.asked query] ∧ p = awaiting query next) ∨
      ∃ answer rest, made = .asked query :: .answered query answer :: rest ∧
        (ready (next answer)).Leads rest p := by
  cases h with
  | refl => exact .inl ⟨rfl, rfl⟩
  | cons first rest =>
    cases first
    cases rest with
    | refl => exact .inr (.inl ⟨rfl, rfl⟩)
    | cons first rest =>
      cases first with
      | answer _ _ answer => exact .inr (.inr ⟨answer, _, rfl, rest⟩)

theorem Leads.tell_cases {events : Log} {next : Routine Answer κ α}
    (h : (ready (.tell events next)).Leads made p) :
    (made = [] ∧ p = ready (.tell events next)) ∨
      ∃ rest, made = .told events :: rest ∧ (ready next).Leads rest p := by
  cases h with
  | refl => exact .inl ⟨rfl, rfl⟩
  | cons first rest =>
    cases first
    exact .inr ⟨_, rfl, rest⟩

theorem Leads.look_cases {next : Option κ → Routine Answer κ α}
    (h : (ready (.look next)).Leads made p) :
    (made = [] ∧ p = ready (.look next)) ∨
      ∃ kept rest, made = .looked kept :: rest ∧ (ready (next kept)).Leads rest p := by
  cases h with
  | refl => exact .inl ⟨rfl, rfl⟩
  | cons first rest =>
    cases first with
    | look _ kept => exact .inr ⟨kept, _, rfl, rest⟩

/-! ### The steps of composed routines -/

/-- The point of a call in which another routine follows. -/
def bind (f : α → Routine Answer κ β) : Progress Answer κ α → Progress Answer κ β
  | ready rest => ready (rest.bind f)
  | awaiting query next => awaiting query fun answer => (next answer).bind f

/-- A step of a composed routine is a step of its first part, unless that is done. -/
theorem Moves.bind_cases {f : α → Routine Answer κ β} {p' : Progress Answer κ β}
    (h : (p.bind f).Moves m p') :
    (∃ result, p = ready (.done result)) ∨ ∃ q, p.Moves m q ∧ p' = q.bind f := by
  cases p with
  | ready rest =>
    cases rest with
    | done result => exact .inl ⟨result, rfl⟩
    | ask query next =>
      cases h
      exact .inr ⟨_, .ask query next, rfl⟩
    | tell events next =>
      cases h
      exact .inr ⟨_, .tell events next, rfl⟩
    | look next =>
      cases h with
      | look _ kept => exact .inr ⟨_, .look next kept, rfl⟩
    | enter next =>
      cases h with
      | find _ thing => exact .inr ⟨_, .find next thing, rfl⟩
      | enter => exact .inr ⟨_, .enter next, rfl⟩
    | leave outcome next =>
      cases h
      exact .inr ⟨_, .leave outcome next, rfl⟩
  | awaiting query next =>
    cases h with
    | answer _ _ answer => exact .inr ⟨_, .answer query next answer, rfl⟩

/-- The steps of a composed routine are steps of its first part, or all steps of the first part and
then steps of the second one. -/
theorem Leads.bind_cases {f : α → Routine Answer κ β} {p' : Progress Answer κ β}
    (h : (p.bind f).Leads made p') :
    (∃ q, p.Leads made q ∧ p' = q.bind f) ∨
      ∃ first result rest, made = first ++ rest ∧ p.Leads first (ready (.done result)) ∧
        (ready (f result)).Leads rest p' := by
  -- By induction on the steps, since the point at which the first part is done is not known.
  induction made generalizing p with
  | nil =>
    cases h
    exact .inl ⟨p, .refl p, rfl⟩
  | cons m made ih =>
    have hall := h
    cases h with
    | cons hfirst hrest =>
      rcases hfirst.bind_cases with ⟨result, rfl⟩ | ⟨q, hmoves, rfl⟩
      · exact .inr ⟨[], result, m :: made, rfl, .refl _, hall⟩
      · rcases ih hrest with ⟨r, hr, hp⟩ | ⟨first, result, rest, rfl, hleads, hafter⟩
        · exact .inl ⟨r, .cons hmoves hr, hp⟩
        · exact .inr ⟨m :: first, result, rest, rfl, .cons hmoves hleads, hafter⟩

/-- A call that obtains what is kept has not come to the slot, or has found what is kept, or is
making it, or has made it and left the slot. -/
theorem Leads.obtain_cases {make : Routine Answer κ (Except LoadError κ)}
    {next : Except LoadError κ → Routine Answer κ α}
    (h : (ready (.obtain make next)).Leads made p) :
    (made = [] ∧ p = ready (.obtain make next)) ∨
    (∃ thing rest, made = .found thing :: rest ∧ (ready (next (.ok thing))).Leads rest p) ∨
    (∃ making q, made = .entered :: making ∧ (ready make).Leads making q ∧
      p = q.bind fun outcome => .leave outcome (next outcome)) ∨
    ∃ making outcome rest, made = .entered :: (making ++ .left outcome :: rest) ∧
      (ready make).Leads making (ready (.done outcome)) ∧ (ready (next outcome)).Leads rest p := by
  cases h with
  | refl => exact .inl ⟨rfl, rfl⟩
  | cons first rest =>
    cases first with
    | find _ thing => exact .inr (.inl ⟨thing, _, rfl, rest⟩)
    | enter =>
      have hrest : ((ready make).bind fun outcome =>
        .leave outcome (next outcome)).Leads _ p := rest
      rcases hrest.bind_cases with ⟨q, hq, rfl⟩ | ⟨making, outcome, after, rfl, hmaking, hafter⟩
      · exact .inr (.inr (.inl ⟨_, q, rfl, hq, rfl⟩))
      · cases hafter with
        | refl =>
          rw [List.append_nil]
          exact .inr (.inr (.inl ⟨making, ready (.done outcome), rfl, hmaking, rfl⟩))
        | cons hleft hrest =>
          cases hleft
          exact .inr (.inr (.inr ⟨making, outcome, _, rfl, hmaking, hrest⟩))

end Progress

end Sandbox
