import Sandbox.Compiled.Basic
import Sandbox.Proofs.Backend.Interleaving

/-!
# The shared compiler

The backends for C and C++ share one compiler. Any number of loads, runs and questions whether the
compiler is ready may come through either handle, with their steps interleaved in any way, and the
compiler may fail to be provided any number of times.

## Main definitions

* `routine` : the steps of a call.
* `Accounts` : what the steps of a caller have to do with how far it is.
* `queries`, `hasFailedToLoad`, `AwaitsCompiler`, `IsQuiescent` : what is observed of callers.

## Main results

* `perform_routine` : without interruption, the steps of a call are what the backend does.
* `leads_run`, `accounts` : what the steps of each call are.
* `tally_isProvided_le`, `tally_isProvide_eq` : how often the compiler is provided and asked for.
* `shared_calls` : calls through both handles.
-/

namespace Sandbox.Compiled

variable {κ : Type}

/-- What a backend asks those outside. -/
inductive Query (κ : Type) where
  /-- To provide the compiler. -/
  | provide
  /-- To compile a program. -/
  | compile (compiler : κ) (request : Request)

/-- The answers to a query. -/
abbrev Query.Answer : Query κ → Type
  | provide => Except LoadError κ
  | compile _ _ => Except RunError Compilation

/-- A call through one of the handles. -/
inductive Call where
  /-- Makes the compiler ready. -/
  | load (handle : Dialect)
  /-- Runs a submission. -/
  | run (handle : Dialect) (submission : Submission)
  /-- Asks whether the compiler is ready. -/
  | isLoaded (handle : Dialect)

/-- What a call returns. -/
inductive Reply where
  /-- Whether loading failed, and why. -/
  | loaded (outcome : Except LoadError Unit)
  /-- The result of a run. -/
  | ran (result : RunResult)
  /-- Whether the compiler is ready. -/
  | isLoaded (loaded : Bool)

/-- Whether it says that loading failed. -/
def Reply.isFailedLoad : Reply → Bool
  | loaded (.error _) => true
  | _ => false

/-- The steps in which the compiler is made ready. -/
def making : Routine (Query.Answer (κ := κ)) κ (Except LoadError κ) :=
  .tell [⟨.info, target, "Loading C/C++ compiler"⟩] (.ask .provide fun
    | .ok compiler => .done (.ok compiler)
    | .error e =>
      .tell [⟨.error, target, "Failed to load C/C++ compiler: " ++ e.message⟩] (.done (.error e)))

/-- The steps of a call. -/
def routine (policy : Guest.ImportPolicy) : Call → Routine (Query.Answer (κ := κ)) κ Reply
  | .load _ => .obtain making fun outcome => .done (.loaded (outcome.map fun _ => ()))
  | .run handle submission =>
    .look fun
      | none => .done (.ran ((RunError.notLoaded "Compiler not loaded").toResult []))
      | some compiler =>
        .ask (.compile compiler ⟨submission.translationUnit, handle⟩) fun answer =>
          .tell (report policy handle answer).2 (.done (.ran (report policy handle answer).1))
  | .isLoaded _ => .look fun kept => .done (.isLoaded kept.isSome)

/-- Who answers the queries in a world. -/
def Toolchain.reply {W : Type} (toolchain : Toolchain W κ) :
    (query : Query κ) → StateM W query.Answer
  | .provide => toolchain.provide
  | .compile compiler request => toolchain.compile compiler request

section Perform

variable {W : Type} [Logging W] (toolchain : Toolchain W κ)

theorem perform_making : making.perform toolchain.slot toolchain.reply = do
    say .info target "Loading C/C++ compiler"
    let outcome ← toolchain.provide
    if let .error e := outcome then
      say .error target ("Failed to load C/C++ compiler: " ++ e.message)
    return outcome := by
  simp only [making, Routine.perform, Toolchain.reply, say]
  congr
  funext _
  congr
  funext outcome
  cases outcome <;> rfl

/-- Without interruption, the steps of a call are what the backend does. -/
theorem perform_routine (policy : Guest.ImportPolicy) (call : Call) :
    (routine policy call).perform toolchain.slot toolchain.reply =
      match call with
      | .load handle => Reply.loaded <$> (backend toolchain policy handle).load
      | .run handle submission => Reply.ran <$> (backend toolchain policy handle).run submission
      | .isLoaded handle => do
        return Reply.isLoaded ((backend toolchain policy handle).isLoaded (← get)) := by
  cases call with
  | load handle =>
    simp only [routine, Routine.perform_obtain, perform_making, backend, load]
    rfl
  | run handle submission =>
    simp only [routine, Routine.perform, backend, run, map_bind]
    congr
    funext w
    cases toolchain.slot.kept w <;> rfl
  | isLoaded handle => rfl

end Perform

/-! ### The steps of a caller -/

/-- Whether the compiler is asked to be provided. -/
def isProvide : Move (Query.Answer (κ := κ)) κ → Bool
  | .asked .provide => true
  | _ => false

/-- Whether the compiler is provided. -/
def isProvided : Move (Query.Answer (κ := κ)) κ → Bool
  | .answered .provide (.ok _) => true
  | _ => false

/-- Whether a step leaves the slot as it is and has nothing to do with providing the compiler. -/
def isIdle : Move (Query.Answer (κ := κ)) κ → Bool
  | .looked _ | .found _ | .told _ | .asked (.compile _ _) | .answered (.compile _ _) _ => true
  | _ => false

theorem isIdle_cases {m : Move (Query.Answer (κ := κ)) κ} (h : isIdle m = true) :
    m.isLeft = false ∧ m.isKept = false ∧ isProvide m = false ∧ isProvided m = false := by
  cases m with
  | looked | found | told => exact ⟨rfl, rfl, rfl, rfl⟩
  | entered | left => cases h
  | asked query =>
    cases query with
    | provide => cases h
    | compile => exact ⟨rfl, rfl, rfl, rfl⟩
  | answered query answer =>
    cases query with
    | provide => cases h
    | compile => exact ⟨rfl, rfl, rfl, rfl⟩

/-- The query of a step. -/
def query? : Move (Query.Answer (κ := κ)) κ → Option (Query κ)
  | .asked query => some query
  | _ => none

section Leads

variable {policy : Guest.ImportPolicy} {made : List (Move (Query.Answer (κ := κ)) κ)}

/-- The compiler is asked for once, and the slot is not touched meanwhile. -/
theorem leads_making {q : Progress Query.Answer κ (Except LoadError κ)}
    (h : (Progress.ready making).Leads made q) :
    made.countP Move.isEntered = 0 ∧ made.countP Move.isLeft = 0 ∧ made.countP Move.isKept = 0 ∧
      made.countP isProvided ≤ 1 ∧
      ∀ outcome, q = .ready (.done outcome) →
        made.countP isProvide = 1 ∧
          made.countP isProvided = (if outcome.toBool then 1 else 0) ∧
            .answered .provide outcome ∈ made := by
  rcases h.tell_cases with ⟨rfl, rfl⟩ | ⟨rest, rfl, hask⟩
  · exact ⟨rfl, rfl, rfl, Nat.zero_le 1, nofun⟩
  rcases hask.ask_cases with ⟨rfl, rfl⟩ | ⟨rfl, rfl⟩ | ⟨outcome, rest, rfl, hrest⟩
  · exact ⟨rfl, rfl, rfl, Nat.zero_le 1, nofun⟩
  · exact ⟨rfl, rfl, rfl, Nat.zero_le 1, nofun⟩
  cases outcome with
  | ok compiler =>
    obtain ⟨rfl, rfl⟩ := hrest.done_cases
    refine ⟨rfl, rfl, rfl, Nat.le_refl 1, fun outcome houtcome => ?_⟩
    cases houtcome
    exact ⟨rfl, rfl, by simp⟩
  | error e =>
    rcases hrest.tell_cases with ⟨rfl, rfl⟩ | ⟨rest, rfl, hdone⟩
    · exact ⟨rfl, rfl, rfl, Nat.zero_le 1, nofun⟩
    obtain ⟨rfl, rfl⟩ := hdone.done_cases
    refine ⟨rfl, rfl, rfl, Nat.zero_le 1, fun outcome houtcome => ?_⟩
    cases houtcome
    exact ⟨rfl, rfl, by simp⟩

/-- What the steps of a caller have to do with how far it is. It is provided with the compiler
before it leaves the slot, and is inside the slot while it waits for the compiler. When it is done
it has asked for the compiler once if it put it there or failed to load. It puts nothing there but
what it was provided with. -/
structure Accounts (made : List (Move (Query.Answer (κ := κ)) κ))
    (p : Progress (Query.Answer (κ := κ)) κ Reply) : Prop where
  provided : made.countP isProvided + made.countP Move.isLeft ≤
    made.countP Move.isKept + made.countP Move.isEntered
  inside : ∀ next, p = .awaiting .provide next →
    made.countP Move.isEntered = made.countP Move.isLeft + 1
  provide : ∀ reply, p = .ready (.done reply) →
    made.countP isProvide = made.countP Move.isKept + if reply.isFailedLoad then 1 else 0
  origin : ∀ compiler, Move.left (.ok compiler) ∈ made →
    Move.answered .provide (.ok compiler) ∈ made

/-- A caller that leaves the slot as it is and asks for no compiler has nothing to account for. -/
theorem Accounts.of_idle {p : Progress Query.Answer κ Reply} (hmade : made.all isIdle = true)
    (hawaiting : ∀ next, p ≠ .awaiting .provide next)
    (hdone : ∀ reply, p = .ready (.done reply) → reply.isFailedLoad = false) :
    Accounts made p := by
  have hidle : ∀ m ∈ made, isIdle m = true := List.all_eq_true.mp hmade
  have hnone {kind : Move Query.Answer κ → Bool} (h : ∀ m, isIdle m = true → kind m = false) :
      made.countP kind = 0 :=
    List.countP_eq_zero.mpr fun m hm => by rw [h m (hidle m hm)]; exact Bool.false_ne_true
  have hleft := hnone fun m hm => (isIdle_cases hm).1
  have hkept := hnone fun m hm => (isIdle_cases hm).2.1
  have hprovide := hnone fun m hm => (isIdle_cases hm).2.2.1
  have hprovided := hnone fun m hm => (isIdle_cases hm).2.2.2
  refine ⟨by omega, fun next hp => absurd hp (hawaiting next), fun reply hp => ?_, ?_⟩
  · rw [hprovide, hkept, hdone reply hp]
    rfl
  · exact fun compiler hm => by cases (isIdle_cases (hidle _ hm)).1

theorem accounts_load {handle : Dialect} {p : Progress Query.Answer κ Reply}
    (h : (Progress.ready (routine policy (.load handle))).Leads made p) : Accounts made p := by
  simp only [routine] at h
  rcases h.obtain_cases with ⟨rfl, rfl⟩ | ⟨compiler, rest, rfl, hdone⟩ |
    ⟨steps, q, rfl, hmaking, rfl⟩ | ⟨steps, outcome, rest, rfl, hmaking, hdone⟩
  · exact .of_idle rfl nofun nofun
  · obtain ⟨rfl, rfl⟩ := hdone.done_cases
    refine .of_idle rfl nofun fun reply hreply => ?_
    cases hreply
    rfl
  · obtain ⟨hentered, hleft, hkept, hprovided, -⟩ := leads_making hmaking
    constructor
    · simpa [List.countP_cons, hleft, hkept, hentered, isProvided, Move.isEntered, Move.isLeft,
        Move.isKept] using hprovided
    · simp [List.countP_cons, hleft, hentered, Move.isEntered, Move.isLeft]
    · intro reply hreply
      cases q with
      | ready rest => cases rest <;> cases hreply
      | awaiting => cases hreply
    · intro compiler hm
      have hsteps : Move.left (.ok compiler) ∈ steps := by simpa using hm
      exact absurd rfl (List.countP_eq_zero.mp hleft _ hsteps)
  · obtain ⟨hentered, hleft, hkept, -, hfinished⟩ := leads_making hmaking
    obtain ⟨hprovide, hprovided, hanswered⟩ := hfinished outcome rfl
    obtain ⟨rfl, rfl⟩ := hdone.done_cases
    constructor
    · simp only [List.countP_cons, List.countP_append, List.countP_nil, hentered, hleft, hkept,
        hprovided]
      cases outcome <;> exact Nat.le_refl _
    · intro next hawaiting
      cases hawaiting
    · intro reply hreply
      cases hreply
      simp only [List.countP_cons, List.countP_append, List.countP_nil, hkept, hprovide]
      cases outcome <;> rfl
    · intro compiler hm
      have hrest : Move.left (.ok compiler) ∈ steps ++ [.left outcome] := by simpa using hm
      rcases List.mem_append.mp hrest with hsteps | hlast
      · exact absurd rfl (List.countP_eq_zero.mp hleft _ hsteps)
      · obtain rfl := Move.left.inj (List.mem_singleton.mp hlast)
        exact List.mem_cons_of_mem _ (List.mem_append_left _ hanswered)

/-- What a run does: it looks for the compiler. If there is none it is done, and otherwise it has
one program compiled. -/
theorem leads_run {handle : Dialect} {submission : Submission} {p : Progress Query.Answer κ Reply}
    (h : (Progress.ready (routine policy (.run handle submission))).Leads made p) :
    Accounts made p ∧
    ((made = [] ∧ p = .ready (routine policy (.run handle submission))) ∨
      (made = [.looked none] ∧
        p = .ready (.done (.ran (.failed [] "Compiler not loaded" .load)))) ∨
      ∃ compiler rest, made = .looked (some compiler) :: rest ∧
        let queries := [Query.compile compiler ⟨submission.translationUnit, handle⟩]
        (rest.filterMap query? = [] ∨ rest.filterMap query? = queries) ∧
          ∀ reply, p = .ready (.done reply) → rest.filterMap query? = queries) := by
  simp only [routine] at h
  rcases h.look_cases with ⟨rfl, rfl⟩ | ⟨_ | compiler, rest, rfl, hrest⟩
  · exact ⟨.of_idle rfl nofun nofun, .inl ⟨rfl, rfl⟩⟩
  · obtain ⟨rfl, rfl⟩ := hrest.done_cases
    refine ⟨.of_idle rfl nofun fun reply hreply => ?_, .inr (.inl ⟨rfl, rfl⟩)⟩
    cases hreply
    rfl
  · rcases hrest.ask_cases with ⟨rfl, rfl⟩ | ⟨rfl, rfl⟩ | ⟨answer, rest, rfl, htell⟩
    · exact ⟨.of_idle rfl nofun nofun, .inr (.inr ⟨compiler, _, rfl, .inl rfl, nofun⟩)⟩
    · exact ⟨.of_idle rfl nofun nofun, .inr (.inr ⟨compiler, _, rfl, .inr rfl, nofun⟩)⟩
    · rcases htell.tell_cases with ⟨rfl, rfl⟩ | ⟨rest, rfl, hdone⟩
      · exact ⟨.of_idle rfl nofun nofun, .inr (.inr ⟨compiler, _, rfl, .inr rfl, nofun⟩)⟩
      · obtain ⟨rfl, rfl⟩ := hdone.done_cases
        refine ⟨.of_idle rfl nofun fun reply hreply => ?_,
          .inr (.inr ⟨compiler, _, rfl, .inr rfl, fun _ _ => rfl⟩)⟩
        cases hreply
        rfl

/-- What the question does whether the compiler is ready: it looks. -/
theorem leads_isLoaded {handle : Dialect} {p : Progress Query.Answer κ Reply}
    (h : (Progress.ready (routine policy (.isLoaded handle))).Leads made p) :
    Accounts made p ∧
    ((made = [] ∧ p = .ready (routine policy (.isLoaded handle))) ∨
      ∃ kept, made = [.looked kept] ∧ p = .ready (.done (.isLoaded kept.isSome))) := by
  simp only [routine] at h
  rcases h.look_cases with ⟨rfl, rfl⟩ | ⟨kept, rest, rfl, hrest⟩
  · exact ⟨.of_idle rfl nofun nofun, .inl ⟨rfl, rfl⟩⟩
  · obtain ⟨rfl, rfl⟩ := hrest.done_cases
    refine ⟨.of_idle rfl nofun fun reply hreply => ?_, .inr ⟨kept, rfl, rfl⟩⟩
    cases hreply
    rfl

theorem accounts {call : Call} {p : Progress Query.Answer κ Reply}
    (h : (Progress.ready (routine policy call)).Leads made p) : Accounts made p := by
  cases call with
  | load handle => exact accounts_load h
  | run handle submission => exact (leads_run h).1
  | isLoaded handle => exact (leads_isLoaded h).1

end Leads

/-! ### All callers -/

/-- The queries that a caller has asked. -/
def queries {α : Type} (caller : Caller Call (Query.Answer (κ := κ)) κ α) : List (Query κ) :=
  caller.made.filterMap query?

/-- Whether a caller is told that loading failed. -/
def hasFailedToLoad (caller : Caller Call (Query.Answer (κ := κ)) κ Reply) : Bool :=
  match caller.progress with
  | .ready (.done reply) => reply.isFailedLoad
  | _ => false

/-- A caller waits for the compiler to be provided. -/
def AwaitsCompiler (caller : Caller Call (Query.Answer (κ := κ)) κ Reply) : Prop :=
  ∃ next, caller.progress = .awaiting .provide next

/-- All callers are done. -/
def IsQuiescent (s : Shared Call (Query.Answer (κ := κ)) κ Reply) : Prop :=
  ∀ caller ∈ s.callers, ∃ reply, caller.progress = .ready (.done reply)

section Reachable

variable {policy : Guest.ImportPolicy} {s : Shared Call (Query.Answer (κ := κ)) κ Reply}

/-- Whoever waits for the compiler is inside the slot. -/
theorem holder_of_awaitsCompiler (hs : s.Reachable (routine policy)) {i : Nat}
    {caller : Caller Call Query.Answer κ Reply} (hcaller : s.callers[i]? = some caller)
    (hawaits : AwaitsCompiler caller) : s.cell.holder = some i := by
  obtain ⟨next, hawaiting⟩ := hawaits
  have hinside := hs.consistent.inside i caller hcaller
  have hsteps := (accounts (hs.leads caller (List.mem_of_getElem? hcaller))).inside next hawaiting
  by_contra hne
  rw [if_neg hne] at hinside
  omega

/-- The compiler is provided once at most. -/
theorem tally_isProvided_le (hs : s.Reachable (routine policy)) : s.tally isProvided ≤ 1 := by
  have hprovided : s.tally isProvided + s.tally Move.isLeft ≤
      s.tally Move.isKept + s.tally Move.isEntered :=
    Shared.tally_add_le fun caller hcaller => (accounts (hs.leads caller hcaller)).provided
  have hentered := hs.consistent.entered
  have hkept := hs.consistent.kept
  -- Whoever is inside may have been provided with the compiler, but then nothing is kept yet.
  cases hcell : s.cell.kept with
  | none =>
    rw [hcell] at hkept
    have hkept' : s.tally Move.isKept = 0 := hkept
    split at hentered <;> omega
  | some compiler =>
    rw [hcell] at hkept
    rw [hs.consistent.free compiler hcell] at hentered
    have hkept' : s.tally Move.isKept = 1 := hkept
    have hentered' : s.tally Move.isEntered = s.tally Move.isLeft := hentered
    omega

/-- The compiler that is kept was provided to one of the callers. -/
theorem provided_of_kept (hs : s.Reachable (routine policy)) {compiler : κ}
    (hkept : s.cell.kept = some compiler) :
    ∃ caller ∈ s.callers, .answered .provide (.ok compiler) ∈ caller.made := by
  obtain ⟨caller, hcaller, hleft⟩ := hs.consistent.exists_left hkept
  exact ⟨caller, hcaller, (accounts (hs.leads caller hcaller)).origin compiler hleft⟩

/-- When all callers are done, the compiler was asked for once for every failed load, and once more
if it is there. -/
theorem tally_isProvide_eq (hs : s.Reachable (routine policy)) (hquiet : IsQuiescent s) :
    s.tally isProvide = s.callers.countP hasFailedToLoad + if s.cell.kept.isSome then 1 else 0 := by
  have hall : s.tally isProvide = s.tally Move.isKept + s.callers.countP hasFailedToLoad := by
    refine Shared.tally_eq_add_countP fun caller hcaller => ?_
    obtain ⟨reply, hreply⟩ := hquiet caller hcaller
    rw [(accounts (hs.leads caller hcaller)).provide reply hreply, hasFailedToLoad, hreply]
  rw [hall, hs.consistent.kept, Nat.add_comm]

/-- A run that finds no compiler asks nothing and says so; any other run that is done has had its
own program compiled by the one compiler that there is. No run asks for a compiler. -/
theorem queries_run (hs : s.Reachable (routine policy))
    {caller : Caller Call Query.Answer κ Reply} (hcaller : caller ∈ s.callers) {handle : Dialect}
    {submission : Submission} (hcall : caller.call = .run handle submission) :
    (∀ query ∈ queries caller, query ≠ .provide) ∧
    (caller.made.head? = some (.looked none) → queries caller = [] ∧
      caller.progress = .ready (.done (.ran (.failed [] "Compiler not loaded" .load)))) ∧
    (∀ reply, caller.progress = .ready (.done reply) → caller.made.head? ≠ some (.looked none) →
      ∃ compiler, s.cell.kept = some compiler ∧
        queries caller = [.compile compiler ⟨submission.translationUnit, handle⟩]) := by
  have hleads := hs.leads caller hcaller
  rw [hcall] at hleads
  rcases (leads_run hleads).2 with ⟨hmade, hpoint⟩ | ⟨hmade, hpoint⟩ |
    ⟨compiler, rest, hmade, hsome, hdone⟩
  · rw [queries, hmade, hpoint]
    exact ⟨nofun, nofun, nofun⟩
  · rw [queries, hmade, hpoint]
    exact ⟨nofun, fun _ => ⟨rfl, rfl⟩, fun _ _ hne => absurd rfl hne⟩
  · have hqueries : queries caller = rest.filterMap query? := by rw [queries, hmade]; rfl
    have hkept : s.cell.kept = some compiler :=
      hs.consistent.shows caller hcaller (.looked (some compiler))
        (hmade ▸ List.mem_cons_self) compiler rfl
    refine ⟨?_, ?_, fun reply hreply _ => ⟨compiler, hkept, hqueries.trans (hdone reply hreply)⟩⟩
    · rw [hqueries]
      rcases hsome with hnone | hone
      · rw [hnone]
        nofun
      · rw [hone]
        intro query hquery
        obtain rfl := List.mem_singleton.mp hquery
        nofun
    · rw [hmade]
      nofun

end Reachable

/-- Without interruption, the steps of a call are what the backend does. However the steps of calls
through both handles are interleaved, at most one caller waits for the compiler to be provided, and
it is provided at most once. When all callers are done, it was asked for once for every load that
failed, and once more if there is a compiler. No run asks for a compiler. A run that finds none
compiles nothing and says so; every other run has one program compiled, its own in the language of
its handle, by the compiler that was provided. What a run, or the question whether the compiler is
ready, finds in its first step is what there is then, whichever the handle; and a compiler that is
there stays. -/
theorem shared_calls (policy : Guest.ImportPolicy) :
    (∀ {W : Type} [Logging W] (toolchain : Toolchain W κ) (call : Call),
      (routine policy call).perform toolchain.slot toolchain.reply =
        match call with
        | .load handle => Reply.loaded <$> (backend toolchain policy handle).load
        | .run handle submission => Reply.ran <$> (backend toolchain policy handle).run submission
        | .isLoaded handle => do
          return Reply.isLoaded ((backend toolchain policy handle).isLoaded (← get))) ∧
    ∀ s : Shared Call (Query.Answer (κ := κ)) κ Reply, s.Reachable (routine policy) →
      (∀ (i j : Nat) (first second : Caller Call Query.Answer κ Reply),
        s.callers[i]? = some first → s.callers[j]? = some second →
          AwaitsCompiler first → AwaitsCompiler second → i = j) ∧
      s.tally isProvided ≤ 1 ∧
      (∀ compiler, s.cell.kept = some compiler →
        ∃ caller ∈ s.callers, .answered .provide (.ok compiler) ∈ caller.made) ∧
      (IsQuiescent s → s.tally isProvide =
        s.callers.countP hasFailedToLoad + if s.cell.kept.isSome then 1 else 0) ∧
      (∀ caller ∈ s.callers, ∀ (handle : Dialect) (submission : Submission),
        caller.call = .run handle submission →
        (∀ query ∈ queries caller, query ≠ .provide) ∧
        (caller.made.head? = some (.looked none) → queries caller = [] ∧
          caller.progress = .ready (.done (.ran (.failed [] "Compiler not loaded" .load)))) ∧
        (∀ reply, caller.progress = .ready (.done reply) →
          caller.made.head? ≠ some (.looked none) → ∃ compiler, s.cell.kept = some compiler ∧
            queries caller = [.compile compiler ⟨submission.translationUnit, handle⟩])) ∧
      (∀ t, s.Step (routine policy) t →
        ∀ (i : Nat) (caller after : Caller Call Query.Answer κ Reply),
        s.callers[i]? = some caller → t.callers[i]? = some after →
        caller.made = [] → after.made ≠ [] →
        (∀ handle submission, caller.call = .run handle submission →
          after.made = [.looked s.cell.kept]) ∧
        ∀ handle, caller.call = .isLoaded handle →
          after.progress = .ready (.done (.isLoaded s.cell.kept.isSome))) ∧
      ∀ t, Relation.ReflTransGen (Shared.Step (routine policy)) s t →
        ∀ compiler, s.cell.kept = some compiler → t.cell.kept = some compiler := by
  refine ⟨fun toolchain call => perform_routine toolchain policy call, fun s hs =>
    ⟨?_, tally_isProvided_le hs, fun _ => provided_of_kept hs, tally_isProvide_eq hs, ?_, ?_,
      fun t hsteps _ => Shared.kept_of_steps hs hsteps⟩⟩
  · intro i j first second hfirst hsecond hawaits hawaits'
    have hi := holder_of_awaitsCompiler hs hfirst hawaits
    have hj := holder_of_awaitsCompiler hs hsecond hawaits'
    exact Option.some.inj (hi.symm.trans hj)
  · exact fun caller hcaller handle submission hcall => queries_run hs hcaller hcall
  · intro t hstep i caller after hcaller hafter hnew hmade
    refine ⟨fun handle submission hcall => ?_, fun handle hcall => ?_⟩
    · exact (hs.looked_of_first_step hstep hcaller hafter hnew hmade
        ((congrArg (routine policy) hcall).trans rfl)).1
    · exact (hs.looked_of_first_step hstep hcaller hafter hnew hmade
        ((congrArg (routine policy) hcall).trans rfl)).2

/-- A load that fails, one through the other handle that waits for it and then succeeds, and a run
after that. -/
theorem shared_calls_retry :
    ∃ s : Shared Call (Query.Answer (κ := Unit)) Unit Reply, s.Reachable (routine .strict) ∧
      s.tally isProvide = 2 ∧
        ∃ caller ∈ s.callers, queries caller = [.compile () ⟨"int main(void);", .c⟩] := by
  have hstart : Shared.Reachable (routine (κ := Unit) .strict) .start := Shared.reachable_start
  have h := ((hstart.come (.load .c)).come (.load .cpp)).come (.run .c ⟨"int main(void);", none⟩)
  replace h := h.move (i := 0) rfl (.enter _) (.enter rfl rfl)
  replace h := h.move (i := 0) rfl (.tell _ _) (.tell _ _)
  replace h := h.move (i := 0) rfl (.ask _ _) (.ask _ _)
  replace h := h.move (i := 0) rfl (.answer _ _ (.error (.toolchain "gone"))) (.answer _ _ _)
  replace h := h.move (i := 0) rfl (.tell _ _) (.tell _ _)
  replace h := h.move (i := 0) rfl (.leave _ _) (.fail rfl _)
  replace h := h.move (i := 1) rfl (.enter _) (.enter rfl rfl)
  replace h := h.move (i := 1) rfl (.tell _ _) (.tell _ _)
  replace h := h.move (i := 1) rfl (.ask _ _) (.ask _ _)
  replace h := h.move (i := 1) rfl (.answer _ _ (.ok ())) (.answer _ _ _)
  replace h := h.move (i := 1) rfl (.leave _ _) (.keep rfl _)
  replace h := h.move (i := 2) rfl (.look _ _) (.look _)
  replace h := h.move (i := 2) rfl (.ask _ _) (.ask _ _)
  replace h := h.move (i := 2) rfl (.answer _ _ (.ok ⟨none, "expected ;"⟩)) (.answer _ _ _)
  replace h := h.move (i := 2) rfl (.tell _ _) (.tell _ _)
  obtain ⟨-, hshared⟩ := shared_calls (κ := Unit) .strict
  obtain ⟨-, -, -, hcount, hrun, -⟩ := hshared _ h
  have hquiet := hcount (List.forall_mem_cons.mpr ⟨⟨_, rfl⟩,
    List.forall_mem_cons.mpr ⟨⟨_, rfl⟩, List.forall_mem_singleton.mpr ⟨_, rfl⟩⟩⟩)
  obtain ⟨-, -, hcompiled⟩ := hrun _ (List.mem_of_getElem? (i := 2) rfl) _ _ rfl
  obtain ⟨⟨⟩, -, hqueries⟩ := hcompiled _ rfl nofun
  exact ⟨_, h, hquiet, _, List.mem_of_getElem? (i := 2) rfl, hqueries⟩

end Sandbox.Compiled
