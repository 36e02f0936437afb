import Mathlib.Data.List.Induction
import Sandbox.Proofs.Compiled.Sharing
import Sandbox.Registry.Basic

/-!
# Making all backends ready

A registry loads its backends one after another and reports an outcome for every language. The
languages that share the compiler each ask for it in turn. Once it is there, all of them report so;
until then each of them makes an attempt of its own, since a failed attempt leaves nothing behind.

## Main definitions

* `Registration` : what is registered, a backend of its own or a handle of the shared compiler.
* `Registration.entries` : what a registry holds after a sequence of registrations.
* `Compiled.Tallied`, `Compiled.Apart` : a count of the attempts to provide the compiler, and the
  backends that have nothing to do with it.
* `Registration.handleOutcomes` : what is reported for the languages that share the compiler.
* `Registration.Passes` : first failures, as many as failed attempts, and then success.

## Main results

* `Registration.languages_registry` : the languages of a registry, in order.
* `Registration.passes_loadEach` : loading one backend after another.
* `Registration.loadAll_registered` : what a registry reports, and how often it asks for the
  compiler.
* `Registration.loadAll_twoAttempts` : the compiler may be asked for twice in one pass.
-/

namespace Sandbox

open Compiled (Toolchain Dialect)

variable {W κ : Type} [Logging W]

/-- What is registered. -/
inductive Registration (W : Type) where
  /-- A backend that shares nothing with the others. -/
  | own (backend : Backend W)
  /-- A handle of the shared compiler. -/
  | handle (dialect : Dialect)

namespace Registration

variable (toolchain : Toolchain W κ) (policy : Guest.ImportPolicy)

/-- The backend that is registered. -/
def backend : Registration W → Backend W
  | own backend => backend
  | handle dialect => Compiled.backend toolchain policy dialect

/-- Whether a handle of the shared compiler is registered. -/
def isHandle : Registration W → Bool
  | own _ => false
  | handle _ => true

/-- The name under which a registration is found. -/
def name (registration : Registration W) : String :=
  Text.lowercase (registration.backend toolchain policy).language

/-- What a registry holds after a sequence of registrations. -/
def entries (registrations : List (Registration W)) : List (String × Registration W) :=
  registrations.foldl (fun held registration =>
    Registry.put (registration.name toolchain policy) registration held) []

/-- The registry after a sequence of registrations. -/
def registry (registrations : List (Registration W)) : Registry W :=
  (registrations.map (backend toolchain policy)).foldl Registry.register Registry.empty

/-- What is reported for the languages that share the compiler. -/
def handleOutcomes (held : List (String × Registration W))
    (report : List (String × Except LoadError Unit)) : List (Except LoadError Unit) :=
  (held.zip report).filterMap fun (entry, reported) =>
    if entry.2.isHandle then some reported.2 else none

end Registration

/-! ### What a registry holds -/

namespace Registry

theorem put_map {β γ : Type} (f : β → γ) (key : String) (value : β) (held : List (String × β)) :
    put key (f value) (held.map fun entry => (entry.1, f entry.2)) =
      (put key value held).map fun entry => (entry.1, f entry.2) := by
  induction held with
  | nil => rfl
  | cons entry held ih =>
    simp only [List.map_cons, put]
    split
    · rfl
    · rw [ih]
      rfl

/-- A key that is there keeps its place, and another one comes last. -/
theorem map_fst_put {β : Type} (key : String) (value : β) (held : List (String × β)) :
    (put key value held).map Prod.fst =
      if key ∈ held.map Prod.fst then held.map Prod.fst else held.map Prod.fst ++ [key] := by
  induction held with
  | nil => rfl
  | cons entry held ih =>
    obtain ⟨other, value'⟩ := entry
    simp only [put, List.map_cons, List.mem_cons, beq_iff_eq]
    by_cases heq : other = key
    · subst heq
      simp
    · simp only [heq, if_false, List.map_cons, ih, Ne.symm heq, false_or]
      split <;> simp

end Registry

namespace Registration

variable (toolchain : Toolchain W κ) (policy : Guest.ImportPolicy)

theorem backends_registry (registrations : List (Registration W)) :
    (registry toolchain policy registrations).backends =
      (entries toolchain policy registrations).map fun entry =>
        (entry.1, entry.2.backend toolchain policy) := by
  induction registrations using List.reverseRecOn with
  | nil => rfl
  | append_singleton registrations registration ih =>
    simp only [registry, entries, List.map_append, List.map_cons, List.map_nil, List.foldl_append,
      List.foldl_cons, List.foldl_nil, Registry.register] at ih ⊢
    rw [ih]
    exact Registry.put_map (backend toolchain policy) _ registration _

theorem removeAll_singleton (key : String) (keys : List String) :
    [key].removeAll keys = if key ∈ keys then [] else [key] := by
  by_cases hmem : key ∈ keys <;> simp [List.removeAll, hmem]

omit [Logging W] in
theorem mem_put {β : Type} {key : String} {value : β} {held : List (String × β)}
    {entry : String × β} (h : entry ∈ Registry.put key value held) :
    entry = (key, value) ∨ entry ∈ held := by
  induction held with
  | nil => exact .inl (List.mem_singleton.mp h)
  | cons first held ih =>
    rw [Registry.put] at h
    split at h
    · rcases List.mem_cons.mp h with hentry | hheld
      · exact .inl hentry
      · exact .inr (List.mem_cons_of_mem _ hheld)
    · rcases List.mem_cons.mp h with hentry | hheld
      · exact .inr (hentry ▸ List.mem_cons_self)
      · exact (ih hheld).imp_right (List.mem_cons_of_mem _)

/-- A registry holds nothing but what was registered. -/
theorem mem_of_mem_entries {registrations : List (Registration W)}
    {entry : String × Registration W} (h : entry ∈ entries toolchain policy registrations) :
    entry.2 ∈ registrations := by
  induction registrations using List.reverseRecOn with
  | nil => cases h
  | append_singleton registrations registration ih =>
    rw [entries, List.foldl_append, List.foldl_cons, List.foldl_nil, ← entries] at h
    rcases mem_put h with rfl | hheld
    · simp
    · exact List.mem_append_left _ (ih hheld)

/-- The languages of a registry are the names of what was registered, each once, in order of first
registration. -/
theorem languages_registry (registrations : List (Registration W)) :
    (registry toolchain policy registrations).languages =
      (registrations.map (name toolchain policy)).eraseDups := by
  have hentries : (entries toolchain policy registrations).map Prod.fst =
      (registrations.map (name toolchain policy)).eraseDups := by
    induction registrations using List.reverseRecOn with
    | nil => rfl
    | append_singleton registrations registration ih =>
      rw [entries, List.foldl_append, List.foldl_cons, List.foldl_nil, ← entries,
        Registry.map_fst_put, ih, List.map_append, List.eraseDups_append, List.map_cons,
        List.map_nil, removeAll_singleton]
      simp only [List.mem_eraseDups]
      split <;> simp [List.eraseDups_cons]
  rw [Registry.languages, backends_registry, List.map_map, ← hentries]
  rfl

end Registration

/-! ### Loading one backend after another -/

/-- A count of the attempts to provide the compiler. Each attempt counts once and keeps nothing by
itself; neither the log nor keeping the compiler changes the count. -/
structure Compiled.Tallied (toolchain : Toolchain W κ) (attempts : W → Nat) : Prop where
  provide : ∀ w, attempts (toolchain.provide.run w).2 = attempts w + 1
  kept_provide : ∀ w, toolchain.slot.kept (toolchain.provide.run w).2 = toolchain.slot.kept w
  keep : ∀ compiler w, attempts (toolchain.slot.keep compiler w) = attempts w
  kept_keep : ∀ compiler w, toolchain.slot.kept (toolchain.slot.keep compiler w) = some compiler
  log : ∀ events w, attempts (Logging.add events w) = attempts w
  kept_log : ∀ events w, toolchain.slot.kept (Logging.add events w) = toolchain.slot.kept w

/-- A backend that shares nothing with the compiler. -/
structure Compiled.Apart (toolchain : Toolchain W κ) (attempts : W → Nat) (backend : Backend W) :
    Prop where
  attempts : ∀ w, attempts (backend.load.run w).2 = attempts w
  kept : ∀ w, toolchain.slot.kept (backend.load.run w).2 = toolchain.slot.kept w

namespace Compiled

variable {toolchain : Toolchain W κ} {attempts : W → Nat}

theorem load_of_kept {w : W} {compiler : κ} (hkept : toolchain.slot.kept w = some compiler) :
    (load toolchain).run w = (.ok (), w) := by
  rw [load, StateT.run_bind, Slot.obtain_of_some hkept]
  rfl

theorem run_record (events : Log) (w : W) :
    (record events : StateM W Unit).run w = ((), Logging.add events w) := rfl

/-- A load that finds no compiler asks for it, and keeps it or logs why there is none. -/
theorem load_eq_of_empty {w : W} (hempty : toolchain.slot.kept w = none) :
    (load toolchain).run w =
      let ran := toolchain.provide.run
        (Logging.add [⟨.info, target, "Loading C/C++ compiler"⟩] w)
      match ran.1 with
      | .ok compiler => (.ok (), toolchain.slot.keep compiler ran.2)
      | .error e => (.error e, Logging.add
        [⟨.error, target, "Failed to load C/C++ compiler: " ++ e.message⟩] ran.2) := by
  have hload : load toolchain = (fun outcome => outcome.map fun _ => ()) <$>
      toolchain.slot.obtain (making.perform toolchain.slot toolchain.reply) := by
    rw [perform_making]
    rfl
  rcases hran : toolchain.provide.run
    (Logging.add [⟨.info, target, "Loading C/C++ compiler"⟩] w) with ⟨e | compiler, after⟩
  · have hmaking : (making.perform toolchain.slot toolchain.reply).run w = (.error e, Logging.add
        [⟨.error, target, "Failed to load C/C++ compiler: " ++ e.message⟩] after) := by
      simp only [making, Routine.perform, Toolchain.reply, StateT.run_bind]
      rw [run_record]
      simp only [bind, hran]
      rfl
    rw [hload, StateT.run_map, Slot.obtain_error hempty hmaking]
    rfl
  · have hmaking :
        (making.perform toolchain.slot toolchain.reply).run w = (.ok compiler, after) := by
      simp only [making, Routine.perform, Toolchain.reply, StateT.run_bind]
      rw [run_record]
      simp only [bind, hran]
      rfl
    rw [hload, StateT.run_map, Slot.obtain_ok hempty hmaking]
    rfl

/-- A load that finds no compiler makes one attempt, and succeeds exactly if the compiler is there
afterwards. -/
theorem load_of_empty (htally : Tallied toolchain attempts) {w : W}
    (hempty : toolchain.slot.kept w = none) :
    attempts ((load toolchain).run w).2 = attempts w + 1 ∧
      ((∃ e, ((load toolchain).run w).1 = .error e ∧
          toolchain.slot.kept ((load toolchain).run w).2 = none) ∨
        ∃ compiler, ((load toolchain).run w).1 = .ok () ∧
          toolchain.slot.kept ((load toolchain).run w).2 = some compiler) := by
  have hcount := htally.provide (Logging.add [⟨.info, target, "Loading C/C++ compiler"⟩] w)
  have hkept := htally.kept_provide (Logging.add [⟨.info, target, "Loading C/C++ compiler"⟩] w)
  rw [htally.log] at hcount
  rw [htally.kept_log, hempty] at hkept
  rw [load_eq_of_empty hempty]
  rcases hran : toolchain.provide.run
    (Logging.add [⟨.info, target, "Loading C/C++ compiler"⟩] w) with ⟨e | compiler, after⟩
  · rw [hran] at hcount hkept
    exact ⟨(htally.log _ _).trans hcount, .inl ⟨e, rfl, (htally.kept_log _ _).trans hkept⟩⟩
  · rw [hran] at hcount
    exact ⟨(htally.keep _ _).trans hcount, .inr ⟨compiler, rfl, htally.kept_keep _ _⟩⟩

end Compiled

namespace Registration

section Loading

variable {toolchain : Toolchain W κ} {attempts : W → Nat}

/-- What is logged of an outcome. -/
def outcomeLog (language : String) : Except LoadError Unit → Log
  | .ok _ => [⟨.info, Registry.target, "Loaded " ++ language ++ " backend"⟩]
  | .error e =>
    [⟨.warn, Registry.target, "Failed to load " ++ language ++ " backend: " ++ e.message⟩]

/-- Loading one backend and then the others. -/
theorem loadEach_cons (language : String) (backend : Backend W)
    (backends : List (String × Backend W)) (w : W) :
    (Registry.loadEach ((language, backend) :: backends)).run w =
      let first := backend.load.run w
      let others := (Registry.loadEach backends).run
        (Logging.add (outcomeLog language first.1) first.2)
      ((language, first.1) :: others.1, others.2) := by
  rw [Registry.loadEach, StateT.run_bind]
  rcases backend.load.run w with ⟨e | _, after⟩ <;> rfl

/-- What a pass over backends comes to, from a world `w` to a world `v`: the languages that share
the compiler first report failures, as many as there were failed attempts, and from then on
success. -/
def Passes (toolchain : Toolchain W κ) (attempts : W → Nat) (w : W)
    (outcomes : List (Except LoadError Unit)) (v : W) : Prop :=
  ∃ (failures : List LoadError) (successes : Nat),
    outcomes = failures.map .error ++ List.replicate successes (.ok ()) ∧
    ((toolchain.slot.kept w).isSome → failures = []) ∧
    ((toolchain.slot.kept v).isSome ↔ (toolchain.slot.kept w).isSome ∨ 0 < successes) ∧
    attempts v = attempts w + failures.length +
      if (toolchain.slot.kept w).isNone && (toolchain.slot.kept v).isSome then 1 else 0

section Passes

variable {w w' v : W} {outcomes : List (Except LoadError Unit)}

omit [Logging W] in
theorem Passes.refl (w : W) : Passes toolchain attempts w [] w :=
  ⟨[], 0, rfl, fun _ => rfl, by simp, by cases toolchain.slot.kept w <;> rfl⟩

omit [Logging W] in
theorem Passes.of_same (h : Passes toolchain attempts w' outcomes v)
    (hkept : toolchain.slot.kept w' = toolchain.slot.kept w)
    (hattempts : attempts w' = attempts w) : Passes toolchain attempts w outcomes v := by
  rw [Passes, hkept, hattempts] at h
  exact h

omit [Logging W] in
/-- After a success the compiler is there, so that all others succeed without an attempt. -/
theorem Passes.success (h : Passes toolchain attempts w' outcomes v)
    (hkept : (toolchain.slot.kept w').isSome)
    (hattempts : attempts w' =
      attempts w + if (toolchain.slot.kept w).isNone then 1 else 0) :
    Passes toolchain attempts w (.ok () :: outcomes) v := by
  obtain ⟨failures, successes, rfl, hnone, hsome, hcount⟩ := h
  obtain rfl := hnone hkept
  have hfinal : (toolchain.slot.kept v).isSome := hsome.mpr (.inl hkept)
  refine ⟨[], successes + 1, rfl, fun _ => rfl, by simp [hfinal], ?_⟩
  obtain ⟨compiler, hcompiler⟩ := Option.isSome_iff_exists.mp hkept
  rw [hcount, hattempts, hfinal, hcompiler]
  cases toolchain.slot.kept w <;> rfl

omit [Logging W] in
/-- A failure leaves nothing behind, so that the next one makes an attempt of its own. -/
theorem Passes.failure (h : Passes toolchain attempts w' outcomes v) (e : LoadError)
    (hempty : toolchain.slot.kept w = none) (hkept : toolchain.slot.kept w' = none)
    (hattempts : attempts w' = attempts w + 1) :
    Passes toolchain attempts w (.error e :: outcomes) v := by
  obtain ⟨failures, successes, rfl, -, hsome, hcount⟩ := h
  rw [hkept] at hsome hcount
  refine ⟨e :: failures, successes, rfl, by simp [hempty], by rw [hempty]; exact hsome, ?_⟩
  rw [hcount, hattempts, hempty, List.length_cons]
  omega

end Passes

/-- One backend after another is loaded: every language gets its outcome. -/
theorem passes_loadEach (htally : Compiled.Tallied toolchain attempts)
    (policy : Guest.ImportPolicy) (held : List (String × Registration W))
    (hown : ∀ entry ∈ held, ∀ backend, entry.2 = .own backend →
      Compiled.Apart toolchain attempts backend) (w : W) :
    let ran := (Registry.loadEach (held.map fun entry =>
      (entry.1, entry.2.backend toolchain policy))).run w
    ran.1.map Prod.fst = held.map Prod.fst ∧
      Passes toolchain attempts w (handleOutcomes held ran.1) ran.2 := by
  induction held generalizing w with
  | nil => exact ⟨rfl, .refl w⟩
  | cons entry held ih =>
    obtain ⟨language, registration⟩ := entry
    obtain ⟨hentry, hheld⟩ := List.forall_mem_cons.mp hown
    simp only [List.map_cons, loadEach_cons]
    obtain ⟨hnames, hothers⟩ := ih hheld (Logging.add
      (outcomeLog language ((registration.backend toolchain policy).load.run w).1)
      ((registration.backend toolchain policy).load.run w).2)
    refine ⟨congrArg (language :: ·) hnames, ?_⟩
    replace hothers := hothers.of_same (htally.kept_log _ _) (htally.log _ _)
    cases registration with
    | own backend =>
      have hapart := hentry backend rfl
      exact hothers.of_same (hapart.kept w) (hapart.attempts w)
    | handle dialect =>
      rcases hload : (Compiled.load toolchain).run w with ⟨outcome, after⟩
      have hran : ((handle dialect : Registration W).backend toolchain policy).load.run w =
        (outcome, after) := hload
      simp only [hran] at hothers ⊢
      cases hkept : toolchain.slot.kept w with
      | some compiler =>
        rw [Compiled.load_of_kept hkept] at hload
        cases hload
        refine hothers.success (by rw [hkept]; rfl) ?_
        rw [hkept]
        rfl
      | none =>
        have hattempt := Compiled.load_of_empty htally hkept
        rw [hload] at hattempt
        obtain ⟨hcount, ⟨e, he, hnone⟩ | ⟨compiler, hok, hsome⟩⟩ := hattempt
        · cases he
          exact hothers.failure e hkept hnone hcount
        · cases hok
          refine hothers.success (Option.isSome_iff_exists.mpr ⟨compiler, hsome⟩) ?_
          rw [hkept]
          exact hcount

/-- Loading all backends reports an outcome for every language, each once and in order of first
registration. Of the languages that share the compiler the first ones may report failures, and from
the first success on all report success. The compiler is asked for once for every reported failure,
and once more if it is there only afterwards; so once at most if the first attempt succeeds. -/
theorem loadAll_registered (toolchain : Toolchain W κ) (policy : Guest.ImportPolicy)
    (attempts : W → Nat) (htally : Compiled.Tallied toolchain attempts)
    (registrations : List (Registration W))
    (hown : ∀ backend, .own backend ∈ registrations →
      Compiled.Apart toolchain attempts backend) (w : W) :
    let ran := (registry toolchain policy registrations).loadAll.run w
    let outcomes := handleOutcomes (entries toolchain policy registrations) ran.1
    ran.1.map Prod.fst = (registrations.map (name toolchain policy)).eraseDups ∧
      Passes toolchain attempts w outcomes ran.2 ∧
      (outcomes.head? = some (.ok ()) → (∀ outcome ∈ outcomes, outcome = .ok ()) ∧
        attempts ran.2 ≤ attempts w + 1) := by
  have hheld : ∀ entry ∈ entries toolchain policy registrations, ∀ backend,
      entry.2 = .own backend → Compiled.Apart toolchain attempts backend :=
    fun entry hentry backend heq =>
      hown backend (heq ▸ mem_of_mem_entries toolchain policy hentry)
  obtain ⟨hnames, hpasses⟩ := passes_loadEach htally policy _ hheld w
  rw [← backends_registry] at hnames hpasses
  refine ⟨hnames.trans ?_, hpasses, fun hfirst => ?_⟩
  · rw [← languages_registry, Registry.languages, backends_registry, List.map_map]
    rfl
  · obtain ⟨failures, successes, houtcomes, -, -, hcount⟩ := hpasses
    cases failures with
    | cons e failures =>
      rw [Registry.loadAll, houtcomes] at hfirst
      cases hfirst
    | nil =>
      refine ⟨fun outcome houtcome => ?_, ?_⟩
      · rw [Registry.loadAll, houtcomes] at houtcome
        exact List.eq_of_mem_replicate houtcome
      · rw [Registry.loadAll, hcount, List.length_nil]
        split <;> omega

end Loading

/-! ### A compiler that is provided at the second attempt -/

/-- A world that counts the attempts to provide the compiler. -/
structure Patient where
  /-- How many attempts there were. -/
  attempts : Nat
  /-- The compiler, once it is ready. -/
  compiler : Option Unit

instance : Logging Patient := ⟨fun _ world => world⟩

/-- A compiler whose first attempt to be provided fails. -/
def Patient.toolchain : Toolchain Patient Unit where
  slot := ⟨Patient.compiler, fun compiler world => { world with compiler := some compiler }⟩
  provide world :=
    (if world.attempts = 0 then .error (.fetch "" "gone") else .ok (),
      { world with attempts := world.attempts + 1 })
  compile _ _ := pure (.error (.trap ""))

/-- A backend that is always ready. -/
def Patient.steady : Backend Patient where
  language := "Steady"
  kind := .dynamic
  isLoaded _ := true
  load := pure (.ok ())
  run _ := pure (.passed [])

/-- With another backend between the languages that share the compiler, one failure and one success
are reported for them, after two attempts. -/
theorem loadAll_registered_patient :
    let registrations := [.handle .c, .own Patient.steady, .handle .cpp]
    let ran := (registry Patient.toolchain .strict registrations).loadAll.run ⟨0, none⟩
    ran.1.map Prod.fst = ["c", "steady", "cpp"] ∧
      Passes Patient.toolchain Patient.attempts ⟨0, none⟩
        [.error (.fetch "" "gone"), .ok ()] ran.2 := by
  obtain ⟨hnames, hpasses, -⟩ := loadAll_registered Patient.toolchain .strict Patient.attempts
    ⟨fun _ => rfl, fun _ => rfl, fun _ _ => rfl, fun _ _ => rfl, fun _ _ => rfl, fun _ _ => rfl⟩
    [.handle .c, .own Patient.steady, .handle .cpp]
    (fun backend hbackend => by
      obtain rfl : backend = Patient.steady := by simpa using hbackend
      exact ⟨fun _ => rfl, fun _ => rfl⟩)
    ⟨0, none⟩
  exact ⟨hnames.trans rfl, hpasses⟩

/-- Both languages that share the compiler make an attempt if the first one fails, and then report
different outcomes. -/
theorem loadAll_twoAttempts :
    (registry Patient.toolchain .strict [.handle .c, .handle .cpp]).loadAll.run ⟨0, none⟩ =
      ([("c", .error (.fetch "" "gone")), ("cpp", .ok ())], ⟨2, some ()⟩) := rfl

end Registration

end Sandbox
