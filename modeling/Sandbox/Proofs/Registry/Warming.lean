import Sandbox.Proofs.Compiled.Retrying
import Sandbox.Proofs.Fetch.Neighbours

/-!
# Backends that find what they need

A backend that is made ready from the cache finds what it needs there, and then whatever is asked
of it later, in the same process or in another one, asks no server as long as that stays in its
place.

## Main definitions

* `Preserves` : work that leaves a view of its world as it was.
* `Fetch.Loader.IsWarm` : what a fetch needs so as to ask no server.
* `Registry.IsWarm` : what the backend for a language needs so as to ask no server.

## Main results

* `Python.isWarm_of_load`, `Compiled.isWarm_of_load` : a load that succeeds.
* `Registry.preserves_backend` : a backend that finds what it needs.
* `Registry.spares_load` : a load of a backend spares what others need.
-/

namespace Sandbox

open Fetch (Loader Artefact cacheName isUsableName performed Leaves)
open Sandbox.Path (join)

/-! ### Work that changes nothing but a log -/

section Preserves

variable {W α β γ : Type} {view : W → γ} {w : W}

/-- Work that leaves a view of its world as it was. -/
def Preserves (view : W → γ) (work : StateM W α) (w : W) : Prop :=
  view (work.run w).2 = view w

theorem Preserves.pure (answer : α) : Preserves view (Pure.pure answer : StateM W α) w :=
  rfl

theorem Preserves.bind {first : StateM W α} {next : α → StateM W β} (h : Preserves view first w)
    (hnext : ∀ answer after, first.run w = (answer, after) → view after = view w →
      Preserves view (next answer) after) : Preserves view (first >>= next) w := by
  obtain ⟨answer, after, hrun⟩ : ∃ answer after, first.run w = (answer, after) := ⟨_, _, rfl⟩
  have hafter : view after = view w := by
    have := h
    rwa [Preserves, hrun] at this
  have hrest := hnext answer after hrun hafter
  unfold Preserves at hrest ⊢
  rw [run_bind_eq hrun, hrest, hafter]

end Preserves

/-- What there is to a host besides its log. -/
def Host.scene (host : Host) : Files.Tree × Http.Traffic :=
  (host.files, host.traffic)

/-- What there is to the host of a session besides its log. -/
def Session.scene (session : Session) : Files.Tree × Http.Traffic :=
  session.host.scene

theorem Session.preserves_onHost {α : Type} {work : StateM Host α} {session : Session}
    (h : Preserves Host.scene work session.host) : Preserves scene (onHost work) session := by
  unfold Preserves at h ⊢
  rw [onHost_run (rfl : work.run session.host = (_, _))]
  exact h

/-! ### Downloads that are in place -/

namespace Fetch.Loader

variable {loader : Loader} {artefact : Artefact} {host : Host} {files later : Files.Tree}
  {entry : String}

variable (loader) in
/-- What a fetch needs so as to ask no server: the place has something, or there is no place. -/
def IsWarm (artefact : Artefact) (files : Files.Tree) : Prop :=
  isUsableName (cacheName artefact.url) = true →
    files.isPresent (join loader.cacheDirectory artefact.entry) = .ok true

/-- What is in place stays there while other things are fetched. -/
theorem IsWarm.spares (h : loader.IsWarm artefact files)
    (hspares : loader.Spares entry files later) :
    loader.IsWarm artefact later := fun husable =>
  hspares.isPresent (artefact.isPlain_entry husable) (h husable)

theorem preserves_fetch (h : loader.IsWarm artefact host.files) :
    Preserves Host.scene (artefact.fetch loader).run.perform host := by
  change (performed (artefact.fetch loader) host).2.scene = host.scene
  by_cases husable : isUsableName (cacheName artefact.url) = true
  · obtain ⟨log, hperformed⟩ := performed_present husable (h husable)
    rw [hperformed]
    rfl
  · cases artefact with
    | module url =>
      have hcheck : checkName (cacheName url) url = .error _ := if_neg husable
      change (performed (loader.fetchModule (cacheName url) url) host).2.scene = _
      rw [fetchModule, performed_bind, performed_check, hcheck]
    | archive url =>
      have hcheck : checkName (cacheName url) url = .error _ := if_neg husable
      change (performed (loader.fetchArchive (cacheName url) url) host).2.scene = _
      rw [fetchArchive, performed_bind, performed_check, hcheck]

/-- Looking for a module outside of the cache. -/
theorem preserves_loadFromPath (path : String) (host : Host) :
    Preserves Host.scene (loadFromPath path).run.perform host := by
  change (performed (loadFromPath path) host).2.scene = host.scene
  unfold loadFromPath
  rw [performed_bind]
  cases hpresent : host.files.isPresent path with
  | error e =>
    rw [performed_isPresent_error hpresent]
  | ok present =>
    rw [performed_isPresent hpresent]
    cases present with
    | false => rfl
    | true =>
      by_cases hextension : Path.extension? path = some "wasm"
      · simp only [↓reduceIte, hextension]
        rfl
      · simp only [↓reduceIte, hextension]
        rfl

/-- A fetch that succeeds gives the place. -/
theorem eq_of_performed_fetch (artefact : Artefact) {path : String}
    (h : (performed (artefact.fetch loader) host).1 = .ok path) :
    path = join loader.cacheDirectory artefact.entry := by
  have hplace (files : Files.Tree) :
      Leaves (pure (join loader.cacheDirectory artefact.entry)) files (fun _ => True)
        fun path _ => path = join loader.cacheDirectory artefact.entry := .pure trivial rfl
  suffices hleaves : Leaves (artefact.fetch loader) host.files (fun _ => True)
      fun path _ => path = join loader.cacheDirectory artefact.entry from
    (hleaves host rfl).2 path h
  cases artefact with
  | module url =>
    refine .last fun _ _ => .last fun present _ => ?_
    dsimp only
    split
    · exact .last fun _ => hplace
    · exact .last fun _ _ => .last fun _ _ => .last fun _ => hplace
  | archive url =>
    refine .last fun _ _ => .last fun present _ => ?_
    dsimp only
    split
    · exact .last fun _ => hplace
    · split
      · exact .last fun _ _ => .last fun _ _ => .last fun _ => hplace
      · exact .bind (.throw trivial)

end Fetch.Loader

/-! ### The interpreter -/

namespace Python

variable {loader : Loader} {config : Config.Python} {session after : Session} {host later : Host}
  {files : Files.Tree}

/-- The interpreter is in its place, or is not downloaded. -/
def IsWarm (loader : Loader) (config : Config.Python) (files : Files.Tree) : Prop :=
  config.path = none → loader.IsWarm (.module config.url) files

theorem preserves_fetch (host : Host) (h : IsWarm loader config host.files) :
    Preserves Host.scene (fetch loader config) host := by
  have hplace : Preserves Host.scene (modulePath loader config) host := by
    unfold modulePath
    cases hpath : config.path with
    | some path => exact Fetch.Loader.preserves_loadFromPath path host
    | none => exact Fetch.Loader.preserves_fetch (h hpath)
  refine hplace.bind fun answer _ _ _ => ?_
  cases answer <;> rfl

/-- What is fetched was read in its place. -/
theorem isWarm_of_fetch {content : Files.Content}
    (h : (fetch loader config).run host = (.ok content, later)) :
    IsWarm loader config later.files := by
  intro hpath husable
  obtain ⟨answer, after, hplace⟩ : ∃ answer after,
      (modulePath loader config).run host = (answer, after) := ⟨_, _, rfl⟩
  unfold fetch at h
  rw [run_bind_eq hplace] at h
  cases answer with
  | error e => cases h
  | ok path =>
    have hread : (after.files.read path).mapError LoadError.file = .ok content ∧ after = later := by
      have h : ((after.files.read path).mapError LoadError.file, after) = (.ok content, later) := h
      exact Prod.mk.inj h
    obtain ⟨hread, rfl⟩ := hread
    have hpath : path = loader.modulePath (cacheName config.url) := by
      rw [modulePath, hpath] at hplace
      exact Fetch.Loader.eq_of_performed_fetch (.module config.url) (congrArg Prod.fst hplace)
    subst hpath
    change after.files.isPresent (loader.modulePath (cacheName config.url)) = _
    unfold Files.Tree.read at hread
    unfold Files.Tree.isPresent
    cases hfind : after.files.find true (loader.modulePath (cacheName config.url)) with
    | error e =>
      rw [hfind] at hread
      cases hread
    | ok found => rfl

/-- The interpreter is fetched, if it is, as the module at its address. -/
theorem spares_fetch (host : Host) (hneat : loader.IsNeat host.files) :
    loader.Spares (Artefact.module config.url).entry host.files
      ((fetch loader config).run host).2.files := by
  obtain ⟨answer, after, hplace⟩ : ∃ answer after,
      (modulePath loader config).run host = (answer, after) := ⟨_, _, rfl⟩
  have hafter : loader.Spares (Artefact.module config.url).entry host.files after.files := by
    unfold modulePath at hplace
    cases hpath : config.path with
    | some path =>
      have hsame : after.scene = host.scene := by
        have := Fetch.Loader.preserves_loadFromPath path host
        rw [hpath] at hplace
        rwa [Preserves, hplace] at this
      rw [show after.files = host.files from congrArg Prod.fst hsame]
      exact .unchanged
    | none =>
      rw [hpath] at hplace
      have := (Fetch.Loader.leaves_fetch hneat (.module config.url) host rfl).1
      rwa [show (performed ((Artefact.module config.url).fetch loader) host).2 = after from
        congrArg Prod.snd hplace] at this
  unfold fetch
  rw [run_bind_eq hplace]
  cases answer with
  | error e => exact hafter
  | ok path => exact hafter

variable (loader config session) in
/-- What a load does to files and servers is what fetching does. -/
theorem load_fetch (hunloaded : session.interpreter = none) :
    let fetched := (fetch loader config).run (begun session.host)
    ∃ log, (load (.ofLoader loader config)).run session =
      ((fetched.1.bind (verdict config fetched.2.files)).map fun _ => (),
        { session with
          host := { fetched.2 with log := log }
          interpreter := (fetched.1.bind (verdict config fetched.2.files)).toOption }) :=
  load_run session hunloaded rfl

/-- Whether or not the interpreter is kept, a load finds what it needs. -/
theorem preserves_load (session : Session) (h : IsWarm loader config session.host.files) :
    Preserves Session.scene (load (.ofLoader loader config)) session := by
  cases hloaded : session.interpreter with
  | some m =>
    unfold Preserves
    rw [load_of_some hloaded]
  | none =>
    obtain ⟨log, hload⟩ := load_fetch loader config session hloaded
    unfold Preserves
    rw [hload]
    exact preserves_fetch (begun session.host) h

theorem preserves_run (h : IsWarm loader config session.host.files) (submission : Submission) :
    Preserves Session.scene (run (.ofLoader loader config) submission) session := by
  have hobtain : Preserves Session.scene (obtain (.ofLoader loader config)) session :=
    preserves_load session h
  refine hobtain.bind fun answer after _ _ => ?_
  cases answer with
  | error e => rfl
  | ok m =>
    refine Preserves.bind (by unfold Preserves; rw [interpret_run]) fun captured _ _ _ => ?_
    dsimp only
    split <;> rfl

/-- A load that succeeds leaves the interpreter in its place. -/
theorem isWarm_of_load (session : Session) (hunloaded : session.interpreter = none)
    (h : (load (.ofLoader loader config)).run session = (.ok (), after)) :
    IsWarm loader config after.host.files := by
  obtain ⟨log, hload⟩ := load_fetch loader config session hunloaded
  obtain ⟨fetched, later, hfetch⟩ : ∃ fetched later,
      (fetch loader config).run (begun session.host) = (fetched, later) := ⟨_, _, rfl⟩
  rw [hfetch] at hload
  cases fetched with
  | error e => cases hload.symm.trans h
  | ok content =>
    obtain ⟨-, rfl⟩ := Prod.mk.inj (hload.symm.trans h)
    have hwarm : IsWarm loader config later.files := isWarm_of_fetch hfetch
    exact hwarm

theorem spares_load (config : Config.Python) (session : Session)
    (hneat : loader.IsNeat session.host.files) :
    loader.Spares (Artefact.module config.url).entry session.host.files
      ((load (.ofLoader loader config)).run session).2.host.files := by
  cases hloaded : session.interpreter with
  | some m =>
    rw [load_of_some hloaded]
    exact .unchanged
  | none =>
    obtain ⟨log, hload⟩ := load_fetch loader config session hloaded
    rw [hload]
    exact spares_fetch (begun session.host) hneat

end Python

/-! ### The compiler -/

namespace Compiled

variable {loader : Loader} {config : Config.Compiler} {session after : Session} {host later : Host}
  {files : Files.Tree}

/-- The installation is in its place, or is not downloaded. -/
def IsWarm (loader : Loader) (config : Config.Compiler) (files : Files.Tree) : Prop :=
  config.path = none → loader.IsWarm (.archive config.url) files

theorem preserves_provide (host : Host) (h : IsWarm loader config host.files) :
    Preserves Host.scene (Sdk.provide loader config) host := by
  have hplace : Preserves Host.scene (Sdk.directory loader config) host := by
    unfold Sdk.directory
    cases hpath : config.path with
    | some path => rfl
    | none => exact Fetch.Loader.preserves_fetch (h hpath)
  refine hplace.bind fun answer _ _ _ => ?_
  cases answer with
  | error e => rfl
  | ok directory =>
    refine Preserves.bind rfl fun found _ _ _ => ?_
    cases found <;> rfl

/-- Where an installation is found, something is there. -/
theorem isPresent_of_locate {path root : String} (hpath : path ≠ "")
    (h : Sdk.locate files path = some root) : files.isPresent path = .ok true := by
  have hbin : Files.IsPlain "bin" := ⟨by decide, by decide⟩
  have hclang : Files.IsPlain "clang" := ⟨by decide, by decide⟩
  unfold Sdk.locate at h
  split at h
  · next hfile =>
    unfold Files.Tree.isFile Sdk.driver at hfile
    split at hfile
    · next hfind =>
      obtain ⟨bin, hfound⟩ := Files.Tree.find_of_locate_join hclang
        (Files.join_ne_empty path hbin) (Files.Tree.find_eq_ok hfind).1
      obtain ⟨base, hfound⟩ := Files.Tree.find_of_locate_join hbin hpath
        (Files.Tree.find_eq_ok hfound).1
      rw [Files.Tree.isPresent, hfound]
    · cases hfile
  · unfold Files.Tree.list at h
    unfold Files.Tree.isPresent
    cases hfind : files.find true path with
    | error e =>
      rw [hfind] at h
      cases h
    | ok found => rfl

/-- What is provided was found in its place. -/
theorem isWarm_of_provide {sdk : Sdk}
    (h : (Sdk.provide loader config).run host = (.ok sdk, later)) :
    IsWarm loader config later.files := by
  intro hpath husable
  obtain ⟨answer, after, hplace⟩ : ∃ answer after,
      (Sdk.directory loader config).run host = (answer, after) := ⟨_, _, rfl⟩
  unfold Sdk.provide at h
  rw [run_bind_eq hplace] at h
  cases answer with
  | error e => cases h
  | ok directory =>
    have hdirectory : directory = place loader config := by
      rw [Sdk.directory, hpath] at hplace
      exact Fetch.Loader.eq_of_performed_fetch (.archive config.url) (congrArg Prod.fst hplace)
    subst hdirectory
    have hlook : (Host.look fun files => Sdk.locate files (place loader config)).run after =
        (Sdk.locate after.files (place loader config), after) := rfl
    dsimp only at h
    rw [run_bind_eq hlook] at h
    cases hlocate : Sdk.locate after.files (place loader config) with
    | none =>
      rw [hlocate] at h
      cases h
    | some root =>
      rw [hlocate] at h
      cases h
      have hplain := Fetch.isPlain_of_isUsableName husable
      exact isPresent_of_locate (Files.join_ne_empty loader.cacheDirectory hplain) hlocate

/-- The installation is fetched, if it is, as the archive at its address. -/
theorem spares_provide (host : Host) (hneat : loader.IsNeat host.files) :
    loader.Spares (Artefact.archive config.url).entry host.files
      ((Sdk.provide loader config).run host).2.files := by
  obtain ⟨answer, after, hplace⟩ : ∃ answer after,
      (Sdk.directory loader config).run host = (answer, after) := ⟨_, _, rfl⟩
  have hafter : loader.Spares (Artefact.archive config.url).entry host.files after.files := by
    unfold Sdk.directory at hplace
    cases hpath : config.path with
    | some path =>
      rw [hpath] at hplace
      cases hplace
      exact .unchanged
    | none =>
      rw [hpath] at hplace
      have := (Fetch.Loader.leaves_fetch hneat (.archive config.url) host rfl).1
      rwa [show (performed ((Artefact.archive config.url).fetch loader) host).2 = after from
        congrArg Prod.snd hplace] at this
  have hprovide : ((Sdk.provide loader config).run host).2.files = after.files := by
    unfold Sdk.provide
    rw [run_bind_eq hplace]
    cases answer with
    | error e => rfl
    | ok directory =>
      have hlook : (Host.look fun files => Sdk.locate files directory).run after =
          (Sdk.locate after.files directory, after) := rfl
      dsimp only
      rw [run_bind_eq hlook]
      cases Sdk.locate after.files directory <;> rfl
  rwa [hprovide]

/-- Whether or not the compiler is kept, a load finds what it needs. -/
theorem preserves_load (session : Session) (h : IsWarm loader config session.host.files) :
    Preserves Session.scene (load (.ofLoader loader config)) session := by
  cases hloaded : session.compiler with
  | some sdk =>
    unfold Preserves
    rw [load_of_some loader config hloaded]
  | none =>
    obtain ⟨log, hload⟩ := load_provide loader config session hloaded
    unfold Preserves
    rw [hload]
    exact preserves_provide (begun session.host) h

theorem preserves_compile (sdk : Sdk) (request : Request) (host : Host) :
    Preserves Host.scene (sdk.compile request) host := by
  unfold Sdk.compile
  refine Preserves.bind rfl fun _ _ _ _ => Preserves.bind rfl fun found _ _ _ => ?_
  cases found with
  | error e => rfl
  | ok script =>
    dsimp only
    split
    · exact Preserves.bind rfl fun _ _ _ _ => rfl
    · rfl

/-- A run asks no server, whatever there is. -/
theorem preserves_run (policy : Guest.ImportPolicy) (dialect : Dialect) (submission : Submission) :
    Preserves Session.scene (run (.ofLoader loader config) policy dialect submission) session := by
  unfold run
  refine Preserves.bind rfl fun read after hrun _ => ?_
  cases hkept : (Toolchain.ofLoader loader config).slot.kept read with
  | none => rfl
  | some sdk =>
    have hcompile (request : Request) :
        Preserves Session.scene (Session.onHost (sdk.compile request)) after :=
      Session.preserves_onHost (preserves_compile sdk request after.host)
    refine (hcompile _).bind fun answer _ _ _ => ?_
    dsimp only
    generalize report policy dialect answer = reported
    rfl

/-- A load that succeeds leaves the compiler in its place, and keeps it. -/
theorem isWarm_of_load (session : Session) (hunloaded : session.compiler = none)
    (h : (load (.ofLoader loader config)).run session = (.ok (), after)) :
    IsWarm loader config after.host.files ∧ after.compiler.isSome := by
  obtain ⟨log, hload⟩ := load_provide loader config session hunloaded
  obtain ⟨provided, later, hprovide⟩ : ∃ provided later,
      (Sdk.provide loader config).run (begun session.host) = (provided, later) := ⟨_, _, rfl⟩
  rw [hprovide] at hload
  cases provided with
  | error e => cases hload.symm.trans h
  | ok sdk =>
    obtain ⟨-, rfl⟩ := Prod.mk.inj (hload.symm.trans h)
    have hwarm : IsWarm loader config later.files := isWarm_of_provide hprovide
    exact ⟨hwarm, rfl⟩

theorem spares_load (config : Config.Compiler) (session : Session)
    (hneat : loader.IsNeat session.host.files) :
    loader.Spares (Artefact.archive config.url).entry session.host.files
      ((load (.ofLoader loader config)).run session).2.host.files := by
  cases hloaded : session.compiler with
  | some sdk =>
    rw [load_of_some loader config hloaded]
    exact .unchanged
  | none =>
    obtain ⟨log, hload⟩ := load_provide loader config session hloaded
    rw [hload]
    exact spares_provide (begun session.host) hneat

end Compiled

/-! ### The configured backends -/

namespace Registry

variable {loader : Loader} {config : Config} {session after : Session} {host : Host}
  {files later : Files.Tree} {language : String} {backend : Backend Session}

/-- The configured backends, in order. -/
theorem backends_ofLoader (loader : Loader) (config : Config) :
    (ofLoader loader config).backends =
      [("javascript", JavaScript.backend),
        ("python", Python.backend (.ofLoader loader config.python)),
        ("c", Compiled.backend (.ofLoader loader config.compiler) (policyOf config.compiler) .c),
        ("cpp", Compiled.backend (.ofLoader loader config.compiler) (policyOf config.compiler)
          .cpp)] := by
  have hjavascript : Text.lowercase "javascript" = "javascript" := by decide
  have hpython : Text.lowercase "python" = "python" := by decide
  have hc : Text.lowercase "c" = "c" := by decide
  have hcpp : Text.lowercase "cpp" = "cpp" := by decide
  simp [ofLoader, register, put, empty, JavaScript.backend, Python.backend, Compiled.backend,
    Compiled.Dialect.language, hjavascript, hpython, hc, hcpp]

/-- All that the backend for a language needs is in its place, or is not downloaded. -/
structure IsWarm (loader : Loader) (config : Config) (language : String) (files : Files.Tree) :
    Prop where
  /-- The interpreter. -/
  python : language = "python" → Python.IsWarm loader config.python files
  /-- The installation of the compiler. -/
  compiled : language = "c" ∨ language = "cpp" → Compiled.IsWarm loader config.compiler files

/-- It does not matter what else there is. -/
theorem IsWarm.congr (h : IsWarm loader config language files)
    (hsame : ∀ name, Files.IsPlain name → later.isPresent (join loader.cacheDirectory name) =
      files.isPresent (join loader.cacheDirectory name)) : IsWarm loader config language later where
  python hlanguage hpath husable := by
    rw [hsame _ (Artefact.isPlain_entry _ husable)]
    exact h.python hlanguage hpath husable
  compiled hlanguage hpath husable := by
    rw [hsame _ (Artefact.isPlain_entry _ husable)]
    exact h.compiled hlanguage hpath husable

/-- A backend that finds what it needs asks no server and changes no file. -/
theorem preserves_backend (hmem : (language, backend) ∈ (ofLoader loader config).backends)
    (h : IsWarm loader config language session.host.files) :
    Preserves Session.scene backend.load session ∧
      ∀ submission, Preserves Session.scene (backend.run submission) session := by
  rw [backends_ofLoader] at hmem
  simp only [List.mem_cons, Prod.mk.injEq, List.not_mem_nil, or_false] at hmem
  obtain ⟨rfl, rfl⟩ | ⟨rfl, rfl⟩ | ⟨rfl, rfl⟩ | ⟨rfl, rfl⟩ := hmem
  · exact ⟨rfl, fun _ => rfl⟩
  · exact ⟨Python.preserves_load session (h.python rfl), Python.preserves_run (h.python rfl)⟩
  · exact ⟨Compiled.preserves_load session (h.compiled (.inl rfl)), Compiled.preserves_run _ _⟩
  · exact ⟨Compiled.preserves_load session (h.compiled (.inr rfl)), Compiled.preserves_run _ _⟩

/-- Backends that find what they need, one after another. -/
theorem preserves_loadEach {backends : List (String × Backend Session)}
    (h : ∀ entry ∈ backends, entry ∈ (ofLoader loader config).backends ∧
      IsWarm loader config entry.1 session.host.files) :
    Preserves Session.scene (loadEach backends) session := by
  induction backends generalizing session with
  | nil => rfl
  | cons entry backends ih =>
    obtain ⟨language, backend⟩ := entry
    obtain ⟨hmem, hwarm⟩ := h _ List.mem_cons_self
    have hload := (preserves_backend hmem hwarm).1
    unfold Preserves at hload ih ⊢
    rw [Registration.loadEach_cons]
    dsimp only
    rw [ih fun entry hentry => ⟨(h entry (List.mem_cons_of_mem _ hentry)).1, ?_⟩]
    · exact hload
    · rw [show (Logging.add _ (backend.load.run session).2 : Session).host.files = _ from
        congrArg Prod.fst hload]
      exact (h entry (List.mem_cons_of_mem _ hentry)).2

/-- A backend that is made ready by a new process has what it needs in its place. -/
theorem isWarm_of_load (hmem : (language, backend) ∈ (ofLoader loader config).backends)
    (h : backend.load.run { host := host } = (.ok (), after)) :
    IsWarm loader config language after.host.files := by
  rw [backends_ofLoader] at hmem
  simp only [List.mem_cons, Prod.mk.injEq, List.not_mem_nil, or_false] at hmem
  obtain ⟨rfl, rfl⟩ | ⟨rfl, rfl⟩ | ⟨rfl, rfl⟩ | ⟨rfl, rfl⟩ := hmem
  · exact ⟨by simp, by simp⟩
  · exact ⟨fun _ => Python.isWarm_of_load _ rfl h, by simp⟩
  · exact ⟨by simp, fun _ => (Compiled.isWarm_of_load _ rfl h).1⟩
  · exact ⟨by simp, fun _ => (Compiled.isWarm_of_load _ rfl h).1⟩

/-- The first backend is loaded, and then the others are. -/
theorem loadEach_cons_eq (language : String) (backend : Backend Session)
    (backends : List (String × Backend Session)) (session : Session) :
    ∃ log, ((loadEach ((language, backend) :: backends)).run session).2 =
      ((loadEach backends).run ((backend.load.run session).2.withLog log)).2 := by
  rw [Registration.loadEach_cons]
  exact ⟨(backend.load.run session).2.host.log ++ _, rfl⟩

/-- If the first backend is made ready, that is reported, and then the others are loaded. -/
theorem loadEach_cons_ok {middle : Session} (language : String)
    (backends : List (String × Backend Session)) (h : backend.load.run session = (.ok (), middle)) :
    ∃ log, (loadEach ((language, backend) :: backends)).run session =
      ((language, .ok ()) :: ((loadEach backends).run (middle.withLog log)).1,
        ((loadEach backends).run (middle.withLog log)).2) := by
  rw [Registration.loadEach_cons, h]
  exact ⟨middle.host.log ++ _, rfl⟩

/-- If all backends are made ready, the first is, and then the others are. -/
theorem of_loadEach_cons {backends : List (String × Backend Session)}
    {outcomes : List (String × Except LoadError Unit)}
    (h : (loadEach ((language, backend) :: backends)).run session = (outcomes, after))
    (hok : ∀ entry ∈ outcomes, entry.2.isOk = true) :
    ∃ middle log rest, backend.load.run session = (.ok (), middle) ∧
      (loadEach backends).run (middle.withLog log) = (rest, after) ∧
        ∀ entry ∈ rest, entry.2.isOk = true := by
  rw [Registration.loadEach_cons] at h
  obtain ⟨rfl, hrest⟩ := Prod.mk.inj h
  obtain ⟨hfirst, hothers⟩ := List.forall_mem_cons.1 hok
  obtain ⟨outcome, middle, hload⟩ : ∃ outcome middle,
      backend.load.run session = (outcome, middle) := ⟨_, _, rfl⟩
  rw [hload] at hfirst hrest hothers
  cases outcome with
  | error e => cases hfirst
  | ok answer =>
    exact ⟨middle, middle.host.log ++ Registration.outcomeLog language (.ok ()), _, hload,
      Prod.ext rfl hrest, hothers⟩

/-- Backends that are all made ready by a new process have what they need in its place. The
interpreter stays there while the compiler is fetched if the cache has no symbolic links. -/
theorem isWarm_of_loadEach {outcomes : List (String × Except LoadError Unit)}
    (h : (loadEach (ofLoader loader config).backends).run { host := host } = (outcomes, after))
    (hok : ∀ entry ∈ outcomes, entry.2.isOk = true)
    (hneat : language = "python" → config.python.path = none → loader.IsNeat host.files) :
    IsWarm loader config language after.host.files := by
  rw [backends_ofLoader] at h
  obtain ⟨start, log₁, _, hjavascript, h, hok⟩ := of_loadEach_cons h hok
  cases hjavascript
  obtain ⟨ready, log₂, _, hpython, h, hok⟩ := of_loadEach_cons h hok
  obtain ⟨compiled, log₃, _, hc, h, hok⟩ := of_loadEach_cons h hok
  obtain ⟨done, log₄, _, hcpp, h, -⟩ := of_loadEach_cons h hok
  cases h
  have hpython : (Python.load (.ofLoader loader config.python)).run
      ({ host := { host with log := log₁ } } : Session) = (.ok (), ready) := hpython
  have hc : (Compiled.load (.ofLoader loader config.compiler)).run (ready.withLog log₂) =
      (.ok (), compiled) := hc
  -- the compiler is not ready before it is asked for, and is ready from then on
  have hready : ready.compiler = none := by
    obtain ⟨_, hload⟩ := Python.load_fetch loader config.python
      { host := { host with log := log₁ } } rfl
    exact (congrArg (fun ended => ended.2.compiler) (hpython.symm.trans hload)).trans rfl
  obtain ⟨hcompiled, hsome⟩ := Compiled.isWarm_of_load (ready.withLog log₂) hready hc
  obtain ⟨sdk, hsome⟩ := Option.isSome_iff_exists.1 hsome
  have hdone : done = compiled.withLog log₃ := by
    have hsome : (compiled.withLog log₃).compiler = some sdk := hsome
    have hkept := Compiled.load_of_some loader config.compiler hsome
    exact (Prod.mk.inj (hcpp.symm.trans hkept)).2
  subst hdone
  refine ⟨fun hlanguage hpath => ?_, fun _ => hcompiled⟩
  have hneat := hneat hlanguage hpath
  have hspares := Python.spares_load config.python { host := { host with log := log₁ } } hneat
  rw [hpython] at hspares
  have hspares' := Compiled.spares_load config.compiler (ready.withLog log₂)
    (hspares.isNeat hneat)
  rw [hc] at hspares'
  exact (Python.isWarm_of_load _ rfl hpython hpath).spares hspares'

/-- The backends before that for a language. -/
def before (registry : Registry Session) (language : String) : List (String × Backend Session) :=
  registry.backends.takeWhile fun entry => entry.1 != language

/-- What the backend for a language needs stays in its place while those before it are loaded. For
the compiler, this is so if the cache has no symbolic links. -/
theorem IsWarm.loadEach_before (h : IsWarm loader config language session.host.files)
    (hneat : language = "c" ∨ language = "cpp" → config.python.path = none →
      loader.IsNeat session.host.files) :
    IsWarm loader config language
      ((loadEach (before (ofLoader loader config) language)).run session).2.host.files := by
  -- what is logged in between does not matter
  have hpython : language = "c" ∨ language = "cpp" → ∀ log, Compiled.IsWarm loader config.compiler
      ((Python.load (.ofLoader loader config.python)).run (session.withLog log)).2.host.files := by
    intro hlanguage log
    cases hpath : config.python.path with
    | some path =>
      have hwarm : Python.IsWarm loader config.python session.host.files := fun hnone =>
        nomatch hpath.symm.trans hnone
      have hsame := Python.preserves_load (session.withLog log) hwarm
      have hfiles : ((Python.load (.ofLoader loader config.python)).run
          (session.withLog log)).2.host.files = session.host.files := congrArg Prod.fst hsame
      rw [hfiles]
      exact h.compiled hlanguage
    | none =>
      exact fun hcompiler => (h.compiled hlanguage hcompiler).spares
        (Python.spares_load config.python (session.withLog log) (hneat hlanguage hpath))
  rw [before, backends_ofLoader]
  constructor
  · rintro rfl
    rw [List.takeWhile_cons_of_pos (by simp), List.takeWhile_cons_of_neg (by simp)]
    obtain ⟨log, hlater⟩ := loadEach_cons_eq "javascript" JavaScript.backend [] session
    rw [hlater]
    exact h.python rfl
  · intro hlanguage
    have hne : language ≠ "javascript" ∧ language ≠ "python" := by
      rcases hlanguage with rfl | rfl <;> simp
    rw [List.takeWhile_cons_of_pos (by simpa using hne.1.symm),
      List.takeWhile_cons_of_pos (by simpa using hne.2.symm)]
    generalize hrest :
      List.takeWhile (fun entry => entry.1 != language) [("c", _), ("cpp", _)] = rest
    obtain ⟨log, hlater⟩ := loadEach_cons_eq "javascript" JavaScript.backend
      (("python", Python.backend (.ofLoader loader config.python)) :: rest) session
    obtain ⟨log', hlater'⟩ := loadEach_cons_eq "python"
      (Python.backend (.ofLoader loader config.python)) rest (session.withLog log)
    have hwarm := hpython hlanguage log
    generalize hreached : (Python.load (.ofLoader loader config.python)).run (session.withLog log) =
      reached at hwarm
    have hlater : ((loadEach (("javascript", JavaScript.backend) ::
        ("python", Python.backend (.ofLoader loader config.python)) :: rest)).run session).2 =
          ((loadEach rest).run (reached.2.withLog log')).2 :=
      hlater.trans (hlater'.trans (hreached ▸ rfl))
    rw [hlater]
    rcases hlanguage with rfl | rfl
    · rw [List.takeWhile_cons_of_neg (by simp)] at hrest
      subst hrest
      exact hwarm
    · rw [List.takeWhile_cons_of_pos (by simp), List.takeWhile_cons_of_neg (by simp)] at hrest
      subst hrest
      obtain ⟨log'', hlater⟩ := loadEach_cons_eq "c" (Compiled.backend
        (.ofLoader loader config.compiler) (policyOf config.compiler) .c) []
        (reached.2.withLog log')
      have hload := Compiled.preserves_load (reached.2.withLog log') hwarm
      rw [hlater]
      have hfiles : ((Compiled.load (.ofLoader loader config.compiler)).run
          (reached.2.withLog log')).2.host.files = reached.2.host.files := congrArg Prod.fst hload
      exact hfiles ▸ hwarm

end Registry

end Sandbox
