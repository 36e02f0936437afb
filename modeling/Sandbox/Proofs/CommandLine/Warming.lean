import Sandbox.Proofs.CommandLine.Running
import Sandbox.Proofs.Fetch.Keeping
import Sandbox.Proofs.Registry.Warming

/-!
# Making backends ready ahead

Backends are made ready for later processes too: what they need is in the cache then. A later
process with the same configuration finds it there and asks no server for it, whatever the servers
would answer.

## Main definitions

* `outcomesOf` : the loads that a call asks for, with what is reported of them.
* `Covers` : the languages that are warm once a call was successful.

## Main results

* `fetch_run` : the command reports the outcomes of loads.
* `fetch_warms` : how the command ends, and what a later process finds.
* `quiet_of_fetch_all` : all languages, in a cache that only the program has changed.
-/

namespace Sandbox.CommandLine

open Sandbox.Path (join)

variable {config : Config} {environment : Config.Environment} {registry : Registry Session}
  {loader : Fetch.Loader} {backend : Backend Session} {language : String}

/-! ### Loads and their outcomes -/

/-- The loads that a call asks for, with what is reported of each of them. There are none for a
language that is not supported. -/
def outcomesOf (registry : Registry Session) :
    Option String → Option (StateM Session (List (String × Except LoadError Unit)))
  | none => some registry.loadAll
  | some language => (registry.find? language).map fun backend => do
    return [(backend.language, ← backend.load)]

/-- The command reports the outcomes of loads. -/
theorem fetch_run (language : Option String) (session : Session)
    (h : buildRegistry config environment = .ok registry) :
    (fetch config environment language).run session =
      match outcomesOf registry language with
      | none => (unsupported registry (language.getD ""), session)
      | some loads => (reportOutcomes (loads.run session).1, (loads.run session).2) := by
  unfold fetch outcomesOf
  rw [h]
  cases language with
  | none => rfl
  | some language =>
    dsimp only
    cases registry.find? language with
    | none => rfl
    | some backend => rfl

theorem exitCode_reportOutcomes (outcomes : List (String × Except LoadError Unit)) :
    (endedBy (reportOutcomes outcomes)).exitCode =
      if outcomes.all fun entry => entry.2.isOk then 0 else 1 :=
  rfl

theorem all_isOk_eq_false_iff (outcomes : List (String × Except LoadError Unit)) :
    (outcomes.all fun entry => entry.2.isOk) = false ↔
      ∃ entry ∈ outcomes, ∃ e, entry.2 = .error e := by
  rw [List.all_eq_false]
  refine exists_congr fun entry => and_congr_right fun _ => ?_
  cases entry.2 <;> simp [Except.isOk, Except.toBool]

/-- How the process ends: it fails exactly if the language is not supported, or if one of the
outcomes is an error. -/
theorem fetch_exit (language : Option String) (session : Session)
    (h : buildRegistry config environment = .ok registry) :
    let code := (endedBy ((fetch config environment language).run session).1).exitCode
    (code = 0 ∨ code = 1) ∧
      (code = 1 ↔ outcomesOf registry language = none ∨ ∃ loads,
        outcomesOf registry language = some loads ∧
          ∃ entry ∈ (loads.run session).1, ∃ e, entry.2 = .error e) := by
  rw [fetch_run language session h]
  cases outcomesOf registry language with
  | none => exact ⟨.inr rfl, fun _ => .inl rfl, fun _ => rfl⟩
  | some loads =>
    simp only [exitCode_reportOutcomes, ← all_isOk_eq_false_iff, reduceCtorEq, false_or,
      Option.some.injEq, exists_eq_left']
    cases (loads.run session).1.all fun entry => entry.2.isOk <;> simp

theorem outcomesOf_eq_none_iff (language : Option String) :
    outcomesOf registry language = none ↔
      ∃ unknown, language = some unknown ∧ Text.lowercase unknown ∉ registry.languages := by
  cases language with
  | none => simp [outcomesOf]
  | some language => simp [outcomesOf, find?_eq_none_iff]

/-- The backends that are set up are those of a loader. -/
theorem eq_of_buildRegistry (h : buildRegistry config environment = .ok registry) :
    ∃ loader, Fetch.Loader.ofConfig config environment = .ok loader ∧
      registry = .ofLoader loader config := by
  unfold buildRegistry Registry.ofConfig at h
  cases hloader : Fetch.Loader.ofConfig config environment with
  | error e =>
    rw [hloader] at h
    cases h
  | ok loader =>
    rw [hloader] at h
    exact ⟨loader, rfl, (Except.ok.inj h).symm⟩

/-- A call that is successful has set up the backends. -/
theorem exists_of_exit {language : Option String} {session after : Session} {finished : Finished}
    (h : (fetch config environment language).run session = (finished, after))
    (hexit : (endedBy finished).exitCode = 0) :
    ∃ loader registry, Fetch.Loader.ofConfig config environment = .ok loader ∧
      buildRegistry config environment = .ok registry ∧ registry = .ofLoader loader config := by
  cases hregistry : buildRegistry config environment with
  | error report =>
    unfold fetch at h
    rw [hregistry] at h
    cases h
    cases hexit
  | ok registry =>
    obtain ⟨loader, hsetup, hloader⟩ := eq_of_buildRegistry hregistry
    exact ⟨loader, registry, hsetup, rfl, hloader⟩

theorem mem_of_find? (h : registry.find? language = some backend) :
    (Text.lowercase language, backend) ∈ registry.backends := by
  obtain ⟨⟨name, found⟩, hfind, rfl⟩ := Option.map_eq_some_iff.1 h
  have hname : name = Text.lowercase language := by simpa using List.find?_some hfind
  exact hname ▸ List.mem_of_find?_eq_some hfind

/-! ### What is warm -/

/-- The languages that are warm once a call was successful: the one that it named, in any spelling,
or all. If the compiler is downloaded after the interpreter, there must be no symbolic link in the
cache through which one download could get at the other. -/
def Covers (loader : Fetch.Loader) (config : Config) (files : Files.Tree) :
    Option String → String → Prop
  | some language, warmed => Text.lowercase warmed = Text.lowercase language
  | none, warmed => Text.lowercase warmed = "python" → config.python.path = none →
    loader.IsNeat files

/-- A call that is successful leaves what the languages need in its place. -/
theorem isWarm_of_fetch {language : Option String} {host : Host} {finished : Finished}
    {after : Session} (hregistry : buildRegistry config environment = .ok registry)
    (hloader : registry = .ofLoader loader config)
    (h : (fetch config environment language).run { host := host } = (finished, after))
    (hexit : (endedBy finished).exitCode = 0) {warmed : String}
    (hcovers : Covers loader config host.files language warmed) :
    Registry.IsWarm loader config (Text.lowercase warmed) after.host.files := by
  rw [fetch_run language _ hregistry] at h
  cases houtcomes : outcomesOf registry language with
  | none =>
    rw [houtcomes] at h
    cases h
    cases hexit
  | some loads =>
    obtain ⟨outcomes, reached, hloads⟩ : ∃ outcomes reached,
        loads.run { host := host } = (outcomes, reached) := ⟨_, _, rfl⟩
    simp only [houtcomes, hloads] at h
    cases h
    have hok : (outcomes.all fun entry => entry.2.isOk) = true := by
      rw [exitCode_reportOutcomes] at hexit
      by_contra hfails
      rw [if_neg hfails] at hexit
      cases hexit
    cases language with
    | none =>
      cases houtcomes
      subst hloader
      exact Registry.isWarm_of_loadEach hloads (List.all_eq_true.1 hok) hcovers
    | some language =>
      obtain ⟨backend, hfind, rfl⟩ := Option.map_eq_some_iff.1 houtcomes
      obtain ⟨outcome, later, hload⟩ : ∃ outcome later,
          backend.load.run { host := host } = (outcome, later) := ⟨_, _, rfl⟩
      rw [run_bind_eq hload] at hloads
      cases hloads
      cases outcome with
      | error e => cases hok
      | ok answer =>
        rw [show Text.lowercase warmed = Text.lowercase language from hcovers]
        exact Registry.isWarm_of_load (hloader ▸ mem_of_find? hfind) hload

/-! ### Later processes -/

section Later

variable {later : Session} {options : RunOptions}

/-- Reading the files of a submission changes nothing. -/
theorem preserves_readWith (registry : Registry Session) (options : RunOptions)
    (session : Session) :
    Preserves Session.scene (readWith (Surroundings.ofRegistry registry).read options).run
      session := by
  have hlook (path : String) (session : Session) :
      ((Surroundings.ofRegistry registry).read path).run session =
        (sourceText session.host.files path, session) := rfl
  have hread := readWith_run (Surroundings.ofRegistry registry).read options session
  unfold Preserves
  rw [hread, hlook]
  cases sourceText session.host.files options.codeFile with
  | error report => rfl
  | ok code =>
    cases options.validation with
    | none => rfl
    | some path =>
      dsimp only
      rw [hlook]
      cases sourceText session.host.files path <;> rfl

/-- A backend that finds what it needs is loaded and runs a submission. -/
theorem preserves_loadAndRun
    (hmem : (language, backend) ∈ (Registry.ofLoader loader config).backends)
    (hwarm : Registry.IsWarm loader config language later.host.files) (submission : Submission) :
    Preserves Session.scene (Surroundings.loadAndRun backend submission) later := by
  obtain ⟨hload, -⟩ := Registry.preserves_backend hmem hwarm
  unfold Surroundings.loadAndRun
  refine hload.bind fun outcome ready _ hready => ?_
  cases outcome with
  | error e => rfl
  | ok answer =>
    refine Preserves.bind rfl fun _ begun _ hbegun => ?_
    have hfiles : begun.host.files = later.host.files := congrArg Prod.fst (hbegun.trans hready)
    exact (Registry.preserves_backend hmem (hfiles ▸ hwarm)).2 submission

variable (hregistry : buildRegistry config environment = .ok registry)
  (hloader : registry = .ofLoader loader config)

include hregistry hloader

/-- A run of a warm language asks no server. -/
theorem preserves_run
    (hwarm : Registry.IsWarm loader config (Text.lowercase options.language) later.host.files) :
    Preserves Session.scene (run config environment options) later := by
  rw [run_eq, hregistry]
  dsimp only
  unfold Surroundings.run
  have hfind : (Surroundings.ofRegistry registry).registry.find? options.language =
      registry.find? options.language := rfl
  rw [hfind]
  cases hbackend : registry.find? options.language with
  | none => rfl
  | some backend =>
    refine (preserves_readWith _ options later).bind fun answer read _ hread => ?_
    cases answer with
    | error report => rfl
    | ok submission =>
      have hfiles : read.host.files = later.host.files := congrArg Prod.fst hread
      have hmem := hloader ▸ mem_of_find? hbackend
      refine (preserves_loadAndRun hmem (hfiles ▸ hwarm) submission).bind fun result _ _ _ => ?_
      exact Preserves.bind rfl fun _ _ _ _ => rfl

/-- A fetch for a warm language asks no server. -/
theorem preserves_fetch
    (hwarm : Registry.IsWarm loader config (Text.lowercase language) later.host.files) :
    Preserves Session.scene (fetch config environment (some language)) later := by
  unfold Preserves
  rw [fetch_run (some language) later hregistry]
  cases hfind : registry.find? language with
  | none => simp [outcomesOf, hfind]
  | some backend =>
    have hload := (Registry.preserves_backend (hloader ▸ mem_of_find? hfind) hwarm).1
    simp only [outcomesOf, hfind, Option.map_some]
    exact hload

/-- A fetch for all languages asks no server if all are warm. -/
theorem preserves_fetch_all
    (hwarm : ∀ warmed, Registry.IsWarm loader config (Text.lowercase warmed) later.host.files) :
    Preserves Session.scene (fetch config environment none) later := by
  unfold Preserves
  rw [fetch_run none later hregistry]
  have hlanguages : registry.backends.map Prod.fst = ["javascript", "python", "c", "cpp"] :=
    languages_of_buildRegistry hregistry
  suffices hwarm : ∀ entry ∈ registry.backends, entry ∈ (Registry.ofLoader loader config).backends ∧
      Registry.IsWarm loader config entry.1 later.host.files from
    Registry.preserves_loadEach hwarm
  refine fun entry hentry => ⟨hloader ▸ hentry, ?_⟩
  have hlower : Text.lowercase entry.1 = entry.1 := by
    have hname := List.mem_map_of_mem (f := Prod.fst) hentry
    rw [hlanguages] at hname
    generalize entry.1 = name at hname
    revert name
    decide
  exact hlower ▸ hwarm entry.1

end Later

/-! ### The command -/

/-- The command reports the outcomes of loads, and fails exactly if the language is not supported or
an outcome is an error. If it is successful, then no later process with the same configuration asks
a server for the languages that it was for, in any spelling, be it for a run or for another fetch,
as long as the same entries are in the cache. What the servers would answer then does not matter. In
a fetch for all languages, it does not matter either what came of those before.

The interpreter and the compiler may both be downloaded in one fetch for all languages. Only there
it is asked that the cache is neat, `Fetch.Loader.IsNeat`: that no entry and no draft is a symbolic
link, through which the download of the one could get at the other. Downloads put no links there, so
this holds of each cache that only the program has changed, see `quiet_of_fetch_all`. -/
theorem fetch_warms (config : Config) (environment : Config.Environment) :
    (∀ registry, buildRegistry config environment = .ok registry → ∀ language session,
      let finished := ((fetch config environment language).run session).1
      let code := (endedBy finished).exitCode
      (∀ loads, outcomesOf registry language = some loads →
        finished = reportOutcomes (loads.run session).1) ∧
      (code = 0 ∨ code = 1) ∧
      (code = 1 ↔
        (∃ unknown, language = some unknown ∧
          Text.lowercase unknown ∉ ["javascript", "python", "c", "cpp"]) ∨
        ∃ loads, outcomesOf registry language = some loads ∧
          ∃ entry ∈ (loads.run session).1, ∃ e, entry.2 = .error e)) ∧
    ∀ language host finished after,
      (fetch config environment language).run { host := host } = (finished, after) →
      (endedBy finished).exitCode = 0 →
      ∃ loader registry, Fetch.Loader.ofConfig config environment = .ok loader ∧
        buildRegistry config environment = .ok registry ∧
        ∀ later : Session,
          (∀ name, Files.IsPlain name →
            later.host.files.isPresent (join loader.cacheDirectory name) =
              after.host.files.isPresent (join loader.cacheDirectory name)) →
          (∀ warmed, Covers loader config host.files language warmed →
            (∀ options, Text.lowercase options.language = Text.lowercase warmed →
              ((run config environment options).run later).2.host.traffic = later.host.traffic) ∧
            ((fetch config environment (some warmed)).run later).2.host.traffic =
              later.host.traffic ∧
            ∀ backend, registry.find? warmed = some backend →
              (Text.lowercase warmed = "c" ∨ Text.lowercase warmed = "cpp" →
                config.python.path = none → loader.IsNeat later.host.files) →
              let reached := ((Registry.loadEach
                (registry.before (Text.lowercase warmed))).run later).2
              (backend.load.run reached).2.host.traffic = reached.host.traffic) ∧
          (language = none → (config.python.path = none → loader.IsNeat host.files) →
            ((fetch config environment none).run later).2.host.traffic = later.host.traffic) := by
  refine ⟨fun registry hregistry language session => ⟨fun loads hloads => ?_, ?_⟩,
    fun language host finished after hfetch hexit => ?_⟩
  · rw [fetch_run language session hregistry, hloads]
  · rw [← languages_of_buildRegistry hregistry, ← outcomesOf_eq_none_iff]
    exact fetch_exit language session hregistry
  · obtain ⟨loader, registry, hsetup, hregistry, hloader⟩ := exists_of_exit hfetch hexit
    refine ⟨loader, registry, hsetup, hregistry, fun later hsame => ⟨fun warmed hcovers => ?_, ?_⟩⟩
    · have hwarm := (isWarm_of_fetch hregistry hloader hfetch hexit hcovers).congr hsame
      refine ⟨fun options hoptions => ?_, ?_, fun backend hfind hneat => ?_⟩
      · rw [← hoptions] at hwarm
        exact congrArg Prod.snd (preserves_run hregistry hloader hwarm)
      · exact congrArg Prod.snd (preserves_fetch hregistry hloader hwarm)
      · have hreached := hwarm.loadEach_before hneat
        rw [← hloader] at hreached
        exact congrArg Prod.snd
          (Registry.preserves_backend (hloader ▸ mem_of_find? hfind) hreached).1
    · rintro rfl hneat
      exact congrArg Prod.snd (preserves_fetch_all hregistry hloader fun warmed =>
        (isWarm_of_fetch hregistry hloader hfetch hexit fun _ => hneat).congr hsame)

/-- Once a call for all languages was successful in a cache that only the program has changed, no
later process with the same configuration asks a server for anything, as long as the same entries
are in the cache. -/
theorem quiet_of_fetch_all {start host : Host} {calls : List Fetch.Call}
    {finished : Finished} {after later : Session}
    (hsetup : Fetch.Loader.ofConfig config environment = .ok loader)
    (hstart : loader.IsVacant start.files) (hreaches : loader.Reaches start calls host)
    (hhere : host.files.here.IsProper)
    (hfetch : (fetch config environment none).run { host := host } = (finished, after))
    (hexit : (endedBy finished).exitCode = 0)
    (hsame : ∀ name, Files.IsPlain name →
      later.host.files.isPresent (join loader.cacheDirectory name) =
        after.host.files.isPresent (join loader.cacheDirectory name)) :
    (∀ options, ((run config environment options).run later).2.host.traffic = later.host.traffic) ∧
      ∀ language, ((fetch config environment language).run later).2.host.traffic =
        later.host.traffic := by
  obtain ⟨other, registry, hother, hregistry, hloader⟩ := exists_of_exit hfetch hexit
  cases hsetup.symm.trans hother
  have hneat : loader.IsNeat host.files := (hreaches.isIntact (.inl hstart)).isNeat hhere
  have hwarm : ∀ warmed, Registry.IsWarm loader config (Text.lowercase warmed) later.host.files :=
    fun warmed => (isWarm_of_fetch hregistry hloader hfetch hexit fun _ _ => hneat).congr hsame
  refine ⟨fun options => congrArg Prod.snd (preserves_run hregistry hloader (hwarm _)),
    fun language => ?_⟩
  cases language with
  | none => exact congrArg Prod.snd (preserves_fetch_all hregistry hloader hwarm)
  | some language => exact congrArg Prod.snd (preserves_fetch hregistry hloader (hwarm language))

section Sample

open Fetch.Loader

/-- The interpreter and the compiler are downloaded. -/
def sampleConfig : Config where
  cache := { directory := some "/cache" }
  network := { maxRedirects := 0, userAgent := some "agent" }
  compiler := Compiled.sampleConfig
  python := Python.sampleConfig

/-- An empty cache, and servers that deliver an interpreter that does nothing and an archive with a
compiler. -/
def sampleHost : Host where
  files := sampleFiles
  traffic := ⟨fun _ url => .answer 200 none
    (if url = sampleParts then .guest Python.sampleInterpreter else Compiled.sampleArchive)
    true, []⟩

/-- The servers once they were asked for the interpreter. -/
def sampleTraffic : Http.Traffic :=
  sampleLoader.client.asked sampleHost.traffic sampleParts

theorem buildRegistry_sampleConfig :
    buildRegistry sampleConfig ⟨none, none⟩ = .ok (.ofLoader sampleLoader sampleConfig) := by
  have hloader : Fetch.Loader.ofConfig sampleConfig ⟨none, none⟩ = .ok sampleLoader := by
    rfl
  rw [buildRegistry, Registry.ofConfig, hloader]
  rfl

/-- The interpreter is put into its place. -/
theorem load_python_sampleHost (log : Log) :
    ∃ files log',
      sampleLoader.Installed ["cache"] sampleUrl (.guest Python.sampleInterpreter) sampleFiles
        sampleTraffic files ∧
      (Python.load (.ofLoader sampleLoader Python.sampleConfig)).run
        (({ host := sampleHost } : Session).withLog log) =
          (.ok (), ⟨⟨files, sampleTraffic, log'⟩, none, some Python.sampleInterpreter⟩) := by
  have hdownload : (sampleLoader.client.download Python.sampleConfig.url).run sampleHost.traffic =
      (.ok (.guest Python.sampleInterpreter), sampleTraffic) :=
    sampleLoader.client.download_answered parse?_sampleUrl rfl rfl
  let session : Session := ({ host := sampleHost } : Session).withLog log
  have hopen : sampleLoader.IsOpen ["cache"] Python.sampleConfig.url session.host :=
    isOpen_sampleFiles sampleHost.traffic log
  obtain ⟨files, log', -, hinstalled, hload⟩ := Python.load_open rfl rfl hopen hdownload
  exact ⟨files, log', hinstalled, hload⟩

/-- A fetch for one language. -/
theorem fetch_python_sampleHost :
    ∃ after, (fetch sampleConfig ⟨none, none⟩ (some "Python")).run { host := sampleHost } =
      (reportOutcomes [("python", .ok ())], after) ∧ after.host.traffic.sent.length = 1 := by
  have hfind : (Registry.ofLoader sampleLoader sampleConfig).find? "Python" =
      some (Python.backend (.ofLoader sampleLoader Python.sampleConfig)) := by
    have hlower : Text.lowercase "Python" = "python" := by decide
    simp [Registry.find?, Registry.backends_ofLoader, hlower, sampleConfig]
  obtain ⟨files, log, -, hload⟩ := load_python_sampleHost []
  let after : Session := ⟨⟨files, sampleTraffic, log⟩, none, some Python.sampleInterpreter⟩
  have hload : (Python.backend (.ofLoader sampleLoader Python.sampleConfig)).load.run
      { host := sampleHost } = (.ok (), after) := hload
  refine ⟨after, ?_, rfl⟩
  rw [fetch_run _ _ buildRegistry_sampleConfig]
  simp only [outcomesOf, hfind, Option.map_some]
  rw [run_bind_eq hload]
  rfl

/-- A fetch for all languages. -/
theorem fetch_all_sampleHost :
    ∃ after, (fetch sampleConfig ⟨none, none⟩ none).run { host := sampleHost } =
      (reportOutcomes [("javascript", .ok ()), ("python", .ok ()), ("c", .ok ()), ("cpp", .ok ())],
        after) ∧ after.host.traffic.sent.length = 2 := by
  let python := Python.backend (.ofLoader sampleLoader Python.sampleConfig)
  let compiled := Compiled.backend (.ofLoader sampleLoader Compiled.sampleConfig)
    (Registry.policyOf Compiled.sampleConfig)
  let start : Session := { host := sampleHost }
  have hjavascript : JavaScript.backend.load.run start = (.ok (), start) := rfl
  obtain ⟨log₁, hrest₁⟩ := Registry.loadEach_cons_ok "javascript"
    [("python", python), ("c", compiled .c), ("cpp", compiled .cpp)] hjavascript
  obtain ⟨files, log, hinstalled, hpython⟩ := load_python_sampleHost log₁
  let loaded : Session := ⟨⟨files, sampleTraffic, log⟩, none, some Python.sampleInterpreter⟩
  have hpython : python.load.run (start.withLog log₁) = (.ok (), loaded) := hpython
  obtain ⟨log₂, hrest₂⟩ := Registry.loadEach_cons_ok "python"
    [("c", compiled .c), ("cpp", compiled .cpp)] hpython
  have hawaits : sampleLoader.Awaits ["cache"] sampleArchiveUrl (loaded.withLog log₂).host := by
    refine (awaits_sampleFiles sampleHost.traffic []).installed hinstalled ?_ ?_ log₂
    · rw [cacheName_sampleArchiveUrl, entry_sampleUrl]
      decide
    · rw [cacheName_sampleArchiveUrl, Fetch.Artefact.draft, cacheName_sampleUrl]
      decide
  have hdownload : (sampleLoader.client.download sampleArchiveUrl).run sampleTraffic =
      (.ok Compiled.sampleArchive, sampleLoader.client.asked sampleTraffic sampleArchiveParts) :=
    sampleLoader.client.download_answered parse?_sampleArchiveUrl rfl rfl
  obtain ⟨files, log, hc⟩ := Compiled.load_sampleArchive rfl hawaits hdownload
  let sdk := Compiled.Sdk.ofConfig (Compiled.place sampleLoader Compiled.sampleConfig)
    Compiled.sampleConfig
  let done : Session := ⟨⟨files, sampleLoader.client.asked sampleTraffic sampleArchiveParts, log⟩,
    some sdk, some Python.sampleInterpreter⟩
  have hc : (compiled .c).load.run (loaded.withLog log₂) = (.ok (), done) := hc
  obtain ⟨log₃, hrest₃⟩ := Registry.loadEach_cons_ok "c" [("cpp", compiled .cpp)] hc
  have hcpp : (compiled .cpp).load.run (done.withLog log₃) = (.ok (), done.withLog log₃) :=
    Compiled.load_of_some sampleLoader Compiled.sampleConfig rfl
  obtain ⟨log₄, hrest₄⟩ := Registry.loadEach_cons_ok "cpp" [] hcpp
  refine ⟨(done.withLog log₃).withLog log₄, ?_, rfl⟩
  rw [fetch_run _ _ buildRegistry_sampleConfig]
  have hloads : (Registry.ofLoader sampleLoader sampleConfig).loadAll.run start =
      ([("javascript", .ok ()), ("python", .ok ()), ("c", .ok ()), ("cpp", .ok ())],
        (done.withLog log₃).withLog log₄) := by
    rw [Registry.loadAll, Registry.backends_ofLoader]
    refine hrest₁.trans ?_
    rw [hrest₂, hrest₃, hrest₄]
    rfl
  simp only [outcomesOf]
  rw [hloads]

/-- Once the interpreter is fetched, with one request, a later process that cannot reach any server
runs a submission. Once everything is fetched, with two requests, a later process asks no server for
anything. -/
theorem fetch_warms_sample :
    (∃ finished after,
      (fetch sampleConfig ⟨none, none⟩ (some "Python")).run { host := sampleHost } =
        (finished, after) ∧
      (endedBy finished).exitCode = 0 ∧ after.host.traffic.sent.length = 1 ∧
      ((run sampleConfig ⟨none, none⟩ ⟨"PYTHON", "a", none, false⟩).run
        { host := { files := after.host.files } }).2.host.traffic.sent = []) ∧
    ∃ finished after,
      (fetch sampleConfig ⟨none, none⟩ none).run { host := sampleHost } = (finished, after) ∧
      (endedBy finished).exitCode = 0 ∧ after.host.traffic.sent.length = 2 ∧
      (∀ options, ((run sampleConfig ⟨none, none⟩ options).run
        { host := { files := after.host.files } }).2.host.traffic.sent = []) ∧
      ((fetch sampleConfig ⟨none, none⟩ none).run
        { host := { files := after.host.files } }).2.host.traffic.sent = [] := by
  obtain ⟨-, hwarms⟩ := fetch_warms sampleConfig ⟨none, none⟩
  refine ⟨?_, ?_⟩
  · obtain ⟨after, hfetch, hsent⟩ := fetch_python_sampleHost
    obtain ⟨loader, registry, -, -, hlater⟩ := hwarms _ _ _ _ hfetch rfl
    obtain ⟨hwarm, -⟩ := hlater { host := { files := after.host.files } } fun _ _ => rfl
    have hcovers : Text.lowercase "python" = Text.lowercase "Python" := by decide
    obtain ⟨hrun, -⟩ := hwarm "python" hcovers
    refine ⟨_, after, hfetch, rfl, hsent, ?_⟩
    rw [hrun ⟨"PYTHON", "a", none, false⟩ (by decide)]
    rfl
  · obtain ⟨after, hfetch, hsent⟩ := fetch_all_sampleHost
    obtain ⟨loader, registry, hsetup, -, hlater⟩ := hwarms _ _ _ _ hfetch rfl
    obtain rfl : sampleLoader = loader := Except.ok.inj hsetup
    have hhere : sampleHost.files.here.IsProper := by
      simp [Files.Location.IsProper, sampleHost, sampleFiles]
    have hneat : sampleLoader.IsNeat sampleHost.files :=
      IsIntact.isNeat (.inl isVacant_sampleFiles) hhere
    obtain ⟨hwarm, hall⟩ := hlater { host := { files := after.host.files } } fun _ _ => rfl
    refine ⟨_, after, hfetch, rfl, hsent, fun options => ?_, ?_⟩
    · rw [(hwarm options.language fun _ _ => hneat).1 options rfl]
      rfl
    · rw [hall rfl fun _ => hneat]
      rfl

end Sample

end Sandbox.CommandLine
