import Sandbox.Proofs.Fetch.Installing
import Sandbox.Proofs.Fetch.Retrying
import Sandbox.Proofs.Registry.Loading

/-!
# Loads of the compiler that are tried again

An installation is put into its place in the cache once all of its archive was unpacked, and a
compiler is looked for only then. As long as nothing is in the place, each load asks a server, and
the compiler is ready as soon as one of them delivers an archive that has it. If an archive without
a compiler was put into the place, it stays there: no later load asks a server, and all of them fail
in the same way.

## Main definitions

* `place` : where an installation is put.
* `located` : the compiler that is found there.
* `Standing` : how things stand after loads in a row.

## Main results

* `load_awaits`, `load_placed` : a load if nothing is in the place of the installation, and one if
  something is there.
* `load_delivered` : a load to which an archive with a compiler is delivered.
* `loads_unlocated` : loads if no compiler is found in the place.
* `loads_resumed` : what comes of a load after others.
-/

namespace Sandbox.Compiled

open Fetch (Loader Artefact cacheName performed)
open Sandbox.Path (join)

variable {loader : Loader} {config : Config.Compiler} {session : Session} {host after : Host}
  {base : Files.Location} {traffic : Http.Traffic} {outcome : Except LoadError Unit}

/-! ### The place of the compiler -/

/-- Where an installation is put. -/
def place (loader : Loader) (config : Config.Compiler) : String :=
  loader.archivePath (cacheName config.url)

/-- No compiler is found. -/
def unlocated (loader : Loader) (config : Config.Compiler) : LoadError :=
  .toolchain ("No wasi-sdk clang found under " ++ Text.quotedPath (place loader config))

/-- The compiler that is found in the place, where the files are as given. -/
def located (loader : Loader) (config : Config.Compiler) (files : Files.Tree) :
    Except LoadError Sdk :=
  match Sdk.locate files (place loader config) with
  | some root => .ok (.ofConfig root config)
  | none => .error (unlocated loader config)

theorem located_of_none {files : Files.Tree}
    (h : Sdk.locate files (place loader config) = none) :
    located loader config files = .error (unlocated loader config) := by
  unfold located
  rw [h]

theorem located_of_some {files : Files.Tree} {root : String}
    (h : Sdk.locate files (place loader config) = some root) :
    located loader config files = .ok (.ofConfig root config) := by
  unfold located
  rw [h]

/-- A compiler that is in its place in an installation. -/
theorem locate_of_isAt {files : Files.Tree} {path : String} {content : Files.Content}
    {isExecutable : Bool} (hat : files.IsAt path base)
    (hinner : Files.entryOf path "bin" base = .ok (base ++ ["bin"]))
    (hdirectory : files.under base ["bin"] = some .directory)
    (hentry : Files.entryOf (join path "bin") "clang" (base ++ ["bin"]) =
      .ok (base ++ ["bin"] ++ ["clang"]))
    (hfile : files.under base ["bin", "clang"] = some (.file content isExecutable)) :
    Sdk.locate files path = some path := by
  have hbin : Files.IsPlain "bin" := ⟨by decide, by decide⟩
  have hclang : Files.IsPlain "clang" := ⟨by decide, by decide⟩
  have hat := hat.inner hbin (Files.short_of_entryOf hinner) hdirectory
  have hfile : files.node? (base ++ ["bin"] ++ ["clang"]) = some (.file content isExecutable) := by
    rw [List.append_assoc]
    exact hfile
  have hlink : ∀ target, files.node? (base ++ ["bin"] ++ ["clang"]) ≠ some (.link target) := by
    rw [hfile]
    simp
  have hfind := hat.find_join hclang fun _ : true = true => hlink
  rw [hentry] at hfind
  simp only [Except.bind, hfile] at hfind
  have hisFile : files.isFile (Sdk.driver path .c) = true := by
    change files.isFile (join (join path "bin") "clang") = true
    rw [Files.Tree.isFile, hfind]
    rfl
  rw [Sdk.locate, if_pos hisFile]

/-- A compiler is looked for in the place once the archive was fetched. -/
theorem provide_run (hpath : config.path = none)
    (h : performed ((Artefact.archive config.url).fetch loader) host =
      (outcome.map fun _ => place loader config, after)) :
    ∃ log, (Sdk.provide loader config).run host =
      (outcome.bind fun _ => located loader config after.files, { after with log := log }) := by
  have hdirectory : (Sdk.directory loader config).run host =
      (outcome.map fun _ => place loader config, after) := by
    rw [Sdk.directory, hpath]
    exact h
  unfold Sdk.provide
  rw [run_bind_eq hdirectory]
  cases outcome with
  | error e => exact ⟨after.log, rfl⟩
  | ok _ =>
    have hlook : (Host.look fun files => Sdk.locate files (place loader config)).run after =
        (Sdk.locate after.files (place loader config), after) := rfl
    dsimp only [Except.map, Except.bind]
    rw [run_bind_eq hlook]
    unfold located
    cases Sdk.locate after.files (place loader config) with
    | none => exact ⟨after.log, rfl⟩
    | some root => exact ⟨_, rfl⟩

/-! ### Loads -/

/-- The host once a load has begun. -/
def begun (host : Host) : Host :=
  { host with log := host.log ++ [⟨.info, target, "Loading C/C++ compiler"⟩] }

variable (loader config session) in
/-- What a load does to files and servers is what providing does. -/
theorem load_provide (hunloaded : session.compiler = none) :
    let provided := (Sdk.provide loader config).run (begun session.host)
    ∃ log, (load (.ofLoader loader config)).run session =
      (provided.1.map fun _ => (),
        { session with
          host := { provided.2 with log := log }
          compiler := provided.1.toOption }) := by
  obtain ⟨host, compiler, interpreter⟩ := session
  obtain rfl : compiler = none := hunloaded
  obtain ⟨answer, after, hprovide⟩ : ∃ answer after,
      (Sdk.provide loader config).run (begun host) = (answer, after) := ⟨_, _, rfl⟩
  have hran : (Toolchain.ofLoader loader config).provide.run
      (Logging.add [⟨.info, target, "Loading C/C++ compiler"⟩] ⟨host, none, interpreter⟩) =
        (answer, ⟨after, none, interpreter⟩) :=
    let session : Session := ⟨begun host, none, interpreter⟩
    have hprovide : (Sdk.provide loader config).run session.host = (answer, after) := hprovide
    Session.onHost_run hprovide
  have hempty : (Toolchain.ofLoader loader config).slot.kept ⟨host, none, interpreter⟩ = none := rfl
  have hload := load_eq_of_empty hempty
  simp only [hran] at hload
  rw [hprovide, hload]
  cases answer with
  | error e => exact ⟨_, rfl⟩
  | ok sdk => exact ⟨after.log, rfl⟩

variable (loader config) in
theorem load_of_some {sdk : Sdk} (h : session.compiler = some sdk) :
    (load (.ofLoader loader config)).run session = (.ok (), session) :=
  load_of_kept h

/-- A load looks for the compiler in its place once the archive was fetched, and keeps it if it is
there. -/
theorem load_run {files : Files.Tree} {log : Log} (hpath : config.path = none)
    (hunloaded : session.compiler = none)
    (h : performed ((Artefact.archive config.url).fetch loader) (begun session.host) =
      (outcome.map fun _ => place loader config, ⟨files, traffic, log⟩)) :
    ∃ log, (load (.ofLoader loader config)).run session =
      ((outcome.bind fun _ => located loader config files).map fun _ => (),
        { session with
          host := ⟨files, traffic, log⟩
          compiler := (outcome.bind fun _ => located loader config files).toOption }) := by
  obtain ⟨log, hprovide⟩ := provide_run hpath h
  have hload := load_provide loader config session hunloaded
  rw [hprovide] at hload
  exact hload

variable (session) in
/-- If something is in the place of the installation, a compiler is looked for in it. No server is
asked and no file changes. -/
theorem load_placed (hpath : config.path = none) (hunloaded : session.compiler = none)
    (husable : Fetch.isUsableName (cacheName config.url) = true)
    (hpresent : session.host.files.isPresent (place loader config) = .ok true) :
    ∃ log, (load (.ofLoader loader config)).run session =
      ((located loader config session.host.files).map fun _ => (),
        { session with
          host := { session.host with log := log }
          compiler := (located loader config session.host.files).toOption }) := by
  have hpresent : (begun session.host).files.isPresent
      (Path.join loader.cacheDirectory (Artefact.archive config.url).entry) = .ok true := hpresent
  obtain ⟨log, hperformed⟩ : ∃ log,
      performed ((Artefact.archive config.url).fetch loader) (begun session.host) =
        (.ok (place loader config), { begun session.host with log := log }) :=
    Loader.performed_present husable hpresent
  have hperformed : performed ((Artefact.archive config.url).fetch loader) (begun session.host) =
      ((Except.ok () : Except LoadError Unit).map fun _ => place loader config,
        ⟨session.host.files, session.host.traffic, log⟩) := hperformed
  obtain ⟨log, hload⟩ := load_run hpath hunloaded hperformed
  dsimp only [Except.bind] at hload
  exact ⟨log, hload⟩

/-- If nothing is in the place of the installation, a server is asked. A compiler is looked for once
an archive was put into the place. -/
theorem load_awaits {answer : Except LoadError Files.Content} (hpath : config.path = none)
    (hunloaded : session.compiler = none) (hawaits : loader.Awaits base config.url session.host)
    (hdownload : (loader.client.download config.url).run session.host.traffic =
      (answer, traffic)) :
    ∃ outcome files log, loader.Attempt base config.url session.host.files answer outcome files ∧
      (load (.ofLoader loader config)).run session =
        ((outcome.bind fun _ => located loader config files).map fun _ => (),
          { session with
            host := ⟨files, traffic, log⟩
            compiler := (outcome.bind fun _ => located loader config files).toOption }) := by
  have hawaits : loader.Awaits base config.url (begun session.host) :=
    hawaits.grows rfl (.refl session.host.traffic)
  have hdownload : (loader.client.download config.url).run (begun session.host).traffic =
      (answer, traffic) := hdownload
  obtain ⟨outcome, files, log, hattempt, hperformed⟩ :=
    Loader.performed_fetchArchive hawaits hdownload
  obtain ⟨log, hload⟩ := load_run hpath hunloaded hperformed
  exact ⟨outcome, files, log, hattempt, hload⟩

/-- If nothing is in the place of the installation and an archive is delivered that can be unpacked
and has a compiler, a load succeeds. -/
theorem load_delivered {body : Files.Content} {clear unpacked : Files.Tree} {root : String}
    (hpath : config.path = none) (hunloaded : session.compiler = none)
    (hawaits : loader.Awaits base config.url session.host)
    (hdownload : (loader.client.download config.url).run session.host.traffic =
      (.ok body, traffic))
    (hclear : loader.cleared (cacheName config.url) session.host.files = .ok clear)
    (hunpack : Files.unpack body (loader.archiveDraft (cacheName config.url)) clear =
      (.ok (), unpacked))
    (hlocate : Sdk.locate (unpacked.move (base ++ ["temp"] ++ [cacheName config.url])
      (base ++ [cacheName config.url])) (place loader config) = some root) :
    ∃ log, (load (.ofLoader loader config)).run session =
      (.ok (), { session with
        host := ⟨unpacked.move (base ++ ["temp"] ++ [cacheName config.url])
          (base ++ [cacheName config.url]), traffic, log⟩
        compiler := some (.ofConfig root config) }) := by
  obtain ⟨outcome, files, log, hattempt, hload⟩ :=
    load_awaits hpath hunloaded hawaits hdownload
  refine ⟨log, hload.trans ?_⟩
  cases hattempt with
  | broken clears unpacks =>
    cases clears.symm.trans hclear
    cases unpacks.symm.trans hunpack
  | placed clears unpacks =>
    cases clears.symm.trans hclear
    cases unpacks.symm.trans hunpack
    dsimp only [Except.bind]
    rw [located_of_some hlocate]
    rfl

/-! ### Loads in a row -/

/-- How things stand after loads in a row, if nothing was in the place of the installation at the
start. -/
inductive Standing (loader : Loader) (config : Config.Compiler) (base : Files.Location)
    (session : Session) : Prop
  /-- No archive was put into the place. -/
  | waiting (isUnloaded : session.compiler = none)
      (awaits : loader.Awaits base config.url session.host)
  /-- An archive with a compiler was put into the place. -/
  | ready (sdk : Sdk) (isLoaded : session.compiler = some sdk)
  /-- An archive without a compiler was put into the place. -/
  | spoilt (isUnloaded : session.compiler = none)
      (isPresent : session.host.files.isPresent (place loader config) = .ok true)
      (isNone : Sdk.locate session.host.files (place loader config) = none)

section Resumed

variable (policy : Guest.ImportPolicy) (dialect : Dialect) (hpath : config.path = none)

include hpath

/-- If no compiler is found in the place of the installation, what is there stays there, and all
loads fail in the same way, without a request. -/
theorem loads_unlocated (husable : Fetch.isUsableName (cacheName config.url) = true)
    (hunloaded : session.compiler = none)
    (hpresent : session.host.files.isPresent (place loader config) = .ok true)
    (hnone : Sdk.locate session.host.files (place loader config) = none) (count : Nat) :
    ∃ log, ((backend (.ofLoader loader config) policy dialect).loads count).run session =
      (List.replicate count (.error (unlocated loader config)), session.withLog log) := by
  refine Backend.loads_eq_replicate (fun log => ?_) count
  obtain ⟨host, compiler, interpreter⟩ := session
  obtain rfl : compiler = none := hunloaded
  obtain ⟨log', hload⟩ :=
    load_placed ⟨{ host with log := log }, none, interpreter⟩ hpath rfl husable hpresent
  rw [located_of_none hnone] at hload
  exact ⟨log', hload⟩

/-- How things stand after one more load. -/
theorem Standing.after_load (husable : Fetch.isUsableName (cacheName config.url) = true)
    (h : Standing loader config base session) :
    Standing loader config base ((load (.ofLoader loader config)).run session).2 := by
  cases h with
  | ready sdk isLoaded =>
    rw [load_of_some loader config isLoaded]
    exact .ready sdk isLoaded
  | spoilt isUnloaded isPresent isNone =>
    obtain ⟨log, hload⟩ := load_placed session hpath isUnloaded husable isPresent
    rw [located_of_none isNone] at hload
    rw [hload]
    exact .spoilt rfl isPresent isNone
  | waiting isUnloaded awaits =>
    obtain ⟨answer, traffic, hdownload⟩ : ∃ answer traffic,
        (loader.client.download config.url).run session.host.traffic = (answer, traffic) :=
      ⟨_, _, rfl⟩
    obtain ⟨hgrows, hdelivered⟩ := loader.client.download_delivered hdownload
    obtain ⟨outcome, files, log, hattempt, hload⟩ :=
      load_awaits hpath isUnloaded awaits hdownload
    rw [hload]
    cases outcome with
    | error e => exact .waiting rfl (hattempt.awaits awaits hgrows log)
    | ok _ =>
      cases answer with
      | error e => cases hattempt
      | ok body =>
        have hdelivered := (hdelivered body rfl).grows (.refl traffic) (Nat.zero_le _)
        obtain ⟨-, hpresent⟩ := hattempt.isPresent awaits hdelivered hgrows
        dsimp only [Except.bind]
        cases hlocate : Sdk.locate files (place loader config) with
        | none =>
          rw [located_of_none hlocate]
          exact .spoilt rfl hpresent hlocate
        | some root =>
          rw [located_of_some hlocate]
          exact .ready _ rfl

/-- What comes of a load after others, if nothing was in the place of the installation at first. If
one of them succeeded, it succeeds. If no archive was put into the place, it asks the server, and it
succeeds if the archive that is delivered can be unpacked and has a compiler. If an archive without
a compiler was put into the place, this load and all later ones fail alike, without a request. -/
theorem loads_resumed (hunloaded : session.compiler = none)
    (hawaits : loader.Awaits base config.url session.host) {count : Nat}
    {outcomes : List (Except LoadError Unit)} {later : Session}
    (h : ((backend (.ofLoader loader config) policy dialect).loads count).run session =
      (outcomes, later)) :
    (∃ sdk, later.compiler = some sdk ∧
      (backend (.ofLoader loader config) policy dialect).load.run later = (.ok (), later)) ∨
    (later.compiler = none ∧ loader.Awaits base config.url later.host ∧
      ∀ answer traffic,
        (loader.client.download config.url).run later.host.traffic = (answer, traffic) →
        ∃ outcome files log, loader.Attempt base config.url later.host.files answer outcome files ∧
          (backend (.ofLoader loader config) policy dialect).load.run later =
            ((outcome.bind fun _ => located loader config files).map fun _ => (),
              { later with
                host := ⟨files, traffic, log⟩
                compiler := (outcome.bind fun _ => located loader config files).toOption })) ∨
    (later.compiler = none ∧ later.host.files.isPresent (place loader config) = .ok true ∧
      Sdk.locate later.host.files (place loader config) = none ∧
      ∀ more, ∃ log, ((backend (.ofLoader loader config) policy dialect).loads more).run later =
        (List.replicate more (.error (unlocated loader config)), later.withLog log)) := by
  have husable := hawaits.isUsable
  have hstanding : Standing loader config base
      (((backend (.ofLoader loader config) policy dialect).loads count).run session).2 :=
    Backend.loads_keeps (fun _ h => h.after_load hpath husable) count (.waiting hunloaded hawaits)
  rw [h] at hstanding
  cases hstanding with
  | ready sdk isLoaded => exact .inl ⟨sdk, isLoaded, load_of_some loader config isLoaded⟩
  | waiting isUnloaded awaits =>
    exact .inr (.inl ⟨isUnloaded, awaits, fun _ _ hdownload =>
      load_awaits hpath isUnloaded awaits hdownload⟩)
  | spoilt isUnloaded isPresent isNone =>
    exact .inr (.inr ⟨isUnloaded, isPresent, isNone,
      loads_unlocated policy dialect hpath husable isUnloaded isPresent isNone⟩)

end Resumed

/-! ### A connection that breaks -/

section Sample

open Fetch.Loader

/-- An archive with a compiler. -/
def sampleArchive : Files.Content :=
  .archive [.mk "bin/clang" .file (.compiler (.mk false false [] none 0)) 0o755] false

/-- A configuration to which that archive is delivered. -/
def sampleConfig : Config.Compiler :=
  { url := sampleArchiveUrl }

/-- That archive is put into its place, and the compiler in it is found. -/
theorem load_sampleArchive (hunloaded : session.compiler = none)
    (hawaits : sampleLoader.Awaits ["cache"] sampleArchiveUrl session.host)
    (hdownload : (sampleLoader.client.download sampleArchiveUrl).run session.host.traffic =
      (.ok sampleArchive, traffic)) :
    ∃ files log, (load (.ofLoader sampleLoader sampleConfig)).run session =
      (.ok (), { session with
        host := ⟨files, traffic, log⟩
        compiler := some (.ofConfig (place sampleLoader sampleConfig) sampleConfig) }) := by
  have hname := cacheName_sampleArchiveUrl
  have hplain := Fetch.isPlain_of_isUsableName hawaits.isUsable
  obtain ⟨clear, hcleared, hclear⟩ := hawaits.cleared
  have hfile : Files.Entry.IsFileIn (.mk "bin/clang" .file (.compiler (.mk false false [] none 0))
      0o755) "bin" "clang" := ⟨by decide +kernel, rfl, by decide +kernel⟩
  obtain ⟨unpacked, hunpack, hdirectory, hfile⟩ := Files.unpack_file hclear.here hclear.isAt hplain
    hclear.free hfile (by rw [hname]; decide +kernel) hawaits.fits.draft
    (by rw [hname]; decide +kernel) (by rw [hname]; decide +kernel)
  obtain ⟨hgrows, hdelivered⟩ := sampleLoader.client.download_delivered hdownload
  have hattempt : sampleLoader.Attempt ["cache"] sampleArchiveUrl session.host.files
      (.ok sampleArchive) (.ok ()) _ := .placed hcleared hunpack
  have hdelivered := (hdelivered _ rfl).grows (.refl traffic) (Nat.zero_le _)
  obtain ⟨hsound, -⟩ := hattempt.isPresent hawaits hdelivered hgrows
  have hraised : unpacked.Raised ["cache"] "temp" (cacheName sampleArchiveUrl)
      (cacheName sampleArchiveUrl) _ :=
    unpacked.raised_move ["cache"] (cacheName sampleArchiveUrl) hawaits.isEntry
  rw [← hraised.raised] at hdirectory hfile
  have hroot := hclear.directory hawaits.isUsable hunpack
  rw [← Files.Tree.under_nil, ← hraised.raised, Files.Tree.under_nil] at hroot
  have hat := hsound.home.isAt.inner hplain (by rw [hname]; decide) hroot
  have hlocate := locate_of_isAt hat (by rw [hname]; decide +kernel) hdirectory
    (by rw [hname]; decide +kernel) hfile
  have hpath : sampleConfig.path = none := rfl
  obtain ⟨log, hload⟩ :=
    load_delivered hpath hunloaded hawaits hdownload hcleared hunpack hlocate
  exact ⟨_, log, hload⟩

/-- An empty cache, and servers that deliver the archive once a connection to them was broken. -/
def sampleSession : Session where
  host := {
    files := sampleFiles
    traffic := ⟨fun earlier _ =>
      if earlier = 0 then .dropped else .answer 200 none sampleArchive true, []⟩ }

/-- The first load fails, and the next one asks again and succeeds. -/
theorem loads_sampleSession (policy : Guest.ImportPolicy) (dialect : Dialect) :
    ∃ e later, ((backend (.ofLoader sampleLoader sampleConfig) policy dialect).loads 2).run
      sampleSession = ([.error e, .ok ()], later) ∧ later.host.traffic.sent.length = 2 := by
  have hpath : sampleConfig.path = none := rfl
  let asked := sampleLoader.client.asked sampleSession.host.traffic sampleArchiveParts
  have hbroken : (sampleLoader.client.download sampleConfig.url).run sampleSession.host.traffic =
      (.error _, asked) :=
    sampleLoader.client.download_unanswered parse?_sampleArchiveUrl rfl (.inl rfl)
  obtain ⟨outcome, files, log, hattempt, hfirst⟩ :=
    load_awaits hpath rfl (awaits_sampleFiles sampleSession.host.traffic []) hbroken
  cases hattempt with
  | undelivered e =>
    have hdownload : (sampleLoader.client.download sampleArchiveUrl).run asked =
        (.ok sampleArchive, sampleLoader.client.asked asked sampleArchiveParts) :=
      sampleLoader.client.download_answered parse?_sampleArchiveUrl rfl rfl
    let waiting : Session := ⟨⟨sampleFiles, asked, log⟩, none, none⟩
    have hawaits : sampleLoader.Awaits ["cache"] sampleArchiveUrl waiting.host :=
      awaits_sampleFiles asked log
    obtain ⟨files, log', hsecond⟩ := load_sampleArchive rfl hawaits hdownload
    let compiled := backend (.ofLoader sampleLoader sampleConfig) policy dialect
    have hfirst : compiled.load.run sampleSession = (.error _, waiting) := hfirst
    have hsecond : compiled.load.run waiting = (.ok (), _) := hsecond
    exact ⟨_, _, Backend.loads_cons hfirst (Backend.loads_cons hsecond rfl), rfl⟩

end Sample

end Sandbox.Compiled
