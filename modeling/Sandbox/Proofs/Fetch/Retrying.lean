import Sandbox.Proofs.Fetch.Succeeding
import Sandbox.Session

/-!
# Loads of the interpreter that are tried again

The interpreter is put into its place in the cache once it was delivered, and is tested only then. A
load that fails before that leaves no trace, and the next load asks the servers anew. If a load
fails because what was delivered does not pass the test, it stays in its place: no later load asks
the servers, and each fails as the first one did.

## Main definitions

* `Backend.loads` : loads in a row.
* `Python.verdict` : what the test says of a content.
* `Python.Standing` : how things stand after loads in a row.

## Main results

* `Backend.loads_keeps`, `Backend.loads_eq_replicate` : what loads in a row keep, and loads that
  change nothing.
* `Python.load_run` : a load tests what is fetched.
* `Python.load_open`, `Python.load_placed` : a load if nothing is in the place of the interpreter,
  and one if a content is there.
* `Python.Standing.after_loads` : how things stand after loads in a row.
* `Python.loads_retried` : what comes of a load after others.
-/

namespace Sandbox

/-- Work that follows on other work begins with what that work returned. -/
theorem run_bind_eq {W α β : Type} {first : StateM W α} {next : α → StateM W β} {w after : W}
    {answer : α} (h : first.run w = (answer, after)) :
    (first >>= next).run w = (next answer).run after := by
  rw [StateT.run_bind, h]
  rfl

/-! ### Sessions but for the log -/

namespace Session

/-- The session with another log. -/
def withLog (session : Session) (log : Log) : Session :=
  { session with host := { session.host with log := log } }

theorem say_run (session : Session) (level : Log.Level) (target message : String) :
    (say level target message).run session =
      ((), session.withLog (session.host.log ++ [⟨level, target, message⟩])) :=
  rfl

theorem onHost_run {α : Type} {work : StateM Host α} {session : Session} {answer : α} {after : Host}
    (h : work.run session.host = (answer, after)) :
    (onHost work).run session = (answer, { session with host := after }) := by
  rw [onHost, StateT.run_bind]
  change ((work.run session.host).1, { session with host := (work.run session.host).2 }) = _
  rw [h]

end Session

/-! ### Loads in a row -/

/-- Loads in a row, with what each returned. -/
def Backend.loads {W : Type} (backend : Backend W) : Nat → StateM W (List (Except LoadError Unit))
  | 0 => return []
  | count + 1 => do
    let outcome ← backend.load
    return outcome :: (← backend.loads count)

theorem Backend.loads_cons {W : Type} {backend : Backend W} {w middle later : W}
    {outcome : Except LoadError Unit} {outcomes : List (Except LoadError Unit)} {count : Nat}
    (h : backend.load.run w = (outcome, middle))
    (hloads : (backend.loads count).run middle = (outcomes, later)) :
    (backend.loads (count + 1)).run w = (outcome :: outcomes, later) :=
  (run_bind_eq h).trans ((run_bind_eq hloads).trans rfl)

/-- What a load keeps, loads in a row keep. -/
theorem Backend.loads_keeps {W : Type} {backend : Backend W} {kept : W → Prop}
    (h : ∀ w, kept w → kept (backend.load.run w).2) (count : Nat) {w : W} (hw : kept w) :
    kept ((backend.loads count).run w).2 := by
  induction count generalizing w with
  | zero => exact hw
  | succ count ih => exact ih (h w hw)

/-- If a load changes nothing but the log, all loads after it return the same. -/
theorem Backend.loads_eq_replicate {backend : Backend Session} {session : Session}
    {outcome : Except LoadError Unit}
    (h : ∀ log, ∃ log', backend.load.run (session.withLog log) = (outcome, session.withLog log'))
    (count : Nat) : ∃ log, (backend.loads count).run session =
      (List.replicate count outcome, session.withLog log) := by
  have hloads : ∀ count log, ∃ log', (backend.loads count).run (session.withLog log) =
      (List.replicate count outcome, session.withLog log') := by
    intro count
    induction count with
    | zero => exact fun log => ⟨log, rfl⟩
    | succ count ih =>
      intro log
      obtain ⟨log', hload⟩ := h log
      obtain ⟨log'', hloads⟩ := ih log'
      exact ⟨log'', loads_cons hload hloads⟩
  exact hloads count session.host.log

/-! ### The test of the interpreter -/

namespace Python

open Fetch (Loader Artefact cacheName performed)

variable {loader : Loader} {config : Config.Python} {session : Session} {files : Files.Tree}
  {traffic : Http.Traffic} {content : Files.Content} {base : Files.Location}

/-- What a program comes to on an interpreter, where the files are as given. -/
def interpreted (config : Config.Python) (files : Files.Tree) (m : Guest.Module)
    (program : String) : Captured :=
  match config.libraryDirectory with
  | none => start m program
  | some directory =>
    match exposure { files := files } directory with
    | .ok _ => start m program
    | .error e =>
      ⟨"", "", .error ("Failed to expose " ++ Text.quotedPath directory ++ ": " ++ e.message)⟩

/-- What the test says of a content, where the files are as given. What `Files.Content.guestModule?`
does not read does not pass. -/
def verdict (config : Config.Python) (files : Files.Tree) (content : Files.Content) :
    Except LoadError Guest.Module :=
  match content.guestModule? with
  | .error message => .error (.invalidModule message)
  | .ok m =>
    if config.preload.isEmpty then .ok m
    else
      let captured := interpreted config files m (probeProgram config.preload)
      if captured.succeeded then .ok m else .error (.probe captured.failureMessage)

theorem interpret_run (m : Guest.Module) (program : String) :
    (interpret (.ofLoader loader config) m program).run session =
      (interpreted config session.host.files m program, session) := by
  unfold interpret interpreted
  simp only [Source.ofLoader]
  cases config.libraryDirectory with
  | none => rfl
  | some directory =>
    have hexposure : exposure session.host directory =
        exposure { files := session.host.files } directory := rfl
    simp only [StateT.run_bind, StateT.run_get, pure_bind, hexposure]
    cases exposure { files := session.host.files } directory <;> rfl

variable (session) in
/-- What is fetched is tested. -/
theorem prepare_run {fetched : Except LoadError Files.Content} {after : Host}
    (h : (fetch loader config).run session.host = (fetched, after)) :
    ∃ log, (prepare (.ofLoader loader config)).run session =
      (fetched.bind (verdict config after.files),
        { session with host := { after with log := log } }) := by
  have hfetch : (Source.ofLoader loader config).fetch.run session =
      (fetched, { session with host := after }) := Session.onHost_run h
  have hsource : (Source.ofLoader loader config).preload = config.preload := rfl
  unfold prepare
  rw [run_bind_eq hfetch, hsource]
  cases fetched with
  | error e => exact ⟨after.log, rfl⟩
  | ok content =>
    dsimp only [Except.bind]
    unfold verdict
    cases content.guestModule? with
    | error message => exact ⟨after.log, rfl⟩
    | ok m =>
      dsimp only
      by_cases hpreload : config.preload.isEmpty = true
      · rw [if_pos hpreload, if_pos hpreload]
        exact ⟨after.log, rfl⟩
      · rw [if_neg hpreload, if_neg hpreload]
        have hsay := Session.say_run { session with host := after } .debug target
          ("Probing interpreter: " ++ probeProgram config.preload)
        refine ⟨after.log ++ [⟨.debug, target, "Probing interpreter: " ++
          probeProgram config.preload⟩], (run_bind_eq hsay).trans
            ((run_bind_eq (interpret_run m (probeProgram config.preload))).trans ?_)⟩
        change StateT.run (if (interpreted config after.files m (probeProgram
          config.preload)).succeeded then _ else _) _ = _
        split <;> rfl

/-- The host once a load has begun. -/
def begun (host : Host) : Host :=
  { host with log := host.log ++ [⟨.info, target, "Loading Python interpreter"⟩] }

variable (session) in
/-- A load, if the interpreter is not ready, tests what is fetched, and keeps it if it passes. -/
theorem load_run {fetched : Except LoadError Files.Content} {log : Log}
    (hunloaded : session.interpreter = none)
    (h : (fetch loader config).run (begun session.host) = (fetched, ⟨files, traffic, log⟩)) :
    ∃ log, (load (.ofLoader loader config)).run session =
      ((fetched.bind (verdict config files)).map fun _ => (),
        { session with
          host := ⟨files, traffic, log⟩
          interpreter := (fetched.bind (verdict config files)).toOption }) := by
  obtain ⟨host, compiler, interpreter⟩ := session
  obtain rfl : interpreter = none := hunloaded
  obtain ⟨log, hprepare⟩ := prepare_run ⟨begun host, compiler, none⟩ h
  have hsay := Session.say_run ⟨host, compiler, none⟩ .info target "Loading Python interpreter"
  unfold load obtain
  cases houtcome : fetched.bind (verdict config files) with
  | error e =>
    rw [houtcome] at hprepare
    have hreport := Session.say_run ⟨⟨files, traffic, log⟩, compiler, none⟩ .error target
      ("Failed to load Python interpreter: " ++ e.message)
    exact ⟨_, (run_bind_eq (Slot.obtain_error rfl ((run_bind_eq hsay).trans
      ((run_bind_eq hprepare).trans ((run_bind_eq hreport).trans rfl))))).trans rfl⟩
  | ok m =>
    rw [houtcome] at hprepare
    exact ⟨log, (run_bind_eq (Slot.obtain_ok rfl
      ((run_bind_eq hsay).trans ((run_bind_eq hprepare).trans rfl)))).trans rfl⟩

/-- A load, if the interpreter is ready, does nothing. -/
theorem load_of_some {m : Guest.Module} (hloaded : session.interpreter = some m) :
    (load (.ofLoader loader config)).run session = (.ok (), session) :=
  (run_bind_eq (Slot.obtain_of_some hloaded)).trans rfl

/-! ### The place of the interpreter -/

/-- What is fetched is what is read at the place of the interpreter. -/
theorem fetch_run {host after : Host} {path : String} (hpath : config.path = none)
    (h : performed ((Artefact.module config.url).fetch loader) host = (.ok path, after))
    (hread : after.files.read path = .ok content) :
    (fetch loader config).run host = (.ok content, after) := by
  have hplace : (modulePath loader config).run host = (.ok path, after) := by
    rw [modulePath, hpath]
    exact h
  have hlook : (Host.look (·.read path)).run after = (.ok content, after) := by
    rw [← hread]
    rfl
  unfold fetch
  rw [run_bind_eq hplace]
  exact (run_bind_eq hlook).trans rfl

/-- Nothing is fetched if there is no place. -/
theorem fetch_run_error {host after : Host} {e : LoadError} (hpath : config.path = none)
    (h : performed ((Artefact.module config.url).fetch loader) host = (.error e, after)) :
    (fetch loader config).run host = (.error e, after) := by
  have hplace : (modulePath loader config).run host = (.error e, after) := by
    rw [modulePath, hpath]
    exact h
  unfold fetch
  rw [run_bind_eq hplace]
  rfl

/-- A content is in the place of a module. -/
structure IsPlaced (loader : Loader) (url : String) (files : Files.Tree)
    (content : Files.Content) : Prop where
  /-- The address gives the module a name. -/
  isUsable : Fetch.isUsableName (cacheName url) = true
  /-- Something is in the place. -/
  isPresent : files.isPresent (loader.modulePath (cacheName url)) = .ok true
  /-- It is that content. -/
  read : files.read (loader.modulePath (cacheName url)) = .ok content

/-- A module that was put into its place is found by its path. -/
theorem isPlaced_of_installed {url : String} {before : Files.Tree}
    (husable : Fetch.isUsableName (cacheName url) = true)
    (hfits : loader.Fits base (.module url))
    (h : loader.Installed base url content before traffic files) :
    IsPlaced loader url files content := by
  obtain ⟨hsound, ⟨isExecutable, hfile⟩, -⟩ := h
  have hplain := (Artefact.module url).isPlain_entry husable
  have hlink : ∀ target, files.node? (base ++ [(Artefact.module url).entry]) ≠
      some (.link target) := by simp [hfile]
  have hfound := hsound.home.isAt.find_join hplain fun _ : true = true => hlink
  rw [hfits.entry] at hfound
  simp only [Except.bind, hfile] at hfound
  have hfind : files.find true (loader.modulePath (cacheName url)) = .ok (_, .file content _) :=
    hfound
  exact ⟨husable, by rw [Files.Tree.isPresent, hfind], by rw [Files.Tree.read, hfind]; rfl⟩

variable (session) in
/-- What is in the place of the interpreter is tested. No server is asked and no file changes. -/
theorem load_placed (hpath : config.path = none) (hunloaded : session.interpreter = none)
    (hplaced : IsPlaced loader config.url session.host.files content) :
    ∃ log, (load (.ofLoader loader config)).run session =
      ((verdict config session.host.files content).map fun _ => (),
        { session with
          host := { session.host with log := log }
          interpreter := (verdict config session.host.files content).toOption }) := by
  have hpresent : (begun session.host).files.isPresent
      (Path.join loader.cacheDirectory (Artefact.module config.url).entry) = .ok true :=
    hplaced.isPresent
  obtain ⟨log, hperformed⟩ : ∃ log,
      performed ((Artefact.module config.url).fetch loader) (begun session.host) =
        (.ok (loader.modulePath (cacheName config.url)), { begun session.host with log := log }) :=
    Loader.performed_present hplaced.isUsable hpresent
  have hread : (begun session.host).files.read (loader.modulePath (cacheName config.url)) =
      .ok content := hplaced.read
  exact load_run session hunloaded (fetch_run hpath hperformed hread)

/-- If nothing is in the place of the interpreter, a server is asked. If no module is delivered, no
file changes; otherwise the module is put into the place and tested. -/
theorem load_open {answer : Except LoadError Files.Content} (hpath : config.path = none)
    (hunloaded : session.interpreter = none)
    (hopen : loader.IsOpen base config.url session.host)
    (hdownload : (loader.client.download config.url).run session.host.traffic =
      (answer, traffic)) :
    match Loader.checkModule config.url answer with
    | .error e => ∃ log, (load (.ofLoader loader config)).run session =
        (.error e, { session with host := ⟨session.host.files, traffic, log⟩ })
    | .ok content => ∃ files log, IsPlaced loader config.url files content ∧
        loader.Installed base config.url content session.host.files traffic files ∧
        (load (.ofLoader loader config)).run session =
          ((verdict config files content).map fun _ => (),
            { session with
              host := ⟨files, traffic, log⟩
              interpreter := (verdict config files content).toOption }) := by
  obtain ⟨host, compiler, interpreter⟩ := session
  obtain rfl : interpreter = none := hunloaded
  have hopen : loader.IsOpen base config.url (begun host) := hopen.grows rfl (.refl host.traffic)
  have hdownload : (loader.client.download config.url).run (begun host).traffic =
      (answer, traffic) := hdownload
  cases hchecked : Loader.checkModule config.url answer with
  | error e =>
    obtain ⟨log, hperformed⟩ := Loader.performed_fetchModule_error hopen.isUsable hopen.isAbsent
      hdownload hchecked
    exact load_run ⟨host, compiler, none⟩ rfl (fetch_run_error hpath hperformed)
  | ok content =>
    obtain ⟨rfl, hmodule⟩ := Loader.eq_of_checkModule hchecked
    obtain ⟨files, log, hperformed, hinstalled⟩ :=
      Loader.performed_fetchModule hopen hdownload hmodule
    have hplaced := isPlaced_of_installed hopen.isUsable hopen.fits hinstalled
    obtain ⟨log', hload⟩ :=
      load_run ⟨host, compiler, none⟩ rfl (fetch_run hpath hperformed hplaced.read)
    exact ⟨files, log', hplaced, hinstalled, hload⟩

/-! ### Loads of the interpreter in a row -/

/-- How things stand after loads in a row, if nothing was in the place of the interpreter at the
start. -/
inductive Standing (loader : Loader) (config : Config.Python) (start : Host) (session : Session) :
    Prop
  /-- No module was delivered. -/
  | waiting (isUnloaded : session.interpreter = none) (files : session.host.files = start.files)
      (grows : start.traffic.Grows session.host.traffic)
  /-- A module was delivered that passes the test. -/
  | ready (m : Guest.Module) (isLoaded : session.interpreter = some m)
  /-- A module was delivered that does not pass the test. -/
  | spoilt (content : Files.Content) (e : LoadError) (isUnloaded : session.interpreter = none)
      (isPlaced : IsPlaced loader config.url session.host.files content)
      (fails : verdict config session.host.files content = .error e)

section Retried

variable {start : Host} (hpath : config.path = none)

include hpath

/-- How things stand after one more load. -/
theorem Standing.after_load (hopen : loader.IsOpen base config.url start)
    (h : Standing loader config start session) :
    Standing loader config start ((load (.ofLoader loader config)).run session).2 := by
  cases h with
  | ready m isLoaded =>
    rw [load_of_some isLoaded]
    exact .ready m isLoaded
  | spoilt content e isUnloaded isPlaced fails =>
    obtain ⟨log, hload⟩ := load_placed session hpath isUnloaded isPlaced
    rw [hload, fails]
    exact .spoilt content e rfl isPlaced fails
  | waiting isUnloaded files grows =>
    obtain ⟨answer, traffic, hdownload⟩ : ∃ answer traffic,
        (loader.client.download config.url).run session.host.traffic = (answer, traffic) :=
      ⟨_, _, rfl⟩
    have hload := load_open hpath isUnloaded (hopen.grows files grows) hdownload
    obtain ⟨hgrows, -⟩ := loader.client.download_delivered hdownload
    cases hchecked : Loader.checkModule config.url answer with
    | error e =>
      simp only [hchecked] at hload
      obtain ⟨log, hload⟩ := hload
      rw [hload]
      exact .waiting isUnloaded files (grows.trans hgrows)
    | ok content =>
      simp only [hchecked] at hload
      obtain ⟨files, log, hplaced, -, hload⟩ := hload
      rw [hload]
      cases hverdict : verdict config files content with
      | error e => exact .spoilt content e rfl hplaced hverdict
      | ok m => exact .ready m rfl

/-- How things stand after loads in a row. -/
theorem Standing.after_loads (hopen : loader.IsOpen base config.url start)
    (h : Standing loader config start session) (count : Nat) :
    Standing loader config start
      (((backend (.ofLoader loader config)).loads count).run session).2 :=
  Backend.loads_keeps (fun _ h => h.after_load hpath hopen) count h

/-- A content that does not pass the test is all that any load tests. -/
theorem loads_spoilt {e : LoadError} (hunloaded : session.interpreter = none)
    (hplaced : IsPlaced loader config.url session.host.files content)
    (hfails : verdict config session.host.files content = .error e) (count : Nat) :
    ∃ log, ((backend (.ofLoader loader config)).loads count).run session =
      (List.replicate count (.error e), session.withLog log) := by
  refine Backend.loads_eq_replicate (fun log => ?_) count
  obtain ⟨host, compiler, interpreter⟩ := session
  obtain rfl : interpreter = none := hunloaded
  obtain ⟨log', hload⟩ := load_placed ⟨{ host with log := log }, compiler, none⟩ hpath rfl hplaced
  rw [hfails] at hload
  exact ⟨log', hload⟩

/-- What comes of a load after others, if nothing was in the place of the interpreter at first. If
one of them succeeded, it succeeds. If no module was delivered to them, the files are as they were,
and if a module is delivered now, it is put into its place and tested. If a module was delivered
that does not pass the test, this load and all later ones fail as that module does, without a
request.

What is delivered counts as a module by its first bytes, and the test begins with reading it by
`Files.Content.guestModule?`. Of modules with code, that takes those which are held as such,
`Files.Content.guest`, and not as bytes. -/
theorem loads_retried (hunloaded : session.interpreter = none)
    (hopen : loader.IsOpen base config.url session.host) {count : Nat}
    {outcomes : List (Except LoadError Unit)} {later : Session}
    (h : ((backend (.ofLoader loader config)).loads count).run session = (outcomes, later)) :
    (∃ m, later.interpreter = some m ∧
      (backend (.ofLoader loader config)).load.run later = (.ok (), later)) ∨
    (later.interpreter = none ∧ later.host.files = session.host.files ∧
      ∀ content traffic,
        (loader.client.download config.url).run later.host.traffic = (.ok content, traffic) →
        content.isModule = true → ∃ files log, IsPlaced loader config.url files content ∧
          (backend (.ofLoader loader config)).load.run later =
            ((verdict config files content).map fun _ => (),
              { later with
                host := ⟨files, traffic, log⟩
                interpreter := (verdict config files content).toOption })) ∨
    (later.interpreter = none ∧ ∃ content e,
      IsPlaced loader config.url later.host.files content ∧
      verdict config later.host.files content = .error e ∧
      ∀ more, ∃ log, ((backend (.ofLoader loader config)).loads more).run later =
        (List.replicate more (.error e), later.withLog log)) := by
  have hstanding : Standing loader config session.host later := by
    have := (Standing.waiting hunloaded rfl (.refl _)).after_loads hpath hopen count
    rwa [h] at this
  cases hstanding with
  | ready m isLoaded => exact .inl ⟨m, isLoaded, load_of_some isLoaded⟩
  | waiting isUnloaded files grows =>
    refine .inr (.inl ⟨isUnloaded, files, fun content traffic hdownload hmodule => ?_⟩)
    have hload := load_open hpath isUnloaded (hopen.grows files grows) hdownload
    rw [Loader.checkModule, if_pos hmodule] at hload
    obtain ⟨files, log, hplaced, -, hload⟩ := hload
    exact ⟨files, log, hplaced, hload⟩
  | spoilt content e isUnloaded isPlaced fails =>
    exact .inr (.inr ⟨isUnloaded, content, e, isPlaced, fails,
      loads_spoilt hpath isUnloaded isPlaced fails⟩)

end Retried

/-! ### A module that is none -/

section Sample

/-- An interpreter that does nothing. -/
def sampleInterpreter : Guest.Module :=
  ⟨[], none, [], none, some (Guest.entryName, .function ⟨[], []⟩ [])⟩

/-- A configuration without anything to import. -/
def sampleConfig : Config.Python :=
  { url := Loader.sampleUrl }

/-- The backend that is configured. -/
def sampleBackend : Backend Session :=
  backend (.ofLoader Loader.sampleLoader sampleConfig)

/-- A process that has loaded nothing, with an empty cache. The first answer of the servers begins
as a module does and goes no further; all later answers are an interpreter. -/
def sampleSession : Session where
  host := {
    files := Loader.sampleFiles
    traffic := ⟨fun earlier _ => .answer 200 none
      (if earlier = 0 then Loader.sampleBody else .guest sampleInterpreter) true, []⟩ }

/-- The servers once the first load has asked them. -/
def sampleTraffic : Http.Traffic :=
  Loader.sampleLoader.client.asked sampleSession.host.traffic Loader.sampleParts

/-- What the first load returns. -/
def sampleFailure : LoadError :=
  .invalidModule "failed to parse WebAssembly module"

theorem verdict_sampleBody (files : Files.Tree) :
    verdict sampleConfig files Loader.sampleBody = .error sampleFailure := by
  rfl

/-- The first load puts into place what it then finds to be no module. -/
theorem load_sampleSession :
    ∃ files log, IsPlaced Loader.sampleLoader sampleConfig.url files Loader.sampleBody ∧
      sampleBackend.load.run sampleSession =
        (.error sampleFailure, ⟨⟨files, sampleTraffic, log⟩, none, none⟩) := by
  have hdownload : (Loader.sampleLoader.client.download sampleConfig.url).run
      sampleSession.host.traffic = (.ok Loader.sampleBody, sampleTraffic) :=
    Loader.sampleLoader.client.download_answered Loader.parse?_sampleUrl rfl rfl
  obtain ⟨files, log, hplaced, -, hload⟩ :=
    load_open rfl rfl (Loader.isOpen_sampleFiles sampleSession.host.traffic []) hdownload
  rw [verdict_sampleBody] at hload
  exact ⟨files, log, hplaced, hload⟩

/-- Three loads, of which the first finds that what was delivered is no module. -/
theorem loads_retried_sample :
    ∃ later, (sampleBackend.loads 1).run sampleSession = ([.error sampleFailure], later) ∧
      ∃ log, (sampleBackend.loads 2).run later =
        ([.error sampleFailure, .error sampleFailure], later.withLog log) := by
  obtain ⟨files, log, hplaced, hload⟩ := load_sampleSession
  have hloads : (sampleBackend.loads 1).run sampleSession =
      ([.error sampleFailure], ⟨⟨files, sampleTraffic, log⟩, none, none⟩) :=
    Backend.loads_cons hload rfl
  refine ⟨_, hloads, ?_⟩
  have hopen := Loader.isOpen_sampleFiles sampleSession.host.traffic []
  obtain ⟨m, hloaded, -⟩ | ⟨-, hfiles, -⟩ | ⟨-, content, e, hplaced', hfails, hmore⟩ :=
    loads_retried rfl rfl hopen hloads
  · cases hloaded
  · have hpresent := hplaced.isPresent
    have hsame : files = Loader.sampleFiles := hfiles
    rw [hsame] at hpresent
    cases hpresent.symm.trans hopen.isAbsent
  · have hcontent : content = Loader.sampleBody := by
      cases hplaced'.read.symm.trans hplaced.read
      rfl
    rw [hcontent, verdict_sampleBody] at hfails
    cases hfails
    exact hmore 2

/-- Once the first load has failed, the servers answer with an interpreter that passes the test, and
the second load fails as the first one did. -/
theorem load_sampleSession_again :
    ∃ failed later, sampleSession.host.files.IsBare ["cache"] ∧
      sampleBackend.load.run sampleSession = (.error sampleFailure, failed) ∧
      (∀ earlier, failed.host.traffic.sent.length ≤ earlier →
        failed.host.traffic.reply earlier Loader.sampleParts =
          .answer 200 none (.guest sampleInterpreter) true) ∧
      (∀ files, verdict sampleConfig files (.guest sampleInterpreter) = .ok sampleInterpreter) ∧
      sampleBackend.load.run failed = (.error sampleFailure, later) ∧
      later.host.traffic = failed.host.traffic := by
  obtain ⟨files, log, hplaced, hload⟩ := load_sampleSession
  obtain ⟨log', hagain⟩ := load_placed ⟨⟨files, sampleTraffic, log⟩, none, none⟩ rfl rfl hplaced
  rw [verdict_sampleBody] at hagain
  refine ⟨_, _, Loader.isBare_sampleFiles, hload, fun earlier hearlier => ?_, fun _ => rfl, hagain,
    rfl⟩
  have hne : earlier ≠ 0 := by
    rintro rfl
    cases hearlier
  change Http.Reply.answer 200 none (if earlier = 0 then _ else _) true = _
  rw [if_neg hne]

end Sample

end Python

end Sandbox
