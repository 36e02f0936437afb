import Sandbox.CommandLine.Execute
import Sandbox.Proofs.RunResult.RoundTrip

/-!
# Running a submission

The command that runs a submission reads files and asks a backend. What it asks, in which order, and
what it is answered is an account of the command, and says how the command ends. The account is kept
by a world that watches the files and the backends; the command itself does not notice.

## Main definitions

* `Surroundings` : the files and the backends that the command has to do with.
* `Asked` : what it asks, with the answer.
* `Surroundings.watched` : the same files and backends with an account of what they are asked.
* `Reports` : what is printed for a result.
* `Course` : the ways in which the command goes.

## Main results

* `run_eq` : the command asks the files of the host and the configured backends.
* `course_run` : every way to go is one of these.
* `course_exit` : the command is successful exactly if a backend was run and the result passed.
* `run_goes` : the command in every session and in all surroundings.
-/

namespace Sandbox.CommandLine

/-- The files and the backends that the command has to do with. -/
structure Surroundings (W : Type) where
  /-- Reads the text of a file. -/
  read : String → StateM W (Except Report String)
  /-- The backends. -/
  registry : Registry W

/-- What the command asks, with the answer. -/
inductive Asked where
  /-- The text of a file. -/
  | read (path : String) (answer : Except Report String)
  /-- Whether a backend can be made ready. -/
  | load (language : String) (answer : Except LoadError Unit)
  /-- The result of a submission. -/
  | run (language : String) (submission : Submission) (result : RunResult)

/-- The text of a file with source, where the files are as given. -/
def sourceText (files : Files.Tree) (path : String) : Except Report String :=
  (files.readText path).mapError fun e => ⟨"Failed to read " ++ path, [e.message]⟩

/-- The submission in the files that a call names, for a way to read files. -/
def readWith {W : Type} (read : String → StateM W (Except Report String)) (options : RunOptions) :
    ExceptT Report (StateM W) Submission := do
  let code ← ExceptT.mk (read options.codeFile)
  let validation ← options.validation.mapM fun path => ExceptT.mk (read path)
  return ⟨code, validation⟩

/-- The result for a backend that cannot be made ready. -/
def notLoaded (language : String) (e : LoadError) : RunResult :=
  .failed [] ("Failed to load " ++ language ++ " backend: " ++ e.message) .load

namespace Surroundings

variable {W : Type} [Logging W]

/-- Makes a backend ready and runs a submission. -/
def loadAndRun (backend : Backend W) (submission : Submission) : StateM W RunResult := do
  match ← backend.load with
  | .ok _ =>
    say .debug logTarget ("Running " ++ backend.language ++ " (" ++
      toString submission.code.utf8ByteSize ++ " bytes)")
    backend.run submission
  | .error e => return notLoaded backend.language e

/-- The command in any surroundings. -/
def run (around : Surroundings W) (options : RunOptions) : StateM W Finished := do
  match around.registry.find? options.language with
  | none =>
    return {
      outcome := .ok false
      stderr := ["Error: Unsupported language '" ++ options.language ++ "'. Supported: " ++
        ", ".intercalate around.registry.languages] }
  | some backend =>
    match ← (readWith around.read options).run with
    | .error report => return { outcome := .error report }
    | .ok submission =>
      let result ← loadAndRun backend submission
      say .info logTarget (backend.language ++ " run finished: success=" ++
        if result.success then "true" else "false")
      return reportResult options.json result

/-- The files of the host, and some backends. -/
def ofRegistry (registry : Registry Session) : Surroundings Session :=
  ⟨fun path => Session.onHost (readSource path), registry⟩

end Surroundings

/-! ### The command on a host -/

/-- The files are read in order, and the first one that cannot be read decides. -/
theorem readWith_run {W : Type} (read : String → StateM W (Except Report String))
    (options : RunOptions) (w : W) :
    (readWith read options).run.run w =
      match (read options.codeFile).run w with
      | (.error report, u) => (.error report, u)
      | (.ok code, u) =>
        match options.validation with
        | none => (.ok ⟨code, none⟩, u)
        | some path =>
          match (read path).run u with
          | (.error report, v) => (.error report, v)
          | (.ok validation, v) => (.ok ⟨code, some validation⟩, v) := by
  simp only [readWith, ExceptT.run_bind, ExceptT.run_mk, StateT.run_bind]
  rcases (read options.codeFile).run w with ⟨report | code, u⟩
  · rfl
  · cases options.validation with
    | none => rfl
    | some path =>
      simp only [Option.mapM_some, ExceptT.run_map, ExceptT.run_mk]
      change ((Except.map some <$> read path : StateM W _) >>= _).run u = _
      rw [StateT.run_bind, StateT.run_map]
      rcases (read path).run u with ⟨report | validation, v⟩ <;> rfl

section Equality

variable (registry : Registry Session) (options : RunOptions)

theorem onHost_readSubmission :
    Session.onHost (readSubmission options).run =
      (readWith (Surroundings.ofRegistry registry).read options).run := by
  funext session
  have honHost : Session.onHost (readSubmission options).run session =
      (((readWith readSource options).run.run session.host).1,
        { session with host := ((readWith readSource options).run.run session.host).2 }) := rfl
  have hread (path : String) : ((Surroundings.ofRegistry registry).read path).run session =
      (sourceText session.host.files path, session) := rfl
  have hlook (path : String) : (readSource path).run session.host =
      (sourceText session.host.files path, session.host) := rfl
  change _ = (readWith (Surroundings.ofRegistry registry).read options).run.run session
  rw [honHost, readWith_run, readWith_run, hread, hlook]
  cases sourceText session.host.files options.codeFile with
  | error report => rfl
  | ok code =>
    cases options.validation with
    | none => rfl
    | some path =>
      simp only [hread, hlook]
      cases sourceText session.host.files path <;> rfl

/-- The command asks the files of the host and the configured backends. -/
theorem run_eq (config : Config) (environment : Config.Environment) :
    run config environment options =
      match buildRegistry config environment with
      | .error report => pure { outcome := .error report }
      | .ok registry => (Surroundings.ofRegistry registry).run options := by
  unfold run
  cases buildRegistry config environment with
  | error report => rfl
  | ok registry =>
    dsimp only
    rw [onHost_readSubmission registry]
    simp only [Surroundings.run, Surroundings.ofRegistry]
    cases registry.find? options.language <;> rfl

end Equality

/-! ### Watching a command -/

/-- A world with an account of what was asked in it. -/
structure Watched (W : Type) where
  /-- The world. -/
  world : W
  /-- What was asked, in order. -/
  asked : List Asked

instance {W : Type} [Logging W] : Logging (Watched W) :=
  ⟨fun events watched => { watched with world := Logging.add events watched.world }⟩

/-- Work that is entered in the account with its answer. -/
def watching {W α : Type} (work : StateM W α) (entry : α → Asked) : StateM (Watched W) α :=
  fun watched =>
    let (answer, world) := work.run watched.world
    (answer, ⟨world, watched.asked ++ [entry answer]⟩)

/-- A backend whose loads and runs are entered in the account. -/
def watchedBackend {W : Type} (backend : Backend W) : Backend (Watched W) where
  language := backend.language
  kind := backend.kind
  isLoaded watched := backend.isLoaded watched.world
  load := watching backend.load (.load backend.language)
  run submission := watching (backend.run submission) (.run backend.language submission)

/-- The same files and backends with an account of what they are asked. -/
def Surroundings.watched {W : Type} (around : Surroundings W) : Surroundings (Watched W) where
  read path := watching (around.read path) (.read path)
  registry := ⟨around.registry.backends.map fun (name, backend) => (name, watchedBackend backend)⟩

/-! ### The ways in which the command goes -/

/-- What is printed for a result: for programs the document, else the output and the summary, which
goes to the error stream if the run failed. -/
structure Reports (json : Bool) (result : RunResult) (finished : Finished) : Prop where
  /-- The command is as successful as the run. -/
  outcome : finished.outcome = .ok result.success
  /-- For programs there is one document, which is read back as the result. -/
  document : json = true → finished.stdout.length = 1 ∧ finished.stderr = [] ∧
    RunResult.ofJson (textOf finished.stdout) = .ok result
  /-- For people the summary of a pass follows the output. -/
  passed : json = false → result.success = true →
    finished.stdout = result.output ++ [green result.statusLine] ∧ finished.stderr = []
  /-- The summary of a failure is apart from the output. -/
  failed : json = false → result.success = false →
    finished.stdout = result.output ∧ finished.stderr = [red result.statusLine]

/-- The files that a call names are read as a submission. -/
inductive ReadAll (options : RunOptions) : Submission → List Asked → Prop where
  /-- There is no validation script. -/
  | code (code : String) (hvalidation : options.validation = none) :
    ReadAll options ⟨code, none⟩ [.read options.codeFile (.ok code)]
  /-- The validation script is read after the code. -/
  | both (code path validation : String) (hvalidation : options.validation = some path) :
    ReadAll options ⟨code, some validation⟩
      [.read options.codeFile (.ok code), .read path (.ok validation)]

/-- The ways in which the command goes: what it asks, in order, and how it ends. -/
inductive Course {W : Type} (registry : Registry W) (options : RunOptions) :
    List Asked → Finished → Prop where
  /-- There is no backend for the language: nothing is asked. -/
  | unsupported (hfind : registry.find? options.language = none) :
    Course registry options []
      { outcome := .ok false
        stderr := ["Error: Unsupported language '" ++ options.language ++ "'. Supported: " ++
          ", ".intercalate registry.languages] }
  /-- The code cannot be read. -/
  | unreadableCode {backend : Backend W} (hfind : registry.find? options.language = some backend)
    (report : Report) :
    Course registry options [.read options.codeFile (.error report)] { outcome := .error report }
  /-- The validation script cannot be read. -/
  | unreadableValidation {backend : Backend W}
    (hfind : registry.find? options.language = some backend) (code path : String)
    (hvalidation : options.validation = some path) (report : Report) :
    Course registry options
      [.read options.codeFile (.ok code), .read path (.error report)]
      { outcome := .error report }
  /-- The backend cannot be made ready, which is reported as the result. -/
  | notLoaded {backend : Backend W} (hfind : registry.find? options.language = some backend)
    {submission : Submission} {read : List Asked} (hread : ReadAll options submission read)
    (e : LoadError) {finished : Finished}
    (hreports : Reports options.json (notLoaded backend.language e) finished) :
    Course registry options (read ++ [.load backend.language (.error e)]) finished
  /-- The submission is run. -/
  | ran {backend : Backend W} (hfind : registry.find? options.language = some backend)
    {submission : Submission} {read : List Asked} (hread : ReadAll options submission read)
    (result : RunResult) {finished : Finished}
    (hreports : Reports options.json result finished) :
    Course registry options
      (read ++ [.load backend.language (.ok ()), .run backend.language submission result]) finished

/-- A line with a document is read as the document is. -/
theorem run_textOf {α : Type} {reader : Json.Reader α} {document : Json.Document} {a : α}
    (h : Json.Reader.Reads reader document a) :
    reader.run (textOf [document.pretty]) = .ok a := by
  -- The line ends behind the document.
  have hgap : Json.IsGap ['\n'] := by simp [Json.IsGap, Json.Reader.isSpace]
  have hrun := h.run (Json.spells_prettyChars 0 document) Json.isGap_nil hgap
  have htext : textOf [document.pretty] =
      String.ofList ([] ++ (document.prettyChars 0 ++ ['\n'])) := by
    simp [textOf, Json.Document.pretty, String.join]
  rw [htext]
  exact hrun

/-- A result is reported as it is. -/
theorem reports_reportResult (json : Bool) (result : RunResult) :
    Reports json result (reportResult json result) := by
  cases json with
  | true =>
    refine ⟨rfl, fun _ => ⟨rfl, rfl, ?_⟩, fun h => Bool.noConfusion h, fun h => Bool.noConfusion h⟩
    exact run_textOf (RunResult.reads_reader result)
  | false =>
    cases hsuccess : result.success with
    | true =>
      have hreport : reportResult false result =
          { outcome := .ok true, stdout := result.output ++ [green result.statusLine] } :=
        if_pos hsuccess
      rw [hreport]
      exact ⟨congrArg Except.ok hsuccess.symm, fun h => Bool.noConfusion h, fun _ _ => ⟨rfl, rfl⟩,
        fun _ hfailed => Bool.noConfusion (hsuccess.symm.trans hfailed)⟩
    | false =>
      have hreport : reportResult false result =
          { outcome := .ok false, stdout := result.output, stderr := [red result.statusLine] } :=
        if_neg (Bool.eq_false_iff.mp hsuccess)
      rw [hreport]
      exact ⟨congrArg Except.ok hsuccess.symm, fun h => Bool.noConfusion h,
        fun _ hpassed => Bool.noConfusion (hsuccess.symm.trans hpassed), fun _ _ => ⟨rfl, rfl⟩⟩

section Courses

variable {W : Type} [Logging W] (around : Surroundings W) (options : RunOptions) (w : W)

/-- The command, part by part. -/
theorem Surroundings.run_run :
    (around.run options).run w =
      match around.registry.find? options.language with
      | none =>
        ({ outcome := .ok false
           stderr := ["Error: Unsupported language '" ++ options.language ++ "'. Supported: " ++
            ", ".intercalate around.registry.languages] }, w)
      | some backend =>
        match (readWith around.read options).run.run w with
        | (.error report, u) => ({ outcome := .error report }, u)
        | (.ok submission, u) =>
          let (result, v) := (loadAndRun backend submission).run u
          (reportResult options.json result, Logging.add [⟨.info, logTarget, backend.language ++
            " run finished: success=" ++ if result.success then "true" else "false"⟩] v) := by
  unfold Surroundings.run
  cases around.registry.find? options.language with
  | none => rfl
  | some backend =>
    dsimp only
    rw [StateT.run_bind]
    rcases (readWith around.read options).run.run w with ⟨report | submission, u⟩ <;> rfl

theorem Surroundings.loadAndRun_run (backend : Backend W) (submission : Submission) :
    (loadAndRun backend submission).run w =
      match backend.load.run w with
      | (.error e, u) => (notLoaded backend.language e, u)
      | (.ok _, u) => (backend.run submission).run (Logging.add [⟨.debug, logTarget,
          "Running " ++ backend.language ++ " (" ++ toString submission.code.utf8ByteSize ++
            " bytes)"⟩] u) := by
  unfold loadAndRun
  rw [StateT.run_bind]
  rcases backend.load.run w with ⟨e | ⟨⟩, u⟩ <;> rfl

omit [Logging W] in
theorem find?_watched (language : String) :
    around.watched.registry.find? language =
      (around.registry.find? language).map watchedBackend := by
  simp only [Registry.find?, Surroundings.watched, List.find?_map, Option.map_map]
  rfl

omit [Logging W] in
theorem languages_watched : around.watched.registry.languages = around.registry.languages := by
  simp [Surroundings.watched, Registry.languages]

omit [Logging W] in
/-- Watched files are read as they are without an account. -/
theorem readWith_watched (asked : List Asked) :
    ∃ answer u read,
      (readWith around.read options).run.run w = (answer, u) ∧
      (readWith around.watched.read options).run.run ⟨w, asked⟩ = (answer, ⟨u, asked ++ read⟩) ∧
      match answer with
      | .ok submission => ReadAll options submission read
      | .error report => ∀ {backend : Backend W},
        around.registry.find? options.language = some backend →
          Course around.registry options read { outcome := .error report } := by
  have hwatched (path : String) (world : W) (before : List Asked) :
      (around.watched.read path).run ⟨world, before⟩ =
        (((around.read path).run world).1,
          ⟨((around.read path).run world).2,
            before ++ [.read path ((around.read path).run world).1]⟩) := rfl
  simp only [readWith_run, hwatched]
  rcases (around.read options.codeFile).run w with ⟨report | code, u⟩
  · exact ⟨_, u, _, rfl, rfl, fun hfind => .unreadableCode hfind report⟩
  · cases hvalidation : options.validation with
    | none => exact ⟨_, u, _, rfl, rfl, .code code hvalidation⟩
    | some path =>
      dsimp only
      rcases (around.read path).run u with ⟨report | validation, v⟩
      · exact ⟨_, v, [_, _], rfl, by simp,
          fun hfind => .unreadableValidation hfind code path hvalidation report⟩
      · exact ⟨_, v, [_, _], rfl, by simp, .both code path validation hvalidation⟩

/-- The command goes in one of the ways, and does not notice that it is watched. -/
theorem course_run : ∃ asked finished after,
    (around.run options).run w = (finished, after) ∧
      (around.watched.run options).run ⟨w, []⟩ = (finished, ⟨after, asked⟩) ∧
      Course around.registry options asked finished := by
  simp only [Surroundings.run_run, find?_watched, languages_watched]
  cases hfind : around.registry.find? options.language with
  | none => exact ⟨[], _, w, rfl, rfl, .unsupported hfind⟩
  | some backend =>
    obtain ⟨answer, u, read, hread, hwatched, hanswer⟩ := readWith_watched around options w []
    simp only [Option.map_some, hread, hwatched, List.nil_append]
    rcases answer with report | submission
    · exact ⟨read, _, u, rfl, rfl, hanswer hfind⟩
    · have hload : (watchedBackend backend).load.run ⟨u, read⟩ = ((backend.load.run u).1,
          ⟨(backend.load.run u).2, read ++ [.load backend.language (backend.load.run u).1]⟩) := rfl
      have hrun (world : W) (before : List Asked) :
          ((watchedBackend backend).run submission).run ⟨world, before⟩ =
            (((backend.run submission).run world).1, ⟨((backend.run submission).run world).2,
              before ++ [.run backend.language submission
                ((backend.run submission).run world).1]⟩) := rfl
      simp only [Surroundings.loadAndRun_run, hload]
      rcases backend.load.run u with ⟨e | ⟨⟩, v⟩
      · exact ⟨_, _, _, rfl, rfl, .notLoaded hfind hanswer e (reports_reportResult _ _)⟩
      · refine ⟨_, _, _, rfl, ?_, .ran hfind hanswer _ (reports_reportResult _ _)⟩
        refine congrArg _ (congrArg (Watched.mk _) ?_)
        exact List.append_assoc read [_] [_]

end Courses

/-- The command is successful exactly if a backend was run and the result passed. -/
theorem course_exit {W : Type} {registry : Registry W} {options : RunOptions} {asked : List Asked}
    {finished : Finished} (h : Course registry options asked finished) :
    (endedBy finished).exitCode ≤ 1 ∧
      ((endedBy finished).exitCode = 0 ↔ ∃ language submission result,
        .run language submission result ∈ asked ∧ result.success = true) := by
  have hcode (finished : Finished) (success : Bool) (h : finished.outcome = .ok success) :
      (endedBy finished).exitCode = if success then 0 else 1 := by
    simp only [endedBy, h]
  have hread {submission : Submission} {read : List Asked} (h : ReadAll options submission read)
      (language : String) (submission' : Submission) (result : RunResult) :
      .run language submission' result ∉ read := by
    cases h <;> simp
  cases h with
  | unsupported hfind => simp [endedBy]
  | unreadableCode hfind report => simp [endedBy]
  | unreadableValidation hfind code path hvalidation report => simp [endedBy]
  | notLoaded hfind hreads e hreports =>
    rw [hcode finished _ hreports.outcome]
    simp [notLoaded, RunResult.failed, hread hreads]
  | @ran backend hfind submission read hreads result _ hreports =>
    rw [hcode finished _ hreports.outcome]
    cases hsuccess : result.success with
    | true =>
      refine ⟨Nat.zero_le 1, iff_of_true rfl ⟨backend.language, submission, result, ?_, hsuccess⟩⟩
      exact List.mem_append_right _ (List.mem_cons_of_mem _ List.mem_cons_self)
    | false =>
      refine ⟨Nat.le_refl 1, iff_of_false Nat.one_ne_zero ?_⟩
      rintro ⟨language, submission, other, hmem, hpassed⟩
      rcases List.mem_append.mp hmem with hmem | hmem
      · exact hread hreads language submission other hmem
      · simp only [List.mem_cons, reduceCtorEq, List.not_mem_nil, or_false, false_or,
          Asked.run.injEq] at hmem
        rw [hmem.2.2, hsuccess] at hpassed
        cases hpassed

/-! ### The command -/

theorem find?_eq_none_iff {W : Type} (registry : Registry W) (language : String) :
    registry.find? language = none ↔ Text.lowercase language ∉ registry.languages := by
  rw [Registry.find?, Option.map_eq_none_iff, List.find?_eq_none, Registry.languages,
    List.mem_map, not_exists]
  refine forall_congr' fun entry => ?_
  rw [not_and, beq_iff_eq]

theorem languages_of_buildRegistry {config : Config} {environment : Config.Environment}
    {registry : Registry Session} (h : buildRegistry config environment = .ok registry) :
    registry.languages = ["javascript", "python", "c", "cpp"] := by
  unfold buildRegistry Registry.ofConfig at h
  cases hloader : Fetch.Loader.ofConfig config environment with
  | error e =>
    rw [hloader] at h
    cases h
  | ok loader =>
    rw [hloader] at h
    obtain rfl := Except.ok.inj h
    have hjavascript : Text.lowercase "javascript" = "javascript" := by decide
    have hpython : Text.lowercase "python" = "python" := by decide
    have hc : Text.lowercase "c" = "c" := by decide
    have hcpp : Text.lowercase "cpp" = "cpp" := by decide
    simp [Registry.ofLoader, Registry.languages, Registry.register, Registry.put, Registry.empty,
      JavaScript.backend, Python.backend, Compiled.backend, Compiled.Dialect.language, hjavascript,
      hpython, hc, hcpp]

/-- A configuration that cannot be set up is a report. Otherwise the command asks the files of the
host and the configured backends, one for each of four languages, and reading changes nothing. In
all surroundings, so for everything that files and backends may answer, it goes in one of the ways:
nothing is asked for a language without backend; the backend is left alone if a file cannot be read,
and is not asked for a run if it cannot be made ready; otherwise it is asked once, for the texts of
the files. The process is successful exactly if a result was given that passed. -/
theorem run_goes (config : Config) (environment : Config.Environment) (options : RunOptions) :
    (∀ report, buildRegistry config environment = .error report → ∀ session,
      (run config environment options).run session = ({ outcome := .error report }, session) ∧
      (endedBy { outcome := .error report }).exitCode = 1) ∧
    (∀ registry, buildRegistry config environment = .ok registry →
      let around := Surroundings.ofRegistry registry
      run config environment options = around.run options ∧
      (registry.find? options.language = none ↔
        Text.lowercase options.language ∉ ["javascript", "python", "c", "cpp"]) ∧
      ∀ session path,
        (around.read path).run session = (sourceText session.host.files path, session)) ∧
    ∀ {W : Type} [Logging W] (around : Surroundings W) (w : W), ∃ asked finished after,
      (around.run options).run w = (finished, after) ∧
      (around.watched.run options).run ⟨w, []⟩ = (finished, ⟨after, asked⟩) ∧
      Course around.registry options asked finished ∧
      (endedBy finished).exitCode ≤ 1 ∧
      ((endedBy finished).exitCode = 0 ↔ ∃ language submission result,
        .run language submission result ∈ asked ∧ result.success = true) := by
  refine ⟨fun report hsetup session => ⟨?_, rfl⟩, fun registry hsetup => ⟨?_, ?_, ?_⟩, ?_⟩
  · rw [run_eq, hsetup]
    rfl
  · rw [run_eq, hsetup]
  · rw [find?_eq_none_iff, languages_of_buildRegistry hsetup]
  · exact fun _ _ => rfl
  · intro W _ around w
    obtain ⟨asked, finished, after, hrun, hwatched, hcourse⟩ := course_run around options w
    obtain ⟨hcode, hzero⟩ := course_exit hcourse
    exact ⟨asked, finished, after, hrun, hwatched, hcourse, hcode, hzero⟩

/-- A backend that is always ready and whose runs all pass. -/
def steadyBackend : Backend Host where
  language := "Steady"
  kind := .dynamic
  isLoaded _ := true
  load := pure (.ok ())
  run _ := pure (.passed ["out"])

/-- The configuration is set up, and a submission in two files is run once. -/
theorem run_goes_steadyBackend :
    let config : Config := { cache := { directory := some "/cache" } }
    let options : RunOptions := ⟨"STEADY", "a", some "b", true⟩
    let around : Surroundings Host :=
      ⟨fun path => pure (.ok ("text of " ++ path)), ⟨[("steady", steadyBackend)]⟩⟩
    let host : Host := { files := ⟨[], []⟩ }
    (∃ registry, buildRegistry config ⟨none, none⟩ = .ok registry ∧
      registry.find? options.language = none) ∧
    ((around.watched.run options).run ⟨host, []⟩).2.asked =
      [.read "a" (.ok "text of a"), .read "b" (.ok "text of b"), .load "Steady" (.ok ()),
        .run "Steady" ⟨"text of a", some "text of b"⟩ (.passed ["out"])] ∧
    (endedBy ((around.run options).run host).1).exitCode = 0 := by
  intro config options around host
  obtain ⟨-, hconfigured, hgoes⟩ := run_goes config ⟨none, none⟩ options
  obtain ⟨registry, hsetup⟩ : ∃ registry, buildRegistry config ⟨none, none⟩ = .ok registry := by
    have hloader : Fetch.Loader.ofConfig config ⟨none, none⟩ =
        .ok ⟨"/cache", ⟨Http.Client.defaultAgent, 10⟩⟩ := by
      simp only [config]
      rfl
    refine ⟨.ofLoader ⟨"/cache", ⟨Http.Client.defaultAgent, 10⟩⟩ config, ?_⟩
    rw [buildRegistry, Registry.ofConfig, hloader]
    rfl
  obtain ⟨asked, finished, after, hrun, hwatched, -, -, hexit⟩ := hgoes around host
  have hfind : around.watched.registry.find? options.language =
      some (watchedBackend steadyBackend) := by
    have hlower : Text.lowercase "STEADY" = "steady" := by decide
    rw [find?_watched]
    simp [Registry.find?, around, options, hlower]
  have hasked : ((around.watched.run options).run ⟨host, []⟩).2.asked =
      [.read "a" (.ok "text of a"), .read "b" (.ok "text of b"), .load "Steady" (.ok ()),
        .run "Steady" ⟨"text of a", some "text of b"⟩ (.passed ["out"])] := by
    rw [Surroundings.run_run, hfind]
    rfl
  refine ⟨⟨registry, hsetup, (hconfigured registry hsetup).2.1.mpr (by decide)⟩, hasked, ?_⟩
  rw [hwatched] at hasked
  rw [hrun]
  refine hexit.mpr ⟨"Steady", ⟨"text of a", some "text of b"⟩, .passed ["out"], ?_, rfl⟩
  simp [show asked = _ from hasked]

end Sandbox.CommandLine
