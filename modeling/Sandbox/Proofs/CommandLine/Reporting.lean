import Sandbox.Proofs.CommandLine.Asking
import Sandbox.Proofs.CommandLine.Running
import Sandbox.Proofs.Fetch.Retrying
import Sandbox.Proofs.Files.Walking
import Sandbox.Proofs.Json.Typed

/-!
# Reports that are meant for programs

A call may ask for a report that is meant for programs. The process then prints one document, from
which what is reported is read back, or nothing, if it does not come to its report. The banner may
stand before the document: it is shown if the name of the file with the code, which may stand behind
two dashes, is a word that asks for help. Nothing is read from standard output then.

## Main definitions

* `LanguageEntry.listOfJson` : the languages that a text lists.
* `Content` : what a report tells, and `Content.IsReadFrom` the texts from which it is read.
* `Reaches` : how a process comes to its report.

## Main results

* `isReadFrom_textOf` : what is reported is read back from the document.
* `not_isReadFrom_banner` : nothing is read behind the banner.
* `reaches_or_silent` : a process comes to its report, or prints nothing behind the banner.
* `stdout_of_report` : standard output of a process that comes to its report.
* `banner_before_report` : a call whose report stands behind the banner.
-/

namespace Sandbox

open Json (Document IsGap Spells SpellsItems SpellsMembers)
open Json.Reader (Reads bind_of_ok)

/-! ### Reading a list of languages -/

namespace Json.Reader

variable {α : Type} {isFirst : Bool} {cs rest : List Char} {name : String} {value : Document}
  {entries : List (String × Document)} {reader : Reader α} {a : α}

/-- The member of an object that comes next, whose name is known. -/
def member (isFirst : Bool) (name : String) (value : Reader α) : Reader α := do
  if !(← hasMember isFirst) then throw .malformed
  advance
  if (← stringBody) != name then throw .malformed
  colon
  value

/-- The items of an array up to its end, after those in `done`, which is in reverse. -/
def itemsFrom (item : Reader α) : (fuel : Nat) → (isFirst : Bool) → (done : List α) →
    Reader (List α)
  | 0, _, _ => throw .cutShort
  | fuel + 1, isFirst, done => do
    if ← hasItem isFirst then
      let a ← item
      itemsFrom item fuel false (a :: done)
    else
      ending ']'
      return done.reverse

/-- An array. -/
def list (item : Reader α) : Reader (List α) := do
  match ← need with
  | '[' => advance; itemsFrom item ((← get).length + 1) true []
  | _ => unexpected "a sequence"

theorem member_spells (h : Reads reader value a)
    (hspells : SpellsMembers isFirst ((name, value) :: entries) cs) :
    ∃ ds, SpellsMembers false entries ds ∧
      ∀ rest, member isFirst name reader (cs ++ rest) = .ok (a, ds ++ rest) := by
  cases hspells with
  | @cons _ _ _ _ separator gap gap' cs ds hseparator hgap hgap' hvalue hmembers =>
    refine ⟨ds, hmembers, fun rest => ?_⟩
    rw [member, List.append_assoc, List.append_assoc, quote_append,
      bind_of_ok (hasMember_separator hseparator)]
    change ((advance >>= fun _ => stringBody >>= _) : Reader α) _ = _
    rw [bind_of_ok advance_cons, bind_of_ok (stringBody_quote name)]
    simp only [bne_self_eq_false, Bool.false_eq_true, if_false, List.append_assoc, List.cons_append]
    rw [bind_of_ok (colon_gap hgap), h hgap' hvalue]

theorem itemsFrom_spells {write : α → Document} (h : ∀ a, Reads reader (write a) a) (as : List α)
    {fuel : Nat} {done : List α} (hspells : SpellsItems isFirst (as.map write) cs)
    (hfuel : as.length < fuel) :
    itemsFrom reader fuel isFirst done (cs ++ rest) = .ok (done.reverse ++ as, rest) := by
  induction as generalizing fuel isFirst done cs with
  | nil =>
    obtain ⟨fuel, rfl⟩ := Nat.exists_eq_add_one_of_ne_zero (Nat.ne_of_gt hfuel)
    cases hspells with
    | nil hgap =>
      rw [itemsFrom, List.append_assoc, List.singleton_append, bind_of_ok (hasItem_close hgap)]
      change (ending ']' >>= _) _ = _
      rw [bind_of_ok (ending_cons rfl), List.append_nil]
      rfl
  | cons a as ih =>
    obtain ⟨fuel, rfl⟩ := Nat.exists_eq_add_one_of_ne_zero (Nat.ne_of_gt (Nat.zero_lt_of_lt hfuel))
    cases hspells with
    | cons hseparator hitem hitems =>
      rw [itemsFrom, List.append_assoc, List.append_assoc,
        bind_of_ok (hasItem_spells hseparator hitem _)]
      change (reader >>= _) _ = _
      rw [bind_of_ok ((h a).front hitem _), ih hitems (Nat.lt_of_succ_lt_succ hfuel)]
      simp

theorem reads_list {write : α → Document} (h : ∀ a, Reads reader (write a) a) (as : List α) :
    Reads (list reader) (.array (as.map write)) as := by
  intro gap cs hgap hspells rest
  cases hspells with
  | array hitems =>
    rw [List.cons_append, list, bind_of_ok (need_gap hgap rfl)]
    change (advance >>= fun _ => get >>= _) _ = _
    rw [bind_of_ok advance_cons, bind_of_ok get_eq, itemsFrom_spells h as hitems]
    · rfl
    · have := length_le_of_spellsItems hitems
      simp only [List.length_map, List.length_append] at this ⊢
      omega

end Json.Reader

/-- The family of a given name. -/
def BackendKind.ofName? (name : String) : Option BackendKind :=
  [dynamic, compiled, interpreted].find? fun kind => kind.name == name

theorem BackendKind.ofName?_name (kind : BackendKind) :
    BackendKind.ofName? kind.name = some kind := by
  cases kind <;> decide

namespace LanguageEntry

/-- Reads what is said of a language. -/
def reader : Json.Reader LanguageEntry := do
  match ← Json.Reader.need with
  | '{' => Json.Reader.advance
  | _ => throw .malformed
  let language ← Json.Reader.member true "language" Json.Reader.string
  let kind ← Json.Reader.member false "kind" Json.Reader.string
  let isLoaded ← Json.Reader.member false "loaded" Json.Reader.bool
  Json.Reader.ending '}'
  match BackendKind.ofName? kind with
  | some kind => return ⟨language, kind, isLoaded⟩
  | none => throw .malformed

/-- The languages that a whole text lists. -/
def listOfJson (text : String) : Except Json.ReadError (List LanguageEntry) :=
  (Json.Reader.list reader).run text

theorem reads_reader (entry : LanguageEntry) :
    Reads reader (CommandLine.entryDocument entry) entry := by
  intro gap cs hgap hspells rest
  cases hspells with
  | @object _ cs hmembers =>
    obtain ⟨cs', hmembers, hlanguage⟩ := Json.Reader.member_spells
      (Json.Reader.reads_string entry.language) hmembers
    obtain ⟨ds, hmembers, hkind⟩ := Json.Reader.member_spells
      (Json.Reader.reads_string entry.kind.name) hmembers
    obtain ⟨es, hmembers, hloaded⟩ := Json.Reader.member_spells
      (Json.Reader.reads_bool entry.isLoaded) hmembers
    rw [List.cons_append, reader, bind_of_ok (Json.Reader.need_gap hgap rfl)]
    change (Json.Reader.advance >>= fun _ => _) _ = _
    rw [bind_of_ok Json.Reader.advance_cons, bind_of_ok (hlanguage rest), bind_of_ok (hkind rest),
      bind_of_ok (hloaded rest)]
    cases hmembers with
    | nil hgap =>
      rw [List.append_assoc, List.singleton_append, bind_of_ok (Json.Reader.ending_gap hgap rfl)]
      simp only [BackendKind.ofName?_name]
      rfl

end LanguageEntry

namespace CommandLine

open Json.Reader (Refuses refuses_throw refuses_unexpected toOption_bind)

/-! ### What is reported -/

/-- What a report for programs tells. -/
inductive Content where
  /-- The result of a submission. -/
  | result (given : RunResult)
  /-- The languages that are supported. -/
  | languages (entries : List LanguageEntry)

namespace Content

/-- How a command ends that has something to tell. -/
def finished : Content → Finished
  | result given => reportResult true given
  | languages entries => reportEntries true entries

/-- A whole text is read as what is told. -/
def IsReadFrom (text : String) : Content → Prop
  | result given => RunResult.ofJson text = .ok given
  | languages entries => LanguageEntry.listOfJson text = .ok entries

end Content

/-- What is told is read back from what is printed. -/
theorem isReadFrom_textOf (content : Content) :
    content.IsReadFrom (textOf content.finished.stdout) := by
  cases content with
  | result given => exact run_textOf (RunResult.reads_reader given)
  | languages entries =>
    exact run_textOf (Json.Reader.reads_list LanguageEntry.reads_reader entries)

/-! ### The banner -/

theorem toList_textOf (lines : List String) :
    (textOf lines).toList = lines.flatMap fun line => line.toList ++ ['\n'] := by
  simp [textOf, List.flatMap_def, Function.comp_def]

/-- The banner begins with a colour. -/
theorem exists_banner (built : String) :
    ∃ rest, (textOf (bannerLines built)).toList = ['\n', ' ', ' '] ++ '\x1b' :: rest := by
  obtain ⟨more, hmore⟩ : ∃ more,
      bannerLines built = "" :: ("  " ++ ("\x1b" ++ "[38;5;33m           _\x1b[39m")) :: more :=
    ⟨_, rfl⟩
  rw [toList_textOf, hmore]
  exact ⟨_, by simp; rfl⟩

theorem run_ne_ok {α : Type} {reader : Json.Reader α} {gap rest : List Char} {text : String} {a : α}
    (htext : text.toList = gap ++ '\x1b' :: rest)
    (h : (reader (gap ++ '\x1b' :: rest)).toOption = none) : reader.run text ≠ .ok a := by
  intro hrun
  simp only [Json.Reader.run, StateT.run, htext] at hrun
  cases hread : reader (gap ++ '\x1b' :: rest) with
  | error fault =>
    rw [hread] at hrun
    cases hrun
  | ok read =>
    rw [hread] at h
    cases h

/-- Behind the banner nothing is read. -/
theorem not_isReadFrom_banner (built body : String) (content : Content) :
    ¬ content.IsReadFrom (textOf (bannerLines built) ++ body) := by
  obtain ⟨rest, hbanner⟩ := exists_banner built
  have hgap : IsGap ['\n', ' ', ' '] := by simp [IsGap, Json.Reader.isSpace]
  have htext : (textOf (bannerLines built) ++ body).toList =
      ['\n', ' ', ' '] ++ '\x1b' :: (rest ++ body.toList) := by
    rw [String.toList_append, hbanner, List.append_assoc]
    rfl
  have hneed : Json.Reader.need (['\n', ' ', ' '] ++ '\x1b' :: (rest ++ body.toList)) =
      .ok ('\x1b', '\x1b' :: (rest ++ body.toList)) := Json.Reader.need_gap hgap rfl
  cases content with
  | result given =>
    refine run_ne_ok htext ?_
    rw [RunResult.reader, bind_of_ok hneed]
    exact refuses_unexpected _ _
  | languages entries =>
    refine run_ne_ok htext ?_
    rw [Json.Reader.list, bind_of_ok hneed]
    exact refuses_unexpected _ _

/-! ### How far a command comes -/

/-- A process comes to its report: the log, the configuration, the backends and the files are
there. What is reported is what the backend answers, or what is known of the backends. -/
inductive Reaches (launch : Launch) (call : Call) (host : Host) : Content → Prop where
  /-- The result of a submission. -/
  | result {opened between : Host} {config : Config} {options : RunOptions}
    {registry : Registry Session} {backend : Backend Session} {submission : Submission}
    {session : Session}
    (hopen : (openLog launch call.logDirectory).run { host with log := [] } = (.ok (), opened))
    (hconfig : (loadConfig call.config).run opened = (.ok config, between))
    (hjob : call.job = .run options)
    (hregistry : buildRegistry config launch.environment = .ok registry)
    (hfind : registry.find? options.language = some backend)
    (hread : (Session.onHost (readSubmission options).run).run { host := between } =
      (.ok submission, session)) :
    Reaches launch call host (.result ((loadAndRun backend submission).run session).1)
  /-- The languages. -/
  | languages {opened between : Host} {config : Config} {json : Bool}
    {registry : Registry Session}
    (hopen : (openLog launch call.logDirectory).run { host with log := [] } = (.ok (), opened))
    (hconfig : (loadConfig call.config).run opened = (.ok config, between))
    (hjob : call.job = .languages json)
    (hregistry : buildRegistry config launch.environment = .ok registry) :
    Reaches launch call host (.languages (registry.entries { host := between }))

variable {launch : Launch} {call : Call} {host opened between : Host} {config : Config}
  {content : Content}

theorem stdout_endedBy (finished : Finished) :
    (endedBy finished).stdout = textOf finished.stdout := by
  unfold endedBy
  split <;> rfl

/-- What a process prints is the banner, and what its command prints if there is a log for it. -/
theorem stdout_execute (hparse : parse (launch.arguments.drop 1) = .ok call) (host : Host) :
    ((execute launch).run host).1.stdout = banner launch ++
      match (openLog launch call.logDirectory).run { host with log := [] } with
      | (.error _, _) => ""
      | (.ok _, opened) => textOf ((carryOut launch call).run opened).1.stdout := by
  have hcall : ((execute launch).run host).1.stdout =
      banner launch ++ ((executeCall launch call).run { host with log := [] }).1.stdout := by
    unfold execute
    rw [hparse]
    rfl
  rw [hcall]
  refine congrArg _ ?_
  unfold executeCall
  dsimp only
  rcases hopen : (openLog launch call.logDirectory).run { host with log := [] } with
    ⟨report | ⟨⟩, opened⟩
  · rw [run_bind_eq hopen]
    rfl
  · rcases hcarry : (carryOut launch call).run opened with ⟨finished, after⟩
    rw [run_bind_eq hopen]
    dsimp only
    rw [run_bind_eq hcarry, hcarry, ← stdout_endedBy finished]
    cases endedBy finished
    rfl

theorem carryOut_error {report : Report}
    (hconfig : (loadConfig call.config).run opened = (.error report, between)) :
    ((carryOut launch call).run opened).1 = { outcome := .error report } := by
  unfold carryOut
  rw [run_bind_eq hconfig]
  rfl

theorem carryOut_ok (hconfig : (loadConfig call.config).run opened = (.ok config, between)) :
    ((carryOut launch call).run opened).1 =
      ((perform config launch.environment call.job).run { host := between }).1 := by
  unfold carryOut
  rw [run_bind_eq hconfig]
  rfl

/-- The command that runs a submission ends with the result, once it has a backend and the files. -/
theorem run_finished {environment : Config.Environment} {options : RunOptions}
    {registry : Registry Session} {backend : Backend Session} {submission : Submission}
    {before session : Session} (hregistry : buildRegistry config environment = .ok registry)
    (hfind : registry.find? options.language = some backend)
    (hread : (Session.onHost (readSubmission options).run).run before =
      (.ok submission, session)) :
    ((run config environment options).run before).1 =
      reportResult options.json ((loadAndRun backend submission).run session).1 := by
  unfold run
  rw [hregistry]
  dsimp only
  rw [hfind]
  dsimp only
  rw [run_bind_eq hread]
  rfl

/-- A command that has something to tell ends with that. -/
theorem finished_of_reaches (hjson : call.job.isForPrograms = true)
    (hreach : Reaches launch call host content) : ∃ opened,
    (openLog launch call.logDirectory).run { host with log := [] } = (.ok (), opened) ∧
      ((carryOut launch call).run opened).1 = content.finished := by
  cases hreach with
  | @result opened between config options registry backend submission session hopen hconfig hjob
      hregistry hfind hread =>
    refine ⟨opened, hopen, ?_⟩
    have hprograms : options.json = true := by
      rw [hjob] at hjson
      exact hjson
    rw [carryOut_ok hconfig, hjob]
    refine (run_finished hregistry hfind hread).trans ?_
    rw [hprograms]
    rfl
  | @languages opened between config json registry hopen hconfig hjob hregistry =>
    refine ⟨opened, hopen, ?_⟩
    have hprograms : json = true := by
      rw [hjob] at hjson
      exact hjson
    rw [carryOut_ok hconfig, hjob, hprograms]
    change ((languages config launch.environment true).run _).1 = _
    unfold languages
    rw [hregistry]
    rfl

/-- The command that runs a submission has a backend and the files, or prints nothing on standard
output. -/
theorem run_cases (config : Config) (environment : Config.Environment) (options : RunOptions)
    (before : Session) :
    (∃ registry backend submission session, buildRegistry config environment = .ok registry ∧
      registry.find? options.language = some backend ∧
      (Session.onHost (readSubmission options).run).run before = (.ok submission, session)) ∨
      ((run config environment options).run before).1.stdout = [] := by
  unfold run
  cases buildRegistry config environment with
  | error report => exact .inr rfl
  | ok registry =>
    dsimp only
    cases hfind : registry.find? options.language with
    | none => exact .inr rfl
    | some backend =>
      dsimp only
      rcases hread : (Session.onHost (readSubmission options).run).run before with
        ⟨report | submission, session⟩
      · refine .inr ?_
        rw [run_bind_eq hread]
        rfl
      · exact .inl ⟨registry, backend, submission, session, rfl, hfind, rfl⟩

/-- A call for a report that is meant for programs comes to its report, or prints nothing behind
the banner. -/
theorem reaches_or_silent (hparse : parse (launch.arguments.drop 1) = .ok call)
    (hjson : call.job.isForPrograms = true) (host : Host) :
    (∃ content, Reaches launch call host content) ∨
      ((execute launch).run host).1.stdout = banner launch := by
  have hsilent (text : String) (h : text = "") : banner launch ++ text = banner launch := by
    rw [h, String.append_empty]
  rw [stdout_execute hparse]
  rcases hopen : (openLog launch call.logDirectory).run { host with log := [] } with
    ⟨report | ⟨⟩, opened⟩
  · exact .inr (hsilent _ rfl)
  rcases hconfig : (loadConfig call.config).run opened with ⟨report | config, between⟩
  · refine .inr (hsilent _ ?_)
    dsimp only
    rw [carryOut_error hconfig]
    rfl
  dsimp only
  rw [carryOut_ok hconfig]
  cases hjob : call.job with
  | run options =>
    rcases run_cases config launch.environment options { host := between } with
      ⟨registry, backend, submission, session, hregistry, hfind, hread⟩ | hnone
    · exact .inl ⟨_, .result hopen hconfig hjob hregistry hfind hread⟩
    · refine .inr (hsilent _ ?_)
      rw [perform, hnone]
      rfl
  | languages json =>
    cases hregistry : buildRegistry config launch.environment with
    | error report =>
      refine .inr (hsilent _ ?_)
      rw [perform, languages, hregistry]
      rfl
    | ok registry => exact .inl ⟨_, .languages hopen hconfig hjob hregistry⟩
  | fetch language =>
    rw [hjob] at hjson
    cases hjson

/-! ### Standard output -/

/-- A process that comes to its report prints it behind the banner. -/
theorem stdout_of_reaches (hparse : parse (launch.arguments.drop 1) = .ok call)
    (hjson : call.job.isForPrograms = true) (hreach : Reaches launch call host content) :
    ((execute launch).run host).1.stdout = banner launch ++ textOf content.finished.stdout := by
  obtain ⟨opened, hopen, hfinished⟩ := finished_of_reaches hjson hreach
  rw [stdout_execute hparse, hopen]
  dsimp only
  rw [hfinished]

/-- A call for a report that is meant for programs, once it comes to it, prints one document behind
the banner, from which what is reported is read back. Standard output as a whole is that document,
unless the program is called by a word that asks for help or such a word names the file with the
code. -/
theorem stdout_of_report {programName : String} {arguments : List String}
    (harguments : launch.arguments = programName :: arguments)
    (hparse : parse arguments = .ok call) (hjson : call.job.isForPrograms = true)
    (hreach : Reaches launch call host content) :
    let stdout := ((execute launch).run host).1.stdout
    (∃ body, stdout = banner launch ++ body ∧ content.IsReadFrom body) ∧
      (content.IsReadFrom stdout ↔ programName ∉ helpWords ∧
        ∀ options, call.job = .run options → options.codeFile ∉ helpWords) := by
  have hstdout := stdout_of_reaches (by rw [harguments]; exact hparse) hjson hreach
  dsimp only
  refine ⟨⟨_, hstdout, isReadFrom_textOf content⟩, ?_⟩
  have hshown := shouldShowBanner_iff hparse hjson programName
  rw [← harguments] at hshown
  rw [hstdout, banner]
  split
  · rename_i hbanner
    refine iff_of_false (not_isReadFrom_banner _ _ content) ?_
    rintro ⟨hname, hcode⟩
    rcases hshown.mp hbanner with hmem | ⟨options, hjob, hmem⟩
    · exact hname hmem
    · exact hcode options hjob hmem
  · rename_i hbanner
    rw [String.empty_append]
    refine iff_of_true (isReadFrom_textOf content) ⟨fun hmem => ?_, fun options hjob hmem => ?_⟩
    · exact hbanner (hshown.mpr (.inl hmem))
    · exact hbanner (hshown.mpr (.inr ⟨options, hjob, hmem⟩))

/-- A process that is started with some arguments. -/
def launchOf (arguments : List String) : Launch where
  arguments := "polyrun" :: arguments
  environment := ⟨none, some "/cache"⟩
  built := "2026-01-01"
  today := "2026-01-02"
  time := "2026-01-02T00:00:00.000000Z"

/-- A host with an empty file whose name asks for help. -/
def helpFileHost : Host where
  files := ⟨[(["-h"], .file (.bytes []) false)], []⟩

theorem buildRegistry_launchOf (arguments : List String) :
    ∃ registry, buildRegistry {} (launchOf arguments).environment = .ok registry := by
  have hloader : Fetch.Loader.ofConfig {} (launchOf arguments).environment =
      .ok ⟨Path.join "/cache" "polyrun", ⟨Http.Client.defaultAgent, 10⟩⟩ := by
    rfl
  refine ⟨.ofLoader ⟨Path.join "/cache" "polyrun", ⟨Http.Client.defaultAgent, 10⟩⟩ {}, ?_⟩
  rw [buildRegistry, Registry.ofConfig, hloader]
  rfl

theorem loadConfig_helpFileHost : (loadConfig none).run helpFileHost = (.ok {}, helpFileHost) := by
  have hancestors : Path.ancestors "/" = ["/"] := by
    have hparent : Path.parent? "/" = none := by decide
    rw [Path.ancestors]
    split
    · rename_i hsome
      rw [hparent] at hsome
      cases hsome
    · rfl
  have hplain : Files.IsPlain Config.fileName := ⟨by decide, by decide⟩
  have hfile : helpFileHost.files.isFile (Path.join "/" Config.fileName) = false := by
    have hvacant : helpFileHost.files.node? ([] ++ [Config.fileName]) = none := rfl
    have hfind : helpFileHost.files.find true (Path.join "/" Config.fileName) =
        .error .notFound := by
      refine helpFileHost.files.isAt_root.find_join hplain fun _ target => ?_
      rw [hvacant]
      exact Option.some_ne_none _ |>.symm
    rw [Files.Tree.isFile, hfind]
  have hnone : Config.discoverPath? helpFileHost.files "/" = none := by
    rw [Config.discoverPath?, hancestors]
    simp [hfile]
  have hlook : (Host.look fun files => Config.discoverPath? files "/").run helpFileHost =
      (none, helpFileHost) := congrArg (·, helpFileHost) hnone
  have hdiscover : (Config.discover "/").run helpFileHost = (.ok {}, helpFileHost) := by
    unfold Config.discover
    rw [run_bind_eq hlook]
    rfl
  change (((Config.discover "/") >>= fun found => pure (found.mapError _)).run helpFileHost) = _
  rw [run_bind_eq hdiscover]
  rfl

/-- The file is read by its name. -/
theorem readText_helpFileHost : helpFileHost.files.readText "-h" = .ok "" := by
  have hsteps : Files.steps "-h" = [.name "-h"] := Files.steps_plain ⟨by decide, by decide⟩
  have hlocate : helpFileHost.files.locate true "-h" = .ok ["-h"] := by
    change (if _ then _ else if _ then _ else if _ then _ else
      helpFileHost.files.walk true Files.linkLimit [] (Files.steps "-h")) = _
    rw [hsteps, Files.Tree.walk_entry rfl (by decide) rfl (by simp), Files.Tree.walk_nil]
    rfl
  have hfind : helpFileHost.files.find true "-h" = .ok (["-h"], .file (.bytes []) false) := by
    rw [Files.Tree.find, hlocate]
    rfl
  rw [Files.Tree.readText, Files.Tree.read, hfind]
  rfl

/-- The list of the languages is all that is printed. -/
theorem stdout_of_report_languages :
    let launch := launchOf ["languages", "--json"]
    ∃ call entries, parse ["languages", "--json"] = .ok call ∧
      Reaches launch call helpFileHost (.languages entries) ∧
      LanguageEntry.listOfJson ((execute launch).run helpFileHost).1.stdout = .ok entries := by
  intro launch
  have hparse : parse ["languages", "--json"] = .ok ⟨.languages true, none, none, false⟩ := by
    rfl
  obtain ⟨registry, hregistry⟩ := buildRegistry_launchOf ["languages", "--json"]
  have hreach : Reaches launch ⟨.languages true, none, none, false⟩ helpFileHost
      (.languages (registry.entries { host := helpFileHost })) :=
    .languages rfl loadConfig_helpFileHost rfl hregistry
  refine ⟨_, _, hparse, hreach, ?_⟩
  exact (stdout_of_report rfl hparse rfl hreach).2.mpr ⟨by decide, fun _ h => (by cases h)⟩

/-- Standard output begins with the banner, and is no document, where the name of the file with the
code is a word that asks for help. -/
theorem banner_before_report :
    let launch := launchOf ["run", "-l", "javascript", "--json", "--", "-h"]
    ∃ call result, parse (launch.arguments.drop 1) = .ok call ∧
      call.job = .run ⟨"javascript", "-h", none, true⟩ ∧
      Reaches launch call helpFileHost (.result result) ∧
      shouldShowBanner launch.arguments = true ∧
      RunResult.ofJson ((execute launch).run helpFileHost).1.stdout ≠ .ok result := by
  intro launch
  let options : RunOptions := ⟨"javascript", "-h", none, true⟩
  have hparse : parse (launch.arguments.drop 1) = .ok ⟨.run options, none, none, false⟩ := by
    rfl
  obtain ⟨registry, hregistry⟩ :=
    buildRegistry_launchOf ["run", "-l", "javascript", "--json", "--", "-h"]
  obtain ⟨backend, hfind⟩ : ∃ backend, registry.find? options.language = some backend := by
    refine Option.ne_none_iff_exists'.mp fun hnone => ?_
    rw [find?_eq_none_iff, languages_of_buildRegistry hregistry] at hnone
    exact absurd hnone (by decide)
  have hread : (Session.onHost (readSubmission options).run).run { host := helpFileHost } =
      (.ok ⟨"", none⟩, { host := helpFileHost }) := by
    have hsource : ((Surroundings.ofRegistry registry).read "-h").run { host := helpFileHost } =
        (.ok "", { host := helpFileHost }) := by
      change (sourceText helpFileHost.files "-h", ({ host := helpFileHost } : Session)) = _
      rw [sourceText, readText_helpFileHost]
      rfl
    rw [onHost_readSubmission registry, readWith_run, hsource]
  have hreach : Reaches launch ⟨.run options, none, none, false⟩ helpFileHost (.result _) :=
    .result rfl loadConfig_helpFileHost rfl hregistry hfind hread
  have hbanner : shouldShowBanner launch.arguments = true := by decide
  refine ⟨_, _, hparse, rfl, hreach, hbanner, ?_⟩
  rw [stdout_of_reaches hparse rfl hreach, banner, if_pos hbanner]
  exact not_isReadFrom_banner _ _ (.result _)

end CommandLine

end Sandbox
