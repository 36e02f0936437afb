import Sandbox.Proofs.Fetch.Confining
import Sandbox.Proofs.Fetch.Keeping

/-!
# Where what a fetch returns comes from

Whether there is anything to download is decided by a look at the place. What has a place may come
from an earlier fetch, but that was one of an artefact of the same kind and the same name: modules
and archives have different places, and so have different names. The one exception is the place of
an archive that is called like the staging directory. Nothing is ever put there, and once the
directory was made, it is returned.

## Main definitions

* `Artefact.IsLike` : artefacts of one kind and one name.
* `Fetched`, `Loader.History` : fetches that were made, and what came of them.
* `Loader.Genuine` : the place of an artefact holds what was downloaded for it.

## Main results

* `Loader.place_eq_iff`, `Loader.place_eq_staging_iff` : which places coincide.
* `Loader.History.accounts` : everything that has a place was put there by one of the fetches.
* `Loader.fetch_returns` : what a fetch returns.
* `Loader.fetch_sampleTempUrl` : a fetch that returns the staging directory.
-/

namespace Sandbox.Fetch

open Sandbox.Path (join)

namespace Artefact

/-- Two artefacts of one kind and one name. -/
def IsLike : Artefact → Artefact → Prop
  | module url, module other | archive url, archive other => cacheName url = cacheName other
  | _, _ => False

theorem entry_eq_iff (artefact other : Artefact) :
    artefact.entry = other.entry ↔ artefact.IsLike other := by
  cases artefact with
  | module url =>
    cases other with
    | module other => simp [entry, IsLike, ← String.toList_inj]
    | archive other => exact iff_of_false (cacheName_ne_append other _).symm id
  | archive url =>
    cases other with
    | module other => exact iff_of_false (cacheName_ne_append url _) id
    | archive other => exact Iff.rfl

theorem entry_eq_temp_iff (artefact : Artefact) :
    artefact.entry = "temp" ↔ ∃ url, artefact = archive url ∧ cacheName url = "temp" := by
  cases artefact with
  | module url => exact iff_of_false (module_ne_temp url) (by simp)
  | archive url => simp [entry]

theorem slash_not_mem_entry (artefact : Artefact) : '/' ∉ artefact.entry.toList := by
  cases artefact with
  | module url =>
    rw [entry, String.toList_append, List.mem_append, not_or]
    exact ⟨slash_not_mem_cacheName url, by decide⟩
  | archive url => exact slash_not_mem_cacheName url

end Artefact

/-- A fetch that was made. -/
structure Fetched where
  /-- What was fetched. -/
  artefact : Artefact
  /-- The host before. -/
  before : Host
  /-- What came of it, if it was not interrupted. -/
  outcome : Option (Except LoadError String)
  /-- The host afterwards. -/
  later : Host

namespace Loader

variable {loader : Loader} {start host later : Host} {tree : Files.Tree}
  {base : Files.Location} {entry name : String} {artefact : Artefact}
  {outcome : Option (Except LoadError String)} {fetches : List Fetched} {traffic : Http.Traffic}
  {earlier : Nat} {content : Files.Location → Option Files.Node}

/-! ### Places -/

variable (loader) in
/-- Artefacts have the same place exactly if they are of one kind and one name. -/
theorem place_eq_iff (artefact other : Artefact) :
    join loader.cacheDirectory artefact.entry = join loader.cacheDirectory other.entry ↔
      artefact.IsLike other := by
  rw [Files.join_inj _ artefact.slash_not_mem_entry other.slash_not_mem_entry,
    artefact.entry_eq_iff]

variable (loader) in
/-- The staging directory is the place of the archives that are called like it, and of nothing
else. -/
theorem place_eq_staging_iff (artefact : Artefact) :
    join loader.cacheDirectory artefact.entry = loader.stagingDirectory ↔
      ∃ url, artefact = .archive url ∧ cacheName url = "temp" := by
  rw [stagingDirectory, Files.join_inj _ artefact.slash_not_mem_entry (by decide),
    artefact.entry_eq_temp_iff]

/-! ### What has a place -/

variable (loader) in
/-- The place of an artefact holds what was downloaded for it: a module is a body that was delivered
in reply to a request after so many earlier ones, and an archive is all that such a body unpacks
to. -/
def Genuine (traffic : Http.Traffic) (earlier : Nat)
    (content : Files.Location → Option Files.Node) : Artefact → Prop
  | .module _ => ∃ body isExecutable, traffic.Delivered earlier body ∧
      content [] = some (.file body isExecutable)
  | .archive url => ∃ body, traffic.Delivered earlier body ∧
      IsUnpacking body (loader.archiveDraft (cacheName url)) content

theorem Whole.genuine (h : loader.Whole traffic earlier artefact.entry content) :
    loader.Genuine traffic earlier content artefact := by
  cases h with
  | @module url body isExecutable isName isUsable isFile isModule delivered =>
    cases artefact with
    | module other => exact ⟨body, isExecutable, delivered, isFile⟩
    | archive other => exact absurd isName (cacheName_ne_append other _)
  | @archive url body isName isUsable isDirectory delivered isUnpacking =>
    cases artefact with
    | module other => exact absurd isName.symm (cacheName_ne_append url _)
    | archive other => exact ⟨body, delivered, isUnpacking⟩

/-- What has a place after a fetch had it before, or is what was fetched. -/
theorem Follows.entry_cases (h : loader.Follows entry host later)
    (hat : later.files.IsAt loader.cacheDirectory base) (hname : name ≠ "temp")
    (hsome : (later.files.node? (base ++ [name])).isSome) :
    (host.files.IsAt loader.cacheDirectory base ∧ (host.files.node? (base ++ [name])).isSome ∧
      later.files.under (base ++ [name]) = host.files.under (base ++ [name])) ∨
    name = entry ∧ loader.Whole later.traffic host.traffic.sent.length name
      (later.files.under (base ++ [name])) := by
  obtain hsame | ⟨other, horigin, -, hsound, hentries⟩ := h.files
  · exact .inl ⟨hsame ▸ hat, hsame ▸ hsome, by rw [hsame]⟩
  · obtain rfl := hat.unique hsound.home.isAt
    obtain hold | ⟨hentry, -, hnew⟩ := hentries name hname
    · rw [Files.Tree.under_inj hold] at hsome
      obtain hbefore | ⟨hbare, -⟩ := horigin
      · exact .inl ⟨hbefore.home.isAt, hsome, hold⟩
      · have hnone := hbare name []
        rw [Files.Tree.under_nil] at hnone
        simp [hnone] at hsome
    · exact .inr ⟨hentry, hnew⟩

/-- What any fetch may leave behind. -/
theorem IsIntact.follows_fetch (h : loader.IsIntact host)
    (hruns : Program.Runs (artefact.fetch loader) host outcome later) :
    loader.Follows artefact.entry host later := by
  by_cases hname : artefact.entry = "temp"
  · exact (attains_fetch_staging h hname _ _ hruns).1
  · exact (attains_fetch h hname _ _ hruns).1

/-- The staging directory is found where it is. -/
theorem Sound.isPresent_staging (h : loader.Sound base traffic tree)
    (hpath : Files.entryOf loader.cacheDirectory "temp" base = .ok (base ++ ["temp"]))
    (hsome : (tree.node? (base ++ ["temp"])).isSome) :
    tree.isPresent loader.stagingDirectory = .ok true := by
  have hlink : ∀ target, tree.node? (base ++ ["temp"]) ≠ some (.link target) := by
    intro target
    obtain hnone | hdirectory := h.staging
    · simp [hnone]
    · simp [hdirectory]
  have hpresent : tree.isPresent loader.stagingDirectory = _ :=
    h.home.isAt.isPresent_join isPlain_temp hlink
  rw [hpresent, hpath]
  exact congrArg Except.ok hsome

/-- A fetch that had to download something leaves the staging directory behind. -/
theorem attains_fetch_absent (h : loader.IsIntact host) (hname : artefact.entry ≠ "temp")
    (habsent : host.files.isPresent (join loader.cacheDirectory artefact.entry) = .ok false) :
    Attains (artefact.fetch loader) host (loader.Follows artefact.entry host)
      fun path later => path = join loader.cacheDirectory artefact.entry ∧
        loader.Holds "temp" later.files := by
  refine attains_fetch_of (fun files _ => loader.Holds "temp" files) (fun _ hpresent => ?_)
    fun husable habsent log => (attains_download h hname husable habsent log).mono
      fun _ _ _ hholds => hholds.2
  rw [habsent] at hpresent
  cases hpresent

/-! ### Histories -/

variable (loader) in
/-- Fetches that were made one after another. Each may have failed or been interrupted. -/
inductive History (start : Host) : List Fetched → Host → Prop
  /-- Nothing was fetched. -/
  | start : History start [] start
  /-- One more fetch. -/
  | fetch {fetches : List Fetched} {artefact : Artefact} {host later : Host}
      {outcome : Option (Except LoadError String)} (before : History start fetches host)
      (runs : Program.Runs (artefact.fetch loader) host outcome later) :
      History start (fetches ++ [⟨artefact, host, outcome, later⟩]) later

/-- All entries are whole after any fetches. -/
theorem History.isIntact (h : loader.History start fetches host) (hstart : loader.IsIntact start) :
    loader.IsIntact host := by
  induction h with
  | start => exact hstart
  | fetch _ runs ih => exact ih.follows (ih.follows_fetch runs)

theorem History.here (h : loader.History start fetches host) (hstart : loader.IsIntact start) :
    host.files.here = start.files.here := by
  induction h with
  | start => rfl
  | fetch before runs ih => exact ((before.isIntact hstart).follows_fetch runs).here.trans ih

variable (loader) in
/-- Everything that has a place was put there by one of the fetches, which downloaded it. -/
def Accounts (fetches : List Fetched) (host : Host) : Prop :=
  ∀ base name, host.files.IsAt loader.cacheDirectory base → name ≠ "temp" →
    (host.files.node? (base ++ [name])).isSome → ∃ fetched ∈ fetches,
      fetched.artefact.entry = name ∧
        loader.Whole fetched.later.traffic fetched.before.traffic.sent.length name
          (host.files.under (base ++ [name]))

/-- Everything that has a place after any fetches was put there by one of them. -/
theorem History.accounts (h : loader.History start fetches host)
    (hstart : loader.IsVacant start.files) : loader.Accounts fetches host := by
  induction h with
  | start =>
    intro base name hat _ hsome
    have hnone := hstart.isBare base hat name []
    rw [Files.Tree.under_nil] at hnone
    simp [hnone] at hsome
  | @fetch fetches artefact host later outcome before runs ih =>
    intro base name hat hname hsome
    have hfollows := (before.isIntact (.inl hstart)).follows_fetch runs
    obtain ⟨hat', hsome', hsame⟩ | ⟨rfl, hwhole⟩ := hfollows.entry_cases hat hname hsome
    · obtain ⟨fetched, hmem, hentry, hwhole⟩ := ih base name hat' hname hsome'
      exact ⟨fetched, List.mem_append_left _ hmem, hentry, hsame ▸ hwhole⟩
    · exact ⟨_, List.mem_append_right _ (List.mem_singleton_self _), rfl, hwhole⟩

/-- What a fetch returns after any fetches, from a cache without entries. Places coincide only for
artefacts of one kind and one name, and none but that of an archive called `temp` is the staging
directory. If any other place is returned, it holds what this fetch or an earlier one of such an
artefact downloaded. If the staging directory is returned, which it is exactly if it is there,
nothing was asked of any server and no file was changed. All this covers fetches that are performed
as they are, as unpacking an archive changes nothing but the draft. -/
theorem fetch_returns (hstart : loader.IsVacant start.files)
    (h : loader.History start fetches host) :
    (∀ artefact other : Artefact,
      join loader.cacheDirectory artefact.entry = join loader.cacheDirectory other.entry ↔
        artefact.IsLike other) ∧
    (∀ artefact : Artefact, join loader.cacheDirectory artefact.entry = loader.stagingDirectory ↔
      ∃ url, artefact = .archive url ∧ cacheName url = "temp") ∧
    (∀ (artefact : Artefact) path later,
      Program.Runs (artefact.fetch loader) host (some (.ok path)) later →
        path = join loader.cacheDirectory artefact.entry ∧
        (path ≠ loader.stagingDirectory →
          ∃ base, later.files.IsAt loader.cacheDirectory base ∧
            ∃ fetched ∈ fetches ++ [⟨artefact, host, some (.ok path), later⟩],
              fetched.artefact.IsLike artefact ∧
              loader.Genuine fetched.later.traffic fetched.before.traffic.sent.length
                (later.files.under (base ++ [artefact.entry])) artefact) ∧
        (path = loader.stagingDirectory → host.files.isPresent loader.stagingDirectory = .ok true ∧
          later.files = host.files ∧ later.traffic = host.traffic)) ∧
    (∀ url, cacheName url = "temp" → host.files.isPresent loader.stagingDirectory = .ok true →
      ∃ log, performed ((Artefact.archive url).fetch loader) host =
        (.ok loader.stagingDirectory, { host with log := log })) ∧
    (start.files.here.IsProper → ∀ artefact : Artefact,
      Program.Runs (artefact.fetch loader) host
        (some (performed (artefact.fetch loader) host).1)
        (performed (artefact.fetch loader) host).2) := by
  have hintact := h.isIntact (.inl hstart)
  refine ⟨place_eq_iff loader, place_eq_staging_iff loader, fun artefact path later hruns => ?_,
    fun url hname hpresent => ?_, fun hhere artefact => ?_⟩
  · by_cases hname : artefact.entry = "temp"
    · obtain ⟨hpath, hfiles, htraffic, hpresent⟩ :=
        (attains_fetch_staging hintact hname _ _ hruns).2 path rfl
      have hplace : join loader.cacheDirectory artefact.entry = loader.stagingDirectory :=
        (place_eq_staging_iff loader artefact).2 (artefact.entry_eq_temp_iff.1 hname)
      exact ⟨hpath.trans hplace.symm, fun hne => absurd hpath hne,
        fun _ => ⟨hpresent, hfiles, htraffic⟩⟩
    · obtain ⟨hpath, base, hat, hsome⟩ := (attains_fetch hintact hname _ _ hruns).2 path rfl
      refine ⟨hpath, fun _ => ⟨base, hat, ?_⟩, fun heq => ?_⟩
      · obtain ⟨fetched, hmem, hentry, hwhole⟩ :=
          (h.fetch hruns).accounts hstart base artefact.entry hat hname hsome
        exact ⟨fetched, hmem, (Artefact.entry_eq_iff _ _).1 hentry, hwhole.genuine⟩
      · rw [hpath, place_eq_staging_iff, ← Artefact.entry_eq_temp_iff] at heq
        exact absurd heq hname
  · have husable : isUsableName (cacheName (Artefact.archive url).url) = true := by
      rw [Artefact.url, hname]
      decide
    have hplace : join loader.cacheDirectory (Artefact.archive url).entry =
        loader.stagingDirectory := (place_eq_staging_iff loader _).2 ⟨url, rfl, hname⟩
    obtain ⟨log, hperformed⟩ := performed_present husable (hplace ▸ hpresent)
    exact ⟨log, hplace ▸ hperformed⟩
  · exact hintact.runs_fetch (h.here (.inl hstart) ▸ hhere) artefact

/-! ### An archive that was never downloaded -/

/-- Servers that deliver a module to all requests, and an empty cache. -/
def sampleStart : Host where
  files := sampleFiles
  traffic := ⟨fun _ _ => .answer 200 none sampleBody true, []⟩

/-- An address whose archive is called like the staging directory. -/
def sampleTempUrl : String :=
  "http://h/temp.tar.gz"

theorem cacheName_sampleTempUrl : cacheName sampleTempUrl = "temp" := by
  decide +kernel

/-- A module is fetched. Then it has its place, and the staging directory is there. -/
theorem history_sample : ∃ host,
    sampleLoader.History sampleStart
      [⟨.module sampleUrl, sampleStart, some (.ok "/cache/a.wasm"), host⟩] host ∧
    host.files.isPresent sampleLoader.stagingDirectory = .ok true ∧
    host.files.isPresent "/cache/a.wasm" = .ok true := by
  have hopen := isOpen_sampleFiles sampleStart.traffic sampleStart.log
  obtain ⟨files, log, hperformed, hsound, ⟨_, hfile⟩, -⟩ :=
    performed_fetchModule hopen (sampleLoader.client.download_answered parse?_sampleUrl rfl rfl) rfl
  generalize hhost : Host.mk files _ log = host at hperformed
  obtain rfl : host.files = files := hhost ▸ rfl
  have hat := hsound.home.isAt
  have hruns := runs_fetchModule hperformed
  have hintact : sampleLoader.IsIntact sampleStart := .inl isVacant_sampleFiles
  have hplace : sampleLoader.modulePath (cacheName sampleUrl) = "/cache/a.wasm" := by
    rw [cacheName_sampleUrl]
    rfl
  obtain ⟨-, base, hat', hsome⟩ := (attains_fetch_absent hintact (Artefact.module_ne_temp _)
    hopen.isAbsent _ _ hruns).2 _ rfl
  obtain rfl := hat.unique hat'
  have hentry := (hintact.follows (hintact.follows_fetch hruns)).entries hat
    (Artefact.module_ne_temp sampleUrl) (by rw [hfile]; rfl)
  rw [hplace] at hruns
  exact ⟨host, .fetch .start hruns, hsound.isPresent_staging rfl hsome, hplace ▸ hentry.2⟩

/-- A module that is fetched again is one that was delivered. -/
theorem fetch_returns_sample : ∃ host later,
    sampleLoader.IsVacant sampleStart.files ∧
    sampleLoader.History sampleStart
      [⟨.module sampleUrl, sampleStart, some (.ok "/cache/a.wasm"), host⟩] host ∧
    Program.Runs ((Artefact.module sampleUrl).fetch sampleLoader) host
      (some (.ok "/cache/a.wasm")) later ∧ later.traffic = host.traffic ∧
    ∃ base earlier body isExecutable, later.files.IsAt "/cache" base ∧
      later.traffic.Delivered earlier body ∧
      later.files.node? (base ++ ["a.wasm"]) = some (.file body isExecutable) := by
  obtain ⟨host, hhistory, -, hpresent⟩ := history_sample
  have husable : isUsableName (cacheName (Artefact.module sampleUrl).url) = true :=
    isUsableName_sampleUrl
  have hplace : join sampleLoader.cacheDirectory (Artefact.module sampleUrl).entry =
      "/cache/a.wasm" := by
    rw [entry_sampleUrl]
    rfl
  obtain ⟨log, hruns⟩ := runs_of_present husable (hplace ▸ hpresent)
  rw [hplace] at hruns
  obtain ⟨-, -, hreturns, -⟩ := fetch_returns isVacant_sampleFiles hhistory
  obtain ⟨-, hgenuine, -⟩ := hreturns _ _ _ hruns
  obtain ⟨base, hat, fetched, hmem, -, body, isExecutable, hdelivered, hfile⟩ :=
    hgenuine (by decide +kernel)
  rw [entry_sampleUrl, Files.Tree.under_nil] at hfile
  refine ⟨host, _, isVacant_sampleFiles, hhistory, hruns, rfl, base,
    fetched.before.traffic.sent.length, body, isExecutable, hat, ?_, hfile⟩
  obtain rfl | hmem := List.mem_cons.1 hmem
  · exact hdelivered
  · obtain rfl := List.mem_singleton.1 hmem
    exact hdelivered

/-- After a module was fetched, a fetch of an archive that no server has gets to its end. What it
returns is the staging directory, though nothing was ever downloaded for an archive. -/
theorem fetch_sampleTempUrl : ∃ host later fetches,
    sampleLoader.IsVacant sampleStart.files ∧ sampleLoader.History sampleStart fetches host ∧
    performed ((Artefact.archive sampleTempUrl).fetch sampleLoader) host =
      (.ok sampleLoader.stagingDirectory, later) ∧
    later.files = host.files ∧ later.traffic = host.traffic ∧
    (∀ fetched ∈ fetches, ¬ fetched.artefact.IsLike (.archive sampleTempUrl)) ∧
    join sampleLoader.cacheDirectory (Artefact.archive sampleTempUrl).entry =
      sampleLoader.stagingDirectory := by
  obtain ⟨host, hhistory, hpresent, -⟩ := history_sample
  have hplace : join sampleLoader.cacheDirectory (Artefact.archive sampleTempUrl).entry =
      sampleLoader.stagingDirectory :=
    (place_eq_staging_iff sampleLoader _).2 ⟨_, rfl, cacheName_sampleTempUrl⟩
  have husable : isUsableName (cacheName (Artefact.archive sampleTempUrl).url) = true := by
    rw [Artefact.url, cacheName_sampleTempUrl]
    decide
  obtain ⟨log, hperformed⟩ := performed_present husable (hplace ▸ hpresent)
  rw [hplace] at hperformed
  refine ⟨host, _, _, isVacant_sampleFiles, hhistory, hperformed, rfl, rfl, fun fetched hmem => ?_,
    hplace⟩
  obtain rfl := List.mem_singleton.1 hmem
  exact id

end Loader

end Sandbox.Fetch
