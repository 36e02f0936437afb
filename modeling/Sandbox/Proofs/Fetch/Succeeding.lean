import Sandbox.Proofs.Fetch.Publishing

/-!
# Fetches that succeed

A module is fetched if a server delivers it, nothing has its place, and no path is too long. Nothing
that an earlier fetch left in the staging directory is in the way, unless it is a directory where
the draft should be.

## Main definitions

* `Loader.Fits` : the paths of an artefact can be used.
* `Loader.Beside` : a cache that has changed in one entry.
* `Loader.Installed` : a module was put into its place.
* `Loader.checkModule` : what is used of what is delivered for a module.

## Main results

* `Loader.performed_fetchModule`, `Loader.performed_fetchModule_error` : a module that is delivered,
  and one that is not.
-/

namespace Sandbox.Fetch.Loader

open Sandbox.Path (join)
open Files (IsPlain)

variable {loader : Loader} {host : Host} {base : Files.Location} {tree made : Files.Tree}
  {traffic : Http.Traffic} {url : String} {body : Files.Content}

variable (loader) in
/-- The paths of an artefact can be used. -/
structure Fits (base : Files.Location) (artefact : Artefact) : Prop where
  /-- The path of the staging directory. -/
  staging : Files.entryOf loader.cacheDirectory "temp" base = .ok (base ++ ["temp"])
  /-- The path of the draft. -/
  draft : Files.entryOf loader.stagingDirectory artefact.draft (base ++ ["temp"]) =
    .ok (base ++ ["temp"] ++ [artefact.draft])
  /-- The path of the entry. -/
  entry : Files.entryOf loader.cacheDirectory artefact.entry base = .ok (base ++ [artefact.entry])

/-- The cache holds what it held, but for an entry and the draft of it. -/
structure Beside (base : Files.Location) (entry draft : String) (made changed : Files.Tree) :
    Prop where
  /-- Relative paths begin where they did. -/
  here : changed.here = made.here
  /-- All other entries are as they were. -/
  entries : ∀ name, name ≠ "temp" → name ≠ entry →
    changed.under (base ++ [name]) = made.under (base ++ [name])
  /-- All other drafts are as they were. -/
  drafts : ∀ name, name ≠ draft →
    changed.node? (base ++ ["temp"] ++ [name]) = made.node? (base ++ ["temp"] ++ [name])

/-- The staging directory is made, or is there. -/
theorem Sound.makeDirectories (h : loader.Sound base traffic tree)
    (hpath : Files.entryOf loader.cacheDirectory "temp" base = .ok (base ++ ["temp"])) :
    ∃ staged, tree.makeDirectories loader.stagingDirectory = .ok staged ∧
      loader.Sound base traffic staged ∧ staged.node? (base ++ ["temp"]) = some .directory ∧
      (∀ name, name ≠ "temp" → staged.under (base ++ [name]) = tree.under (base ++ [name])) ∧
      ∀ name, staged.node? (base ++ ["temp"] ++ [name]) =
        tree.node? (base ++ ["temp"] ++ [name]) := by
  have hlink : ∀ target, tree.node? (base ++ ["temp"]) ≠ some (.link target) := by
    intro target
    obtain hnone | hdirectory := h.staging
    · simp [hnone]
    · simp [hdirectory]
  have hmake : tree.makeDirectories loader.stagingDirectory = _ :=
    h.home.isAt.makeDirectories_join isPlain_temp hlink
  rw [hpath] at hmake
  dsimp only [Except.bind] at hmake
  obtain hnone | hdirectory := h.staging
  · rw [hnone] at hmake
    have hput := fun other => tree.node?_put (base ++ ["temp"]) other .directory (by simp)
    refine ⟨_, hmake, h.makeStaging hnone, by rw [hput, if_pos rfl], fun name hname =>
      (Files.Tree.sameBut_put (by simp) _).under hname, fun name => ?_⟩
    rw [hput, if_neg (by simp)]
  · rw [hdirectory] at hmake
    exact ⟨tree, hmake, h, hdirectory, fun _ _ => rfl, fun _ => rfl⟩

/-- A draft that is a file, in place of one that was. -/
theorem Sound.write {draft : String} (h : loader.Sound base traffic tree)
    (hstaging : tree.node? (base ++ ["temp"]) = some .directory) (hdraft : IsPlain draft)
    (hpath : Files.entryOf loader.stagingDirectory draft (base ++ ["temp"]) =
      .ok (base ++ ["temp"] ++ [draft]))
    (hnode : tree.node? (base ++ ["temp"] ++ [draft]) ≠ some .directory) :
    ∃ isExecutable, tree.write (join loader.stagingDirectory draft) body =
      .ok (tree.put (base ++ ["temp"] ++ [draft]) (.file body isExecutable)) := by
  have hat : tree.IsAt loader.stagingDirectory (base ++ ["temp"]) :=
    h.home.isAt.inner isPlain_temp (by decide) hstaging
  rw [hat.write_join hdraft (h.drafts draft), hpath]
  dsimp only [Except.bind]
  cases hfound : tree.node? (base ++ ["temp"] ++ [draft]) with
  | none => exact ⟨false, rfl⟩
  | some node =>
    cases node with
    | file _ isExecutable => exact ⟨isExecutable, rfl⟩
    | directory => exact absurd hfound hnode
    | link target => exact absurd hfound (h.drafts draft target)

/-- A file is written as a draft and becomes an entry. -/
theorem performed_publish (host : Host) {entry draft : String} (hentry : IsPlain entry)
    (hdraft : IsPlain draft) (hname : entry ≠ "temp")
    (hmade : host.files.makeDirectories loader.cacheDirectory = .ok made)
    (hsound : loader.Sound base traffic made)
    (hstagingPath : Files.entryOf loader.cacheDirectory "temp" base = .ok (base ++ ["temp"]))
    (hdraftPath : Files.entryOf loader.stagingDirectory draft (base ++ ["temp"]) =
      .ok (base ++ ["temp"] ++ [draft]))
    (hentryPath : Files.entryOf loader.cacheDirectory entry base = .ok (base ++ [entry]))
    (hfree : made.node? (base ++ [entry]) = none)
    (hnode : made.node? (base ++ ["temp"] ++ [draft]) ≠ some .directory)
    (hwhole : ∀ content isExecutable, content [] = some (.file body isExecutable) →
      loader.Whole traffic 0 entry content) :
    ∃ files isExecutable,
      performed (do
        loader.makeDirectories
        Program.onFiles (.write (join loader.stagingDirectory draft) body)
        Program.onFiles (.rename (join loader.stagingDirectory draft)
          (join loader.cacheDirectory entry))) host = (.ok (), { host with files := files }) ∧
      loader.Sound base traffic files ∧
      files.node? (base ++ [entry]) = some (.file body isExecutable) ∧
      Beside base entry draft made files := by
  obtain ⟨staged, hmake, hstaged, hstaging, hentries, hdrafts⟩ :=
    hsound.makeDirectories hstagingPath
  obtain ⟨isExecutable, hwrite⟩ := hstaged.write hstaging hdraft hdraftPath (by rwa [hdrafts])
  generalize hwritten : staged.put (base ++ ["temp"] ++ [draft]) (.file body isExecutable) =
    written at hwrite
  have hput : ∀ other, written.node? other = _ := fun other =>
    hwritten ▸ staged.node?_put (base ++ ["temp"] ++ [draft]) other _ (by simp)
  have hfile : written.node? (base ++ ["temp"] ++ [draft]) = some (.file body isExecutable) := by
    rw [hput, if_pos rfl]
  have hsame : staged.SameBut (base ++ ["temp"] ++ [draft]) written :=
    hwritten ▸ Files.Tree.sameBut_put (by simp) _
  obtain ⟨hdrafted, hstaging'⟩ := hstaged.redraft hstaging hsame
    (fun target => by rw [hfile]; simp) (fun hnone => by rw [hfile] at hnone; cases hnone)
  have hat : written.IsAt loader.stagingDirectory (base ++ ["temp"]) :=
    hdrafted.home.isAt.inner isPlain_temp (by decide) hstaging'
  have hfree' : written.node? (base ++ [entry]) = none := by
    rw [hsame.up.node? hname, Files.Tree.under_inj (hentries entry hname), hfree]
  have hrename : written.rename (join loader.stagingDirectory draft)
      (join loader.cacheDirectory entry) =
        .ok (written.move (base ++ ["temp"] ++ [draft]) (base ++ [entry])) := by
    have hbelow : (base ++ ["temp"] ++ [draft]).isPrefixOf (base ++ [entry]) = false := by
      rw [Bool.eq_false_iff]
      intro htrue
      have := (List.isPrefixOf_iff_prefix.1 htrue).length_le
      simp at this
    rw [hat.rename_join hdraft hdrafted.home.isAt hentry hfree', hdraftPath, hentryPath]
    simp only [Except.bind, hfile, hbelow, Bool.false_eq_true, ↓reduceIte]
  obtain ⟨hsound', hmoved, -⟩ := hdrafted.publish hstaging' hname hentryPath
    (hwhole _ isExecutable (by rw [Files.Tree.under_nil, hfile]))
  refine ⟨_, isExecutable, ?_, hsound', ?_, ?_⟩
  · rw [performed_bind, Loader.makeDirectories, performed_bind, performed_makeDirectories, hmade]
    dsimp only
    rw [performed_makeDirectories, hmake]
    dsimp only
    rw [performed_bind, performed_write, hwrite]
    dsimp only
    rw [performed_rename, hrename]
  · rw [← Files.Tree.under_nil, hmoved, Files.Tree.under_nil, hfile]
  · have hraised := written.raised_move base draft hname
    exact {
      here := hraised.here.trans
        (hsame.here.trans (Files.Tree.makeDirectories_extends hmake).here)
      entries := fun name htemp hne => (hraised.entries name htemp hne).trans
        ((hsame.up.under htemp).trans (hentries name htemp))
      drafts := fun name hne => (Files.Tree.under_inj (hraised.drafts name hne)).trans
        ((hsame.node? hne).trans (hdrafts name)) }

/-! ### Modules -/

variable (loader) in
/-- Nothing is in the place of a module, and a module can be put there. -/
structure IsOpen (base : Files.Location) (url : String) (host : Host) : Prop where
  /-- The address gives the module a name. -/
  isUsable : isUsableName (cacheName url) = true
  /-- Nothing is in the place. -/
  isAbsent : host.files.isPresent (loader.modulePath (cacheName url)) = .ok false
  /-- No path is too long. -/
  fits : loader.Fits base (.module url)
  /-- The cache directory is there or can be made, and holds nothing that is in the way. -/
  isMade : ∃ made, host.files.makeDirectories loader.cacheDirectory = .ok made ∧
    loader.Sound base host.traffic made ∧
    made.node? (base ++ [(Artefact.module url).entry]) = none ∧
    made.node? (base ++ ["temp"] ++ [(Artefact.module url).draft]) ≠ some .directory

/-- A place stays open as long as the files are as they were. -/
theorem IsOpen.grows {later : Host} (h : loader.IsOpen base url host)
    (hfiles : later.files = host.files) (hgrows : host.traffic.Grows later.traffic) :
    loader.IsOpen base url later where
  isUsable := h.isUsable
  isAbsent := hfiles ▸ h.isAbsent
  fits := h.fits
  isMade := by
    obtain ⟨made, hmade, hsound, hfree⟩ := h.isMade
    exact ⟨made, hfiles ▸ hmade, hsound.grows hgrows, hfree⟩

variable (loader) in
/-- A module was put into its place, and nothing else has changed in the cache. -/
structure Installed (base : Files.Location) (url : String) (body : Files.Content)
    (files : Files.Tree) (traffic : Http.Traffic) (later : Files.Tree) : Prop where
  /-- All entries are whole. -/
  sound : loader.Sound base traffic later
  /-- The module is in the place. -/
  file : ∃ isExecutable,
    later.node? (base ++ [(Artefact.module url).entry]) = some (.file body isExecutable)
  /-- Everything else is as it was when the cache directory was there. -/
  beside : ∃ made, files.makeDirectories loader.cacheDirectory = .ok made ∧
    Beside base (Artefact.module url).entry (Artefact.module url).draft made later

/-- A module is downloaded into its place. -/
theorem performed_downloadModule (hopen : loader.IsOpen base url host)
    (hdownload : (loader.client.download url).run host.traffic = (.ok body, traffic))
    (hmodule : body.isModule = true) :
    ∃ files,
      performed (loader.downloadModule (cacheName url) url) host =
        (.ok (), { host with files := files, traffic := traffic }) ∧
      loader.Installed base url body host.files traffic files := by
  obtain ⟨made, hmade, hsound, hfree, hdraft⟩ := hopen.isMade
  have hfits := hopen.fits
  obtain ⟨hgrows, hdelivered⟩ := loader.client.download_delivered hdownload
  have hdelivered := (hdelivered body rfl).grows (.refl traffic) (Nat.zero_le _)
  have hwhole : ∀ content isExecutable, content [] = some (.file body isExecutable) →
      loader.Whole traffic 0 (Artefact.module url).entry content := fun _ _ hfile =>
    have hname : (Artefact.module url).entry = cacheName url ++ ".wasm" := rfl
    .module hname hopen.isUsable hfile hmodule hdelivered
  obtain ⟨files, isExecutable, hpublish, hsound', hfile, hbeside⟩ :=
    performed_publish { host with traffic := traffic }
      ((Artefact.module url).isPlain_entry hopen.isUsable)
      ((Artefact.module url).isPlain_draft hopen.isUsable) (Artefact.module_ne_temp url) hmade
      (hsound.grows hgrows) hfits.staging hfits.draft hfits.entry hfree hdraft hwhole
  refine ⟨files, ?_, hsound', ⟨isExecutable, hfile⟩, made, hmade, hbeside⟩
  rw [downloadModule, performed_bind, performed_download host hdownload]
  dsimp only
  rw [if_pos hmodule]
  exact hpublish

/-- What is delivered for a module, or why it is not used. -/
def checkModule (url : String) : Except LoadError Files.Content → Except LoadError Files.Content
  | .ok body =>
    if body.isModule then .ok body
    else .error (.invalidModule (url ++ " is not a WebAssembly module"))
  | .error e => .error e

theorem eq_of_checkModule {answer : Except LoadError Files.Content}
    (h : checkModule url answer = .ok body) : answer = .ok body ∧ body.isModule = true := by
  cases answer with
  | error e => cases h
  | ok delivered =>
    by_cases hmodule : delivered.isModule = true
    · rw [checkModule, if_pos hmodule] at h
      cases h
      exact ⟨rfl, hmodule⟩
    · simp [checkModule, hmodule] at h

variable (host) in
/-- Nothing is written if no module is delivered. -/
theorem performed_downloadModule_error {answer : Except LoadError Files.Content} {e : LoadError}
    (hdownload : (loader.client.download url).run host.traffic = (answer, traffic))
    (hchecked : checkModule url answer = .error e) :
    performed (loader.downloadModule (cacheName url) url) host =
      (.error e, { host with traffic := traffic }) := by
  rw [downloadModule, performed_bind, performed_download host hdownload]
  cases answer with
  | error e' =>
    cases hchecked
    rfl
  | ok body =>
    by_cases hmodule : body.isModule = true
    · simp [checkModule, hmodule] at hchecked
    · rw [checkModule, if_neg hmodule] at hchecked
      cases hchecked
      dsimp only
      rw [if_neg hmodule, performed_bind]
      rfl

/-- A module is downloaded if nothing is in its place. -/
theorem performed_fetch_module (husable : isUsableName (cacheName url) = true)
    (hplace : host.files.isPresent (loader.modulePath (cacheName url)) = .ok false) :
    ∃ begins ends,
      performed ((Artefact.module url).fetch loader) host =
        match performed (loader.downloadModule (cacheName url) url)
            { host with log := host.log ++ [begins] } with
        | (.ok (), later) =>
          (.ok (loader.modulePath (cacheName url)), { later with log := later.log ++ [ends] })
        | (.error e, later) => (.error e, later) := by
  have hcheck : checkName (cacheName url) url = .ok () := by rw [checkName, if_pos husable]
  refine ⟨⟨.info, target, "Downloading module " ++ cacheName url ++ " from: " ++ url⟩,
    ⟨.info, target, "Module cached at: " ++ Text.quotedPath (loader.modulePath (cacheName url))⟩,
    ?_⟩
  dsimp only [Artefact.fetch]
  rw [fetchModule, performed_bind, performed_check, hcheck]
  dsimp only
  rw [performed_bind, performed_isPresent hplace]
  simp only [Bool.false_eq_true, ↓reduceIte]
  rw [performed_bind, performed_say]
  dsimp only
  rw [performed_bind]
  generalize performed (loader.downloadModule (cacheName url) url) _ = downloaded
  obtain ⟨answer, later⟩ := downloaded
  cases answer <;> rfl

/-- A module is fetched into its place. -/
theorem performed_fetchModule (hopen : loader.IsOpen base url host)
    (hdownload : (loader.client.download url).run host.traffic = (.ok body, traffic))
    (hmodule : body.isModule = true) :
    ∃ files log,
      performed ((Artefact.module url).fetch loader) host =
        (.ok (loader.modulePath (cacheName url)), ⟨files, traffic, log⟩) ∧
      loader.Installed base url body host.files traffic files := by
  obtain ⟨begins, ends, hfetch⟩ := performed_fetch_module hopen.isUsable hopen.isAbsent
  have hopen : loader.IsOpen base url { host with log := host.log ++ [begins] } :=
    hopen.grows rfl (.refl host.traffic)
  obtain ⟨files, hperformed, hinstalled⟩ := performed_downloadModule hopen hdownload hmodule
  rw [hfetch, hperformed]
  exact ⟨files, _, rfl, hinstalled⟩

/-- A module that is not delivered. No file changes. -/
theorem performed_fetchModule_error {answer : Except LoadError Files.Content} {e : LoadError}
    (husable : isUsableName (cacheName url) = true)
    (hplace : host.files.isPresent (loader.modulePath (cacheName url)) = .ok false)
    (hdownload : (loader.client.download url).run host.traffic = (answer, traffic))
    (hchecked : checkModule url answer = .error e) :
    ∃ log, performed ((Artefact.module url).fetch loader) host =
      (.error e, ⟨host.files, traffic, log⟩) := by
  obtain ⟨begins, ends, hfetch⟩ := performed_fetch_module husable hplace
  refine ⟨host.log ++ [begins], ?_⟩
  rw [hfetch, performed_downloadModule_error { host with log := host.log ++ [begins] } hdownload
    hchecked]

variable (loader) in
theorem isConfined_makeDirectories (host : Host) :
    Program.IsConfined loader.makeDirectories host :=
  isConfined_bind (isConfined_onFiles trivial) fun _ _ => isConfined_onFiles trivial

variable (loader) in
/-- Nothing is unpacked for a module. -/
theorem isConfined_fetchModule (url : String) (host : Host) :
    Program.IsConfined ((Artefact.module url).fetch loader) host := by
  have hdone : ∀ host : Host, Program.IsConfined (pure (loader.modulePath (cacheName url)) :
      ExceptT LoadError Program String) host := fun _ => trivial
  have hdownload : ∀ host, Program.IsConfined (loader.downloadModule (cacheName url) url) host := by
    refine fun host => isConfined_bind ⟨trivial, trivial⟩ fun content later => ?_
    dsimp only
    split
    · exact isConfined_bind (loader.isConfined_makeDirectories later) fun _ _ =>
        isConfined_bind (isConfined_onFiles trivial) fun _ _ => isConfined_onFiles trivial
    · exact isConfined_bind trivial fun _ later =>
        isConfined_bind (loader.isConfined_makeDirectories later) fun _ _ =>
          isConfined_bind (isConfined_onFiles trivial) fun _ _ => isConfined_onFiles trivial
  refine isConfined_bind trivial fun _ later => ?_
  refine isConfined_bind (isConfined_onFiles trivial) fun present later => ?_
  dsimp only
  split
  · exact isConfined_bind (isConfined_say _ _ _ _) fun _ later => hdone later
  · exact isConfined_bind (isConfined_say _ _ _ _) fun _ later => isConfined_bind (hdownload later)
      fun _ later => isConfined_bind (isConfined_say _ _ _ _) fun _ later => hdone later

/-- A fetch of a module that is performed is one that may come. -/
theorem runs_fetchModule {later : Host} {outcome : Except LoadError String}
    (h : performed ((Artefact.module url).fetch loader) host = (outcome, later)) :
    Program.Runs ((Artefact.module url).fetch loader) host (some outcome) later := by
  have hruns := Program.runs_perform (isConfined_fetchModule loader url host)
  change Program.Runs _ _ (some (performed _ _).1) (performed _ _).2 at hruns
  rwa [h] at hruns

/-! ### A module in an empty cache -/

section Sample

/-- The bytes with which every module begins, and nothing else. -/
def sampleBody : Files.Content :=
  .bytes [0x00, 0x61, 0x73, 0x6D]

/-- The address of a module. -/
def sampleUrl : String := "http://h/a.wasm"

/-- The parts of the address. -/
def sampleParts : Http.Url :=
  ⟨"http", some "h", "/a.wasm", none, none⟩

/-- A loader with its cache right below the root. -/
def sampleLoader : Loader :=
  ⟨"/cache", ⟨"agent", 0⟩⟩

/-- An empty cache directory. -/
def sampleFiles : Files.Tree :=
  ⟨[(["cache"], .directory)], []⟩

theorem cacheName_sampleUrl : cacheName sampleUrl = "a" := by
  decide +kernel

theorem parse?_sampleUrl : Http.Url.parse? sampleUrl = some sampleParts := by
  decide +kernel

theorem isUsableName_sampleUrl : isUsableName (cacheName sampleUrl) = true := by
  rw [cacheName_sampleUrl]
  decide

theorem entry_sampleUrl : (Artefact.module sampleUrl).entry = "a.wasm" := by
  rw [Artefact.entry, cacheName_sampleUrl]
  rfl

private theorem isPlain_cache : IsPlain "cache" :=
  ⟨by decide, by decide⟩

theorem isAt_sampleFiles : sampleFiles.IsAt sampleLoader.cacheDirectory ["cache"] :=
  (Files.Tree.isAt_root sampleFiles).inner isPlain_cache (by decide) rfl

theorem isBare_sampleFiles : sampleFiles.IsBare ["cache"] := by
  intro name rest
  simp [Files.Tree.under, Files.Tree.node?, sampleFiles]

theorem makeDirectories_sampleFiles :
    sampleFiles.makeDirectories sampleLoader.cacheDirectory = .ok sampleFiles := by
  have hdirectory : sampleFiles.node? ["cache"] = some .directory := rfl
  have hentry : Files.entryOf "/" "cache" [] = .ok ["cache"] := rfl
  change sampleFiles.makeDirectories (join "/" "cache") = _
  rw [(Files.Tree.isAt_root sampleFiles).makeDirectories_join isPlain_cache
    fun target => by simp [hdirectory], hentry]
  simp only [Except.bind, hdirectory]

theorem node?_sampleFiles (name : String) : sampleFiles.node? (["cache"] ++ [name]) = none :=
  isBare_sampleFiles name []

theorem node?_sampleFiles_draft (name : String) :
    sampleFiles.node? (["cache"] ++ ["temp"] ++ [name]) = none :=
  isBare_sampleFiles "temp" [name]

/-- Nothing has a place in the empty cache. -/
theorem isPresent_sampleFiles (artefact : Artefact)
    (husable : isUsableName (cacheName artefact.url) = true)
    (hfits : sampleLoader.Fits ["cache"] artefact) :
    sampleFiles.isPresent (join sampleLoader.cacheDirectory artefact.entry) = .ok false := by
  have hpresent := isAt_sampleFiles.isPresent_join (artefact.isPlain_entry husable) fun target => by
    rw [node?_sampleFiles]
    simp
  rw [hfits.entry] at hpresent
  rwa [Except.map, node?_sampleFiles] at hpresent

/-- The module can be put into the empty cache. -/
theorem isOpen_sampleFiles (traffic : Http.Traffic) (log : Log) :
    sampleLoader.IsOpen ["cache"] sampleUrl ⟨sampleFiles, traffic, log⟩ := by
  have hfits : sampleLoader.Fits ["cache"] (.module sampleUrl) := by
    refine ⟨rfl, ?_, ?_⟩
    · rw [Artefact.draft, cacheName_sampleUrl]
      rfl
    · rw [entry_sampleUrl]
      rfl
  have hdraft : sampleFiles.node? (["cache"] ++ ["temp"] ++
      [(Artefact.module sampleUrl).draft]) ≠ some .directory := by
    rw [node?_sampleFiles_draft]
    simp
  have hplace := isPresent_sampleFiles (.module sampleUrl) isUsableName_sampleUrl hfits
  exact ⟨isUsableName_sampleUrl, hplace, hfits, sampleFiles, makeDirectories_sampleFiles,
    sound_of_isBare isAt_sampleFiles isBare_sampleFiles, node?_sampleFiles _, hdraft⟩

end Sample

end Sandbox.Fetch.Loader
