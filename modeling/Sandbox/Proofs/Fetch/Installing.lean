import Sandbox.Proofs.Fetch.Succeeding
import Sandbox.Proofs.Files.Unpacking

/-!
# Archives that are put into place

An archive that a server delivers is unpacked in the staging directory, where nothing is left of an
earlier attempt, and is put into its place once all of it could be unpacked. As long as that has not
come about the place stays empty, and the next attempt can do what this one could.

## Main definitions

* `Loader.Awaits` : nothing is in the place of an archive, and an archive can be put there.
* `Loader.cleared` : the files in which an archive is unpacked.
* `Loader.Attempt` : what comes of an attempt, by what the server answers.

## Main results

* `Loader.performed_fetchArchive` : a fetch makes an attempt.
* `Loader.Attempt.awaits`, `Loader.Attempt.isPresent` : the place after an attempt.
* `Loader.Awaits.installed` : the place after something else was put into its own.
-/

namespace Sandbox.Fetch.Loader

open Sandbox.Path (join)
open Files (Tree)

variable {loader : Loader} {host : Host} {base : Files.Location} {files later tree made : Tree}
  {traffic : Http.Traffic} {url : String} {body : Files.Content}
  {answer : Except LoadError Files.Content} {outcome : Except LoadError Unit}

/-! ### Empty places -/

variable (loader) in
/-- Nothing is in the place of an archive, and an archive can be put there. -/
structure Awaits (base : Files.Location) (url : String) (host : Host) : Prop where
  /-- The address gives the archive a name. -/
  isUsable : isUsableName (cacheName url) = true
  /-- The name is not that of the staging directory. -/
  isEntry : cacheName url ≠ "temp"
  /-- The address is one of an archive that can be unpacked. -/
  isArchive : isArchiveUrl url = true
  /-- Nothing is in the place. -/
  isAbsent : host.files.isPresent (loader.archivePath (cacheName url)) = .ok false
  /-- No path is too long. -/
  fits : loader.Fits base (.archive url)
  /-- Relative paths begin at a location. -/
  here : host.files.here.IsProper
  /-- The cache directory is there or can be made, and holds nothing that is in the way. -/
  isMade : ∃ made, host.files.makeDirectories loader.cacheDirectory = .ok made ∧
    loader.Sound base host.traffic made ∧ made.node? (base ++ [cacheName url]) = none ∧
    ∀ content isExecutable,
      made.node? (base ++ ["temp"] ++ [cacheName url]) ≠ some (.file content isExecutable)

/-- It does not matter what is logged, nor what else was asked of the servers. -/
theorem Awaits.grows {later : Host} (h : loader.Awaits base url host)
    (hfiles : later.files = host.files) (hgrows : host.traffic.Grows later.traffic) :
    loader.Awaits base url later where
  isUsable := h.isUsable
  isEntry := h.isEntry
  isArchive := h.isArchive
  isAbsent := hfiles ▸ h.isAbsent
  fits := h.fits
  here := hfiles ▸ h.here
  isMade := by
    obtain ⟨made, hmade, hsound, hfree⟩ := h.isMade
    exact ⟨made, hfiles ▸ hmade, hsound.grows hgrows, hfree⟩

/-- In a cache whose directory is there, an archive has no place as long as no entry has its name
and no file is in place of its draft. -/
theorem Awaits.of_sound {later : Host} (h : loader.Awaits base url host)
    (hsound : loader.Sound base later.traffic later.files) (hhere : later.files.here.IsProper)
    (habsent : later.files.node? (base ++ [cacheName url]) = none)
    (hdraft : ∀ content isExecutable,
      later.files.node? (base ++ ["temp"] ++ [cacheName url]) ≠
        some (.file content isExecutable)) : loader.Awaits base url later where
  isUsable := h.isUsable
  isEntry := h.isEntry
  isArchive := h.isArchive
  isAbsent := by
    have hplain := isPlain_of_isUsableName h.isUsable
    have hentry : Files.entryOf loader.cacheDirectory (cacheName url) base =
        .ok (base ++ [cacheName url]) := h.fits.entry
    rw [archivePath, hsound.home.isAt.isPresent_join hplain (by simp [habsent]), hentry]
    simp [Except.map, habsent]
  fits := h.fits
  here := hhere
  isMade := ⟨later.files, hsound.home.isAt.makeDirectories_of_entryOf
    (isPlain_of_isUsableName h.isUsable) h.fits.entry, hsound, habsent, hdraft⟩

/-- The place of an archive is as empty as it was once a module was put into its own place. -/
theorem Awaits.installed {other : String} (h : loader.Awaits base url host)
    (hinstalled : loader.Installed base other body host.files traffic files)
    (hentry : cacheName url ≠ (Artefact.module other).entry)
    (hdraft : cacheName url ≠ (Artefact.module other).draft) (log : Log) :
    loader.Awaits base url ⟨files, traffic, log⟩ := by
  obtain ⟨made, hmade, -, habsent, hfile⟩ := h.isMade
  obtain ⟨made', hmade', hbeside⟩ := hinstalled.beside
  cases hmade.symm.trans hmade'
  refine h.of_sound hinstalled.sound ?_ ?_ fun content isExecutable => ?_
  · rw [hbeside.here, (Tree.makeDirectories_extends hmade).here]
    exact h.here
  · exact (Tree.under_inj (hbeside.entries _ h.isEntry hentry)).trans habsent
  · rw [hbeside.drafts _ hdraft]
    exact hfile content isExecutable

/-! ### Drafts -/

variable (loader) in
/-- The files once the directories of the cache are there and nothing is left of an earlier
attempt. -/
def cleared (name : String) (files : Tree) : Except FileError Tree := do
  let made ← files.makeDirectories loader.cacheDirectory
  let staged ← made.makeDirectories loader.stagingDirectory
  if ← staged.isPresent (loader.archiveDraft name) then
    staged.removeTree (loader.archiveDraft name)
  else .ok staged

variable (loader) in
/-- The staging directory is there, and neither an archive nor a draft of it. -/
structure Clear (base : Files.Location) (url : String) (traffic : Http.Traffic) (tree : Tree) :
    Prop where
  /-- All entries are whole. -/
  sound : loader.Sound base traffic tree
  /-- The staging directory is there. -/
  staging : tree.node? (base ++ ["temp"]) = some .directory
  /-- Nothing is in the place of the archive. -/
  absent : tree.node? (base ++ [cacheName url]) = none
  /-- There is no draft. -/
  free : tree.IsFree (base ++ ["temp"] ++ [cacheName url])
  /-- Relative paths begin at a location. -/
  here : tree.here.IsProper

/-- The staging directory is found by its path. -/
theorem Clear.isAt (h : loader.Clear base url traffic tree) :
    tree.IsAt loader.stagingDirectory (base ++ ["temp"]) :=
  h.sound.home.isAt.inner isPlain_temp (by decide) h.staging

theorem Clear.grows {later : Http.Traffic} (h : loader.Clear base url traffic tree)
    (hgrows : traffic.Grows later) : loader.Clear base url later tree :=
  ⟨h.sound.grows hgrows, h.staging, h.absent, h.free, h.here⟩

/-- A draft that is there is a directory, and can be removed. -/
theorem Sound.clearDraft (h : loader.Sound base traffic tree)
    (hstaging : tree.node? (base ++ ["temp"]) = some .directory)
    (husable : isUsableName (cacheName url) = true) (hentry : cacheName url ≠ "temp")
    (hpath : Files.entryOf loader.stagingDirectory (cacheName url) (base ++ ["temp"]) =
      .ok (base ++ ["temp"] ++ [cacheName url]))
    (hfile : ∀ content isExecutable,
      tree.node? (base ++ ["temp"] ++ [cacheName url]) ≠ some (.file content isExecutable))
    (habsent : tree.node? (base ++ [cacheName url]) = none) (hhere : tree.here.IsProper) :
    ∃ present, tree.isPresent (loader.archiveDraft (cacheName url)) = .ok present ∧
      ∃ clear, (if present then tree.removeTree (loader.archiveDraft (cacheName url))
        else .ok tree) = .ok clear ∧ loader.Clear base url traffic clear := by
  have hplain := isPlain_of_isUsableName husable
  have hat : tree.IsAt loader.stagingDirectory (base ++ ["temp"]) :=
    h.home.isAt.inner isPlain_temp (by decide) hstaging
  refine ⟨(tree.node? (base ++ ["temp"] ++ [cacheName url])).isSome, ?_, ?_⟩
  · rw [archiveDraft, hat.isPresent_join hplain (h.drafts _), hpath]
    rfl
  cases hnode : tree.node? (base ++ ["temp"] ++ [cacheName url]) with
  | none => exact ⟨tree, rfl, h, hstaging, habsent, h.freeDrafts _ hnode, hhere⟩
  | some node =>
    have hremove : tree.removeTree (loader.archiveDraft (cacheName url)) =
        .ok (tree.remove (base ++ ["temp"] ++ [cacheName url])) := by
      rw [archiveDraft, Tree.removeTree, hat.find_join hplain (by simp), hpath]
      simp only [bind, Except.bind, hnode]
      cases node with
      | file content isExecutable => exact absurd hnode (hfile content isExecutable)
      | directory => rfl
      | link target => rfl
    have hgone := tree.isFree_remove (show base ++ ["temp"] ++ [cacheName url] ≠ [] by simp)
    have hsame := tree.sameBut_remove (base ++ ["temp"] ++ [cacheName url])
    have hdisturbs : tree.Disturbs (base ++ ["temp"] ++ [cacheName url]) _ := ⟨hsame, .inr hgone⟩
    obtain ⟨hsound, hstaging⟩ := h.redraft hstaging hsame hdisturbs.not_link hdisturbs.isFree
    exact ⟨_, hremove, hsound, hstaging, (hsame.up.node? hentry).trans habsent, hgone,
      hsame.here ▸ hhere⟩

/-- What is left of an earlier attempt can be removed. -/
theorem Awaits.cleared (h : loader.Awaits base url host) :
    ∃ clear, loader.cleared (cacheName url) host.files = .ok clear ∧
      loader.Clear base url host.traffic clear := by
  obtain ⟨made, hmade, hsound, habsent, hfile⟩ := h.isMade
  obtain ⟨staged, hstage, hsound, hstaging, hentries, hdrafts⟩ :=
    hsound.makeDirectories h.fits.staging
  have hhere : staged.here.IsProper := by
    rw [(Tree.makeDirectories_extends hstage).here, (Tree.makeDirectories_extends hmade).here]
    exact h.here
  obtain ⟨present, hpresent, clear, hremove, hclear⟩ := hsound.clearDraft hstaging h.isUsable
    h.isEntry h.fits.draft (fun content isExecutable => hdrafts _ ▸ hfile content isExecutable)
    ((Tree.under_inj (hentries _ h.isEntry)).trans habsent) hhere
  refine ⟨clear, ?_, hclear⟩
  simp only [Loader.cleared, hmade, hstage, hpresent, bind, Except.bind]
  exact hremove

/-! ### Attempts -/

variable (loader) in
/-- What comes of an attempt to put an archive into its place, by what the server answers. -/
inductive Attempt (base : Files.Location) (url : String) (files : Tree) :
    Except LoadError Files.Content → Except LoadError Unit → Tree → Prop
  /-- No archive is delivered, and no file changes. -/
  | undelivered (e : LoadError) : Attempt base url files (.error e) (.error e) files
  /-- Not all of the archive can be unpacked. What there is of it stays a draft. -/
  | broken {body : Files.Content} {clear later : Tree} {e : LoadError}
      (clears : loader.cleared (cacheName url) files = .ok clear)
      (unpacks : Files.unpack body (loader.archiveDraft (cacheName url)) clear =
        (.error e, later)) : Attempt base url files (.ok body) (.error e) later
  /-- All of the archive is unpacked and becomes the entry. -/
  | placed {body : Files.Content} {clear later : Tree}
      (clears : loader.cleared (cacheName url) files = .ok clear)
      (unpacks : Files.unpack body (loader.archiveDraft (cacheName url)) clear = (.ok (), later)) :
      Attempt base url files (.ok body) (.ok ())
        (later.move (base ++ ["temp"] ++ [cacheName url]) (base ++ [cacheName url]))

section Unpacking

variable (h : loader.Clear base url traffic tree) (husable : isUsableName (cacheName url) = true)

include h husable

/-- Whatever comes of unpacking, only the draft changes. -/
theorem Clear.unpack (hentry : cacheName url ≠ "temp")
    (hunpack : Files.unpack body (loader.archiveDraft (cacheName url)) tree = (outcome, later)) :
    tree.Disturbs (base ++ ["temp"] ++ [cacheName url]) later ∧ loader.Sound base traffic later ∧
      later.node? (base ++ ["temp"]) = some .directory ∧
      later.node? (base ++ [cacheName url]) = none := by
  have hdisturbs : tree.Disturbs (base ++ ["temp"] ++ [cacheName url])
      (Files.unpack body (loader.archiveDraft (cacheName url)) tree).2 :=
    Files.unpack_disturbs h.here h.isAt (isPlain_of_isUsableName husable) h.free
  rw [hunpack] at hdisturbs
  obtain ⟨hsound, hstaging⟩ := h.sound.redraft h.staging hdisturbs.toSameBut hdisturbs.not_link
    hdisturbs.isFree
  exact ⟨hdisturbs, hsound, hstaging, (hdisturbs.toSameBut.up.node? hentry).trans h.absent⟩

/-- The draft is a directory if an archive was unpacked. -/
theorem Clear.directory
    (hunpack : Files.unpack body (loader.archiveDraft (cacheName url)) tree = (.ok (), later)) :
    later.node? (base ++ ["temp"] ++ [cacheName url]) = some .directory := by
  unfold archiveDraft at hunpack
  cases hmade : tree.makeDirectories (join loader.stagingDirectory (cacheName url)) with
  | error e =>
    rw [Files.unpack, hmade] at hunpack
    cases hunpack
  | ok made =>
    have hplain := isPlain_of_isUsableName husable
    have hdirectory := (Files.unpack_sameBut h.here h.isAt hplain h.free body hmade).2
    rwa [hunpack] at hdirectory

/-- An archive that was unpacked can be put into its place. -/
theorem Clear.rename (hentry : cacheName url ≠ "temp") (hfits : loader.Fits base (.archive url))
    (hunpack : Files.unpack body (loader.archiveDraft (cacheName url)) tree = (.ok (), later)) :
    later.rename (loader.archiveDraft (cacheName url)) (loader.archivePath (cacheName url)) =
      .ok (later.move (base ++ ["temp"] ++ [cacheName url]) (base ++ [cacheName url])) := by
  have hplain := isPlain_of_isUsableName husable
  obtain ⟨-, hsound, hstaging, hfree⟩ := h.unpack husable hentry hunpack
  have hat : later.IsAt loader.stagingDirectory (base ++ ["temp"]) :=
    hsound.home.isAt.inner isPlain_temp (by decide) hstaging
  have hdraft : Files.entryOf loader.stagingDirectory (cacheName url) (base ++ ["temp"]) =
      .ok (base ++ ["temp"] ++ [cacheName url]) := hfits.draft
  have hplace : Files.entryOf loader.cacheDirectory (cacheName url) base =
      .ok (base ++ [cacheName url]) := hfits.entry
  have hbelow : (base ++ ["temp"] ++ [cacheName url]).isPrefixOf (base ++ [cacheName url]) =
      false := by
    rw [Bool.eq_false_iff]
    intro htrue
    have := (List.isPrefixOf_iff_prefix.1 htrue).length_le
    simp at this
  rw [archiveDraft, archivePath, hat.rename_join hplain hsound.home.isAt hplain hfree, hdraft,
    hplace]
  simp only [Except.bind, h.directory husable hunpack, hbelow, Bool.false_eq_true, ↓reduceIte]

end Unpacking

theorem performed_unpack (archive : Files.Content) (directory : String) (host : Host) :
    performed (Program.onLoading (.unpack archive directory)) host =
      ((Files.unpack archive directory host.files).1,
        { host with files := (Files.unpack archive directory host.files).2 }) :=
  rfl

/-- What follows on removing an earlier draft. -/
theorem performed_cleared {α : Type} {name : String} {clear : Tree}
    (h : loader.cleared name host.files = .ok clear) (next : ExceptT LoadError Program α) :
    performed (do
      loader.makeDirectories
      if ← Program.onFiles (.isPresent (loader.archiveDraft name)) then
        Program.onFiles (.removeTree (loader.archiveDraft name))
      next) host = performed next { host with files := clear } := by
  unfold cleared at h
  cases hmade : host.files.makeDirectories loader.cacheDirectory with
  | error e => simp [hmade, bind, Except.bind] at h
  | ok made =>
    cases hstaged : made.makeDirectories loader.stagingDirectory with
    | error e => simp [hmade, hstaged, bind, Except.bind] at h
    | ok staged =>
      have hdirectories : performed loader.makeDirectories host =
          (.ok (), { host with files := staged }) := by
        rw [Loader.makeDirectories, performed_bind, performed_makeDirectories, hmade]
        dsimp only
        rw [performed_makeDirectories, hstaged]
      rw [performed_bind, hdirectories]
      dsimp only
      cases hpresent : staged.isPresent (loader.archiveDraft name) with
      | error e => simp [hmade, hstaged, hpresent, bind, Except.bind] at h
      | ok present =>
        have h : (if present then staged.removeTree (loader.archiveDraft name) else .ok staged) =
            .ok clear := by
          simpa only [hmade, hstaged, hpresent, bind, Except.bind] using h
        have hlook : performed (Program.onFiles (.isPresent (loader.archiveDraft name)))
            { host with files := staged } = (.ok present, { host with files := staged }) :=
          performed_isPresent hpresent
        rw [performed_bind, hlook]
        dsimp only
        cases present with
        | false =>
          cases h
          rfl
        | true =>
          rw [if_pos rfl] at h ⊢
          rw [performed_bind, performed_removeTree, h]

/-- A download makes an attempt. -/
theorem performed_downloadArchive (h : loader.Awaits base url host)
    (hdownload : (loader.client.download url).run host.traffic = (answer, traffic)) :
    ∃ outcome files, loader.Attempt base url host.files answer outcome files ∧
      performed (loader.downloadArchive (cacheName url) url) host =
        (outcome, { host with files := files, traffic := traffic }) := by
  rw [downloadArchive, performed_bind, performed_download host hdownload]
  cases answer with
  | error e => exact ⟨_, _, .undelivered e, rfl⟩
  | ok body =>
    obtain ⟨clear, hcleared, hclear⟩ := h.cleared
    have hnext : loader.cleared (cacheName url) { host with traffic := traffic }.files =
      .ok clear := hcleared
    obtain ⟨outcome, later, hunpack⟩ : ∃ outcome later,
        Files.unpack body (loader.archiveDraft (cacheName url)) clear = (outcome, later) :=
      ⟨_, _, rfl⟩
    dsimp only
    rw [performed_cleared hnext, performed_bind, performed_unpack, hunpack]
    cases outcome with
    | error e => exact ⟨_, _, .broken hcleared hunpack, rfl⟩
    | ok _ =>
      refine ⟨_, _, .placed hcleared hunpack, ?_⟩
      dsimp only
      rw [performed_rename, hclear.rename h.isUsable h.isEntry h.fits hunpack]

/-- An archive is downloaded if nothing is in its place. -/
theorem performed_fetchArchive (h : loader.Awaits base url host)
    (hdownload : (loader.client.download url).run host.traffic = (answer, traffic)) :
    ∃ outcome files log, loader.Attempt base url host.files answer outcome files ∧
      performed ((Artefact.archive url).fetch loader) host =
        (outcome.map fun _ => loader.archivePath (cacheName url), ⟨files, traffic, log⟩) := by
  have hcheck : checkName (cacheName url) url = .ok () := by rw [checkName, if_pos h.isUsable]
  dsimp only [Artefact.fetch]
  rw [fetchArchive, performed_bind, performed_check, hcheck]
  dsimp only
  rw [performed_bind, performed_isPresent h.isAbsent]
  simp only [Bool.false_eq_true, ↓reduceIte, h.isArchive]
  rw [performed_bind, performed_say]
  dsimp only
  let logged : Host := { host with log := host.log ++
    [⟨.info, target, "Downloading archive " ++ cacheName url ++ " from: " ++ url⟩] }
  have hlogged : loader.Awaits base url logged := h.grows rfl (.refl _)
  obtain ⟨outcome, files, hattempt, hperformed⟩ := performed_downloadArchive hlogged hdownload
  rw [performed_bind, hperformed]
  cases outcome with
  | error e => exact ⟨_, _, _, hattempt, rfl⟩
  | ok _ => exact ⟨_, _, _, hattempt, rfl⟩

/-! ### Places after attempts -/

/-- The place of an archive is as empty after an attempt that failed as it was before. -/
theorem Attempt.awaits {e : LoadError} (h : loader.Awaits base url host)
    (hattempt : loader.Attempt base url host.files answer (.error e) files)
    (hgrows : host.traffic.Grows traffic) (log : Log) :
    loader.Awaits base url ⟨files, traffic, log⟩ := by
  cases hattempt with
  | undelivered => exact h.grows rfl hgrows
  | @broken body clear _ _ clears unpacks =>
    obtain ⟨_, hcleared, hclear⟩ := h.cleared
    cases clears.symm.trans hcleared
    obtain ⟨hdisturbs, hsound, -, habsent⟩ := hclear.unpack h.isUsable h.isEntry unpacks
    have hsound : loader.Sound base traffic files := hsound.grows hgrows
    have hhere : files.here.IsProper := hdisturbs.here ▸ hclear.here
    refine h.of_sound hsound hhere habsent fun content isExecutable hnode => ?_
    obtain hdirectory | hgone := hdisturbs.inside
    · cases hnode.symm.trans hdirectory
    · have hnone := hgone []
      rw [Tree.under_nil] at hnone
      cases hnode.symm.trans hnone

/-- An attempt that succeeded leaves something in the place of the archive. -/
theorem Attempt.isPresent (h : loader.Awaits base url host)
    (hattempt : loader.Attempt base url host.files (.ok body) (.ok ()) files)
    (hdelivered : traffic.Delivered 0 body) (hgrows : host.traffic.Grows traffic) :
    loader.Sound base traffic files ∧
      files.isPresent (loader.archivePath (cacheName url)) = .ok true := by
  cases hattempt with
  | @placed _ clear later clears unpacks =>
    obtain ⟨_, hcleared, hclear⟩ := h.cleared
    cases clears.symm.trans hcleared
    have hplain := isPlain_of_isUsableName h.isUsable
    obtain ⟨-, hsound, hstaging, -⟩ := hclear.unpack h.isUsable h.isEntry unpacks
    have hentry : Files.entryOf loader.cacheDirectory (cacheName url) base =
        .ok (base ++ [cacheName url]) := h.fits.entry
    have hdirectory := hclear.directory h.isUsable unpacks
    have hlocate : clear.locate true (loader.archiveDraft (cacheName url)) =
        .ok (base ++ ["temp"] ++ [cacheName url]) :=
      (hclear.isAt.locate_join hplain fun _ => hclear.sound.drafts _).trans h.fits.draft
    have hwhole : loader.Whole traffic 0 (cacheName url)
        (later.under (base ++ ["temp"] ++ [cacheName url])) :=
      .archive rfl h.isUsable (by rw [Tree.under_nil, hdirectory]) hdelivered
        ⟨clear, later, _, unpacks, hlocate, hclear.free, rfl⟩
    obtain ⟨hsound, hraised, -⟩ :=
      (hsound.grows hgrows).publish hstaging h.isEntry hentry hwhole
    refine ⟨hsound, ?_⟩
    generalize later.move _ _ = files at hsound hraised
    have hnode : files.node? (base ++ [cacheName url]) = some .directory := by
      rw [← Tree.under_nil, hraised, Tree.under_nil, hdirectory]
    rw [archivePath, hsound.home.isAt.isPresent_join hplain (by simp [hnode]), hentry]
    simp [Except.map, hnode]

/-! ### An archive and an empty cache -/

section Sample

/-- The address of an archive. -/
def sampleArchiveUrl : String := "http://h/sdk.tar.gz"

/-- The parts of that address. -/
def sampleArchiveParts : Http.Url :=
  ⟨"http", some "h", "/sdk.tar.gz", none, none⟩

theorem parse?_sampleArchiveUrl : Http.Url.parse? sampleArchiveUrl = some sampleArchiveParts := by
  decide +kernel

theorem cacheName_sampleArchiveUrl : cacheName sampleArchiveUrl = "sdk" := by
  decide +kernel

/-- The archive can be put into the empty cache. -/
theorem awaits_sampleFiles (traffic : Http.Traffic) (log : Log) :
    sampleLoader.Awaits ["cache"] sampleArchiveUrl ⟨sampleFiles, traffic, log⟩ := by
  have hname := cacheName_sampleArchiveUrl
  have husable : isUsableName (cacheName sampleArchiveUrl) = true := by
    rw [hname]
    decide
  have hfits : sampleLoader.Fits ["cache"] (.archive sampleArchiveUrl) := by
    refine ⟨rfl, ?_, ?_⟩
    · rw [Artefact.draft, hname]
      rfl
    · rw [Artefact.entry, hname]
      rfl
  have hdraft : ∀ content isExecutable, sampleFiles.node? (["cache"] ++ ["temp"] ++
      [cacheName sampleArchiveUrl]) ≠ some (.file content isExecutable) := by
    rw [node?_sampleFiles_draft]
    simp
  have hplace := isPresent_sampleFiles (.archive sampleArchiveUrl) husable hfits
  exact ⟨husable, by simp [hname], by decide +kernel, hplace, hfits,
    by simp [Files.Location.IsProper, sampleFiles], sampleFiles, makeDirectories_sampleFiles,
    sound_of_isBare isAt_sampleFiles isBare_sampleFiles, node?_sampleFiles _, hdraft⟩

end Sample

end Sandbox.Fetch.Loader
