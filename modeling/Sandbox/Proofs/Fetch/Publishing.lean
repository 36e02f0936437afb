import Sandbox.Proofs.Fetch.Cache
import Sandbox.Proofs.Fetch.Interruption

/-!
# Fetches that fail or are interrupted

Whatever comes of a fetch, what had a place in the cache keeps it. A fetch that gets to its end adds
one entry, and that is made of a body that was delivered to it.

## Main definitions

* `Loader.IsIntact` : a cache without entries, or with whole ones.
* `Loader.Follows` : what a fetch may leave behind.
* `Loader.Holds` : something has the place of an entry.
* `Loader.Opened`, `Loader.Staged` : the cache while nothing has become an entry.
* `Artefact` : what can be fetched.

## Main results

* `Loader.attains_fetch`, `Loader.attains_fetch_staging` : what comes of a fetch, and of one whose
  place is that of the staging directory.
* `Loader.runs_present`, `Loader.performed_present` : a fetch of what has its place.
-/

namespace Sandbox.Fetch

open Sandbox.Path (join)
open Files (IsPlain)

/-- What can be fetched. -/
inductive Artefact where
  /-- The module at an address. -/
  | module (url : String)
  /-- The archive at an address. -/
  | archive (url : String)

namespace Artefact

/-- The name of the entry. -/
def entry : Artefact → String
  | module url => cacheName url ++ ".wasm"
  | archive url => cacheName url

/-- The name of the draft. -/
def draft : Artefact → String
  | module url => cacheName url ++ ".wasm.tmp"
  | archive url => cacheName url

/-- The address. -/
def url : Artefact → String
  | module url | archive url => url

/-- A download into its place. -/
def download (loader : Loader) : Artefact → ExceptT LoadError Program Unit
  | module url => loader.downloadModule (cacheName url) url
  | archive url => loader.downloadArchive (cacheName url) url

/-- Its place in the cache, after a download if it was empty. -/
def fetch (loader : Loader) : Artefact → ExceptT LoadError Program String
  | module url => loader.fetchModule (cacheName url) url
  | archive url => loader.fetchArchive (cacheName url) url

theorem isPlain_entry (artefact : Artefact) (h : isUsableName (cacheName artefact.url) = true) :
    IsPlain artefact.entry := by
  cases artefact with
  | module url => exact isPlain_append url _ (by decide) (by decide)
  | archive url => exact isPlain_of_isUsableName h

theorem isPlain_draft (artefact : Artefact) (h : isUsableName (cacheName artefact.url) = true) :
    IsPlain artefact.draft := by
  cases artefact with
  | module url => exact isPlain_append url _ (by decide) (by decide)
  | archive url => exact isPlain_of_isUsableName h

theorem module_ne_temp (url : String) : (module url).entry ≠ "temp" := by
  intro heq
  have := congrArg (fun text => text.toList.getLast?) heq
  simp [entry] at this

end Artefact

namespace Loader

variable {loader : Loader} {before host later : Host} {base : Files.Location}
  {entry name : String} {content : Files.Content}

theorem isPlain_temp : IsPlain "temp" :=
  ⟨by decide, by decide⟩

/-! ### What a fetch leaves behind -/

variable (loader) in
/-- A cache without entries, or with whole ones. -/
def IsIntact (host : Host) : Prop :=
  loader.IsVacant host.files ∨ ∃ base, loader.Sound base host.traffic host.files

variable (loader) in
/-- Where the cache is before a fetch, or where it will be made. -/
def Origin (base : Files.Location) (before : Host) : Prop :=
  loader.Sound base before.traffic before.files ∨
    before.files.IsBare base ∧
      ∀ other, before.files.IsAt loader.cacheDirectory other → other = base

variable (loader) in
/-- What a fetch of an entry may leave behind: what had a place has kept it, and if the entry has a
place now, it is made of a body that was delivered to the fetch. -/
structure Advances (entry : String) (base : Files.Location) (before later : Host) : Prop where
  /-- Where the cache was. -/
  origin : loader.Origin base before
  /-- Relative paths begin where they did. -/
  here : later.files.here = before.files.here
  /-- All entries are whole. -/
  sound : loader.Sound base later.traffic later.files
  /-- Each entry is as it was, or is the one that was fetched, and new. -/
  entries : ∀ name, name ≠ "temp" →
    later.files.under (base ++ [name]) = before.files.under (base ++ [name]) ∨
      name = entry ∧ before.files.node? (base ++ [name]) = none ∧
        loader.Whole later.traffic before.traffic.sent.length name
          (later.files.under (base ++ [name]))

variable (loader) in
/-- What a fetch of an entry may leave behind, also if it failed before it changed anything. -/
structure Follows (entry : String) (before later : Host) : Prop where
  /-- Servers may have been asked. -/
  grows : before.traffic.Grows later.traffic
  /-- Files may have been changed. -/
  files : later.files = before.files ∨ ∃ base, loader.Advances entry base before later

variable (loader) in
theorem Follows.refl (entry : String) (host : Host) : loader.Follows entry host host :=
  ⟨.refl _, .inl rfl⟩

theorem Follows.log (h : loader.Follows entry before later) (log : Log) :
    loader.Follows entry before { later with log := log } :=
  ⟨h.grows, h.files.imp_right fun ⟨base, h⟩ => ⟨base, h.origin, h.here, h.sound, h.entries⟩⟩

theorem Follows.here (h : loader.Follows entry before later) :
    later.files.here = before.files.here := by
  obtain hsame | ⟨base, hadvances⟩ := h.files
  · rw [hsame]
  · exact hadvances.here

/-- A cache is intact after a fetch. -/
theorem IsIntact.follows (h : loader.IsIntact before)
    (hfollows : loader.Follows entry before later) : loader.IsIntact later := by
  obtain hsame | ⟨base, hadvances⟩ := hfollows.files
  · obtain hvacant | ⟨base, hsound⟩ := h
    · exact .inl (hsame ▸ hvacant)
    · exact .inr ⟨base, hsame ▸ hsound.grows hfollows.grows⟩
  · exact .inr ⟨base, hadvances.sound⟩

variable (loader) in
/-- Something has the place of an entry. -/
def Holds (name : String) (tree : Files.Tree) : Prop :=
  ∃ base, tree.IsAt loader.cacheDirectory base ∧ (tree.node? (base ++ [name])).isSome

/-- Something has a place that is found. -/
theorem IsIntact.holds (h : loader.IsIntact host) (hplain : IsPlain name)
    (hpresent : host.files.isPresent (join loader.cacheDirectory name) = .ok true) :
    loader.Holds name host.files := by
  have hfind : ∃ found, host.files.find true (join loader.cacheDirectory name) = .ok found := by
    unfold Files.Tree.isPresent at hpresent
    split at hpresent
    · next found hfind => exact ⟨found, hfind⟩
    · cases hpresent
    · cases hpresent
  obtain ⟨found, hfind⟩ := hfind
  obtain ⟨base, hat⟩ := Files.Tree.isAt_of_locate_join hplain (Files.Tree.find_eq_ok hfind).1
  have hlink : ∀ target, host.files.node? (base ++ [name]) ≠ some (.link target) := by
    intro target hnode
    obtain hvacant | ⟨other, hsound⟩ := h
    · have hnone := hvacant.isBare base hat name []
      rw [Files.Tree.under_nil, hnode] at hnone
      cases hnone
    · obtain rfl := hat.unique hsound.home.isAt
      by_cases hname : name = "temp"
      · obtain hnone | hdirectory := hname ▸ hsound.staging
        · rw [hnode] at hnone
          cases hnone
        · rw [hnode] at hdirectory
          cases hdirectory
      · have hwhole := (hsound.entries name _ hname hnode).2
        exact hwhole.not_link target (by rw [Files.Tree.under_nil, hnode])
  exact ⟨base, hat, (hat.entryOf_of_isPresent hplain hlink hpresent).2⟩

/-! ### Drafts -/

variable (loader) in
/-- The cache directory is there, and no entry has changed. -/
structure Opened (base : Files.Location) (before host : Host) : Prop where
  /-- Where the cache was. -/
  origin : loader.Origin base before
  /-- Relative paths begin where they did. -/
  here : host.files.here = before.files.here
  /-- Servers may have been asked. -/
  grows : before.traffic.Grows host.traffic
  /-- All entries are whole. -/
  sound : loader.Sound base host.traffic host.files
  /-- Each entry is as it was. -/
  entries : ∀ name, name ≠ "temp" →
    host.files.under (base ++ [name]) = before.files.under (base ++ [name])

variable (loader) in
/-- The staging directory is there too. -/
structure Staged (base : Files.Location) (before host : Host) : Prop
    extends loader.Opened base before host where
  /-- The staging directory is there. -/
  staging : host.files.node? (base ++ ["temp"]) = some .directory

theorem Opened.follows (h : loader.Opened base before host) : loader.Follows entry before host :=
  ⟨h.grows, .inr ⟨base, h.origin, h.here, h.sound, fun name hname =>
    .inl (h.entries name hname)⟩⟩

/-- The staging directory is found by its path. -/
theorem Staged.isAt (h : loader.Staged base before host) :
    host.files.IsAt loader.stagingDirectory (base ++ ["temp"]) :=
  h.sound.home.isAt.inner isPlain_temp (by decide) h.staging

/-- A draft comes or goes. -/
theorem Staged.redraft {files : Files.Tree} (h : loader.Staged base before host)
    (hsame : host.files.SameBut (base ++ ["temp"] ++ [name]) files)
    (hlink : ∀ target, files.node? (base ++ ["temp"] ++ [name]) ≠ some (.link target))
    (hfree : files.node? (base ++ ["temp"] ++ [name]) = none →
      files.IsFree (base ++ ["temp"] ++ [name])) :
    loader.Staged base before { host with files := files } where
  origin := h.origin
  here := hsame.here.trans h.here
  grows := h.grows
  sound := (h.sound.redraft h.staging hsame hlink hfree).1
  staging := (h.sound.redraft h.staging hsame hlink hfree).2
  entries other hother := by
    rw [← h.entries other hother]
    exact hsame.up.under hother

/-- A draft is removed or unpacked, at least in part. -/
theorem Staged.disturb {files : Files.Tree} (h : loader.Staged base before host)
    (hdisturbs : host.files.Disturbs (base ++ ["temp"] ++ [name]) files) :
    loader.Staged base before { host with files := files } :=
  h.redraft hdisturbs.toSameBut hdisturbs.not_link hdisturbs.isFree

/-! ### Actions of a fetch -/

/-- Where nothing has a place, nothing stands. -/
theorem Origin.free (h : loader.Origin base before) (hname : name ≠ "temp") (hplain : IsPlain name)
    (habsent : before.files.isPresent (join loader.cacheDirectory name) = .ok false) :
    before.files.node? (base ++ [name]) = none := by
  obtain hsound | ⟨hbare, -⟩ := h
  · cases hnode : before.files.node? (base ++ [name]) with
    | none => rfl
    | some node =>
      obtain ⟨hentry, hwhole⟩ := hsound.entries name node hname hnode
      have hlink := hwhole.not_link
      simp only [Files.Tree.under_nil] at hlink
      rw [hsound.home.isAt.isPresent_join hplain hlink, hentry] at habsent
      simp [Except.map, hnode] at habsent
  · simpa using hbare name []

/-- The cache directory is made, or is there. -/
theorem IsIntact.makeDirectories {made : Files.Tree} (h : loader.IsIntact before)
    (hmade : before.files.makeDirectories loader.cacheDirectory = .ok made) :
    ∃ base, loader.Origin base before ∧ loader.Sound base before.traffic made ∧
      ∀ name, made.under (base ++ [name]) = before.files.under (base ++ [name]) := by
  obtain hvacant | ⟨base, hsound⟩ := h
  · obtain ⟨base, hat, hbare⟩ := hvacant.isBare_made made hmade
    have hextends := Files.Tree.makeDirectories_extends hmade
    -- what is not there when the directory is made was not there before
    have hbare' : before.files.IsBare base := fun name rest => by
      cases hnode : before.files.under (base ++ [name]) rest with
      | none => rfl
      | some node =>
        have := hextends.keeps _ _ hnode
        rw [← this]
        exact hbare name rest
    refine ⟨base, .inr ⟨hbare', fun other hother => ?_⟩, sound_of_isBare hat hbare,
      fun name => funext fun rest => (hbare name rest).trans (hbare' name rest).symm⟩
    have := (hvacant.isBare other hother)
    rw [hother.makeDirectories hmade] at hat
    exact hother.unique hat
  · have := hsound.home.isAt.makeDirectories hmade
    subst this
    exact ⟨base, .inl hsound, hsound, fun _ => rfl⟩

/-- The directories of the cache are made, or are there. -/
theorem attains_makeDirectories (h : loader.IsIntact before) (hfiles : host.files = before.files)
    (hgrows : before.traffic.Grows host.traffic) :
    Attains loader.makeDirectories host (loader.Follows entry before) fun _ later =>
      later.traffic = host.traffic ∧ ∃ base, loader.Staged base before later := by
  have hnow : loader.Follows entry before host := ⟨hgrows, .inl hfiles⟩
  refine .bind (.onFiles hnow fun answer later goes => ?_)
  obtain ⟨⟨e, rfl⟩, rfl⟩ | ⟨made, hmade, rfl⟩ := goes.makeDirectories
  · exact ⟨hnow, by simp⟩
  · rw [hfiles] at hmade
    obtain ⟨base, horigin, hsound, hunder⟩ := h.makeDirectories hmade
    have hopened : loader.Opened base before { host with files := made } :=
      ⟨horigin, (Files.Tree.makeDirectories_extends hmade).here, hgrows, hsound.grows hgrows,
        fun name _ => hunder name⟩
    refine ⟨hopened.follows, fun _ _ => .onFiles hopened.follows fun answer later goes => ?_⟩
    obtain ⟨⟨e, rfl⟩, rfl⟩ | ⟨staged, hstaged, rfl⟩ := goes.makeDirectories
    · exact ⟨hopened.follows, by simp⟩
    · have hlink : ∀ target, made.node? (base ++ ["temp"]) ≠ some (.link target) := by
        intro target
        obtain hnone | hdirectory := hsound.staging
        · simp [hnone]
        · simp [hdirectory]
      obtain ⟨-, ⟨hnone, rfl⟩ | ⟨hdirectory, hsame⟩⟩ :=
        hsound.home.isAt.of_makeDirectories_join isPlain_temp hlink hstaged
      · have hput := fun other => made.node?_put (base ++ ["temp"]) other .directory (by simp)
        have hstaged : loader.Staged base before
            { host with files := made.put (base ++ ["temp"]) .directory } :=
          { hopened with
            sound := hopened.sound.makeStaging hnone
            staging := by rw [hput, if_pos rfl]
            entries := fun name hname => by
              rw [← hopened.entries name hname]
              exact (Files.Tree.sameBut_put (by simp) _).under hname }
        exact ⟨hstaged.follows, fun _ _ => ⟨rfl, base, hstaged⟩⟩
      · subst hsame
        have hstaged : loader.Staged base before { host with files := staged } :=
          { hopened with staging := hdirectory }
        exact ⟨hopened.follows, fun _ _ => ⟨rfl, base, hstaged⟩⟩

/-- A draft that is a file. -/
theorem Staged.putFile (h : loader.Staged base before host) (name : String)
    (content : Files.Content) (isExecutable : Bool) :
    let files := host.files.put (base ++ ["temp"] ++ [name]) (.file content isExecutable)
    loader.Staged base before { host with files := files } := by
  have hput := fun other => host.files.node?_put (base ++ ["temp"] ++ [name]) other
    (.file content isExecutable) (by simp)
  refine h.redraft (Files.Tree.sameBut_put (by simp) _) (fun target => ?_) fun hnone => ?_
  · rw [hput, if_pos rfl]
    simp
  · rw [hput, if_pos rfl] at hnone
    cases hnone

/-- A draft is written. -/
theorem Staged.attains_write (h : loader.Staged base before host) (hname : IsPlain name) :
    Attains (Program.onFiles (.write (join loader.stagingDirectory name) content)) host
      (loader.Follows entry before) fun _ later => loader.Staged base before later ∧
        later.traffic = host.traffic ∧ ∃ isExecutable,
          later.files.node? (base ++ ["temp"] ++ [name]) = some (.file content isExecutable) := by
  refine .onFiles h.follows fun answer later goes => ?_
  obtain ⟨⟨e, rfl⟩, rfl⟩ |
    ⟨⟨e, rfl⟩, location, part, isExecutable, hlocate, -, rfl⟩ | ⟨files, hfiles, rfl⟩ := goes.write
  · exact ⟨h.follows, by simp⟩
  · rw [h.isAt.locate_join hname fun _ => h.sound.drafts name] at hlocate
    obtain rfl := Files.eq_of_entryOf hlocate
    exact ⟨(h.putFile name part isExecutable).follows, by simp⟩
  · obtain ⟨isExecutable, rfl⟩ := h.isAt.of_write_join hname (h.sound.drafts name) hfiles
    have hstaged := h.putFile name content isExecutable
    refine ⟨hstaged.follows, fun _ _ => ⟨hstaged, rfl, isExecutable, ?_⟩⟩
    rw [Files.Tree.node?_put _ _ _ _ (by simp), if_pos rfl]

/-- A draft becomes an entry, and the staging directory stays. -/
theorem Staged.attains_rename {draft : String} (h : loader.Staged base before host)
    (hname : name ≠ "temp") (hplain : IsPlain name) (hdraft : IsPlain draft)
    (hfree : before.files.node? (base ++ [name]) = none)
    (hwhole : ∀ node, host.files.node? (base ++ ["temp"] ++ [draft]) = some node →
      loader.Whole host.traffic before.traffic.sent.length name
        (host.files.under (base ++ ["temp"] ++ [draft]))) :
    Attains (Program.onFiles (.rename (join loader.stagingDirectory draft)
      (join loader.cacheDirectory name))) host (loader.Follows name before)
      fun _ later => loader.Holds name later.files ∧ loader.Holds "temp" later.files := by
  refine .onFiles h.follows fun answer later goes => ?_
  obtain ⟨⟨e, rfl⟩, rfl⟩ | ⟨files, hfiles, rfl⟩ := goes.rename
  · exact ⟨h.follows, by simp⟩
  · have hfree' : host.files.node? (base ++ [name]) = none := by
      rw [Files.Tree.under_inj (h.entries name hname), hfree]
    obtain ⟨⟨node, hnode⟩, hentry, rfl⟩ :=
      h.isAt.of_rename_join hdraft h.sound.home.isAt hplain hfree' hfiles
    have hnew := hwhole node hnode
    obtain ⟨hsound, hmoved, hothers⟩ :=
      h.sound.publish h.staging hname hentry (hnew.grows (.refl _) (Nat.zero_le _))
    refine ⟨⟨h.grows, .inr ⟨base, h.origin, h.here, hsound, fun other hother => ?_⟩⟩,
      fun _ _ => ?_⟩
    · by_cases hsame : other = name
      · subst hsame
        exact .inr ⟨rfl, hfree, hmoved ▸ hnew⟩
      · exact .inl ((hothers other hother hsame).trans (h.entries other hother))
    · refine ⟨⟨base, hsound.home.isAt, ?_⟩, base, hsound.home.isAt, ?_⟩
      · rw [← Files.Tree.under_nil, hmoved, Files.Tree.under_nil, hnode]
        rfl
      · rw [(host.files.raised_move base draft hname).inner, h.staging]
        rfl

/-- A draft is not put in place of the staging directory. -/
theorem Staged.attains_rename_staging {draft : String} (h : loader.Staged base before host)
    (hdraft : IsPlain draft) :
    Attains (Program.onFiles (.rename (join loader.stagingDirectory draft)
      loader.stagingDirectory)) host (loader.Follows entry before) fun _ _ => False := by
  refine .onFiles h.follows fun answer later goes => ?_
  obtain ⟨⟨e, rfl⟩, rfl⟩ | ⟨files, hfiles, rfl⟩ := goes.rename
  · exact ⟨h.follows, by simp⟩
  · exact absurd hfiles
      (h.isAt.rename_onto_directory hdraft h.sound.home.isAt isPlain_temp rfl)

/-- A draft is unpacked where nothing is. -/
theorem Staged.attains_unpack {url : String} (h : loader.Staged base before host)
    (husable : isUsableName (cacheName url) = true)
    (hentry : Files.entryOf loader.stagingDirectory (cacheName url) (base ++ ["temp"]) =
      .ok (base ++ ["temp"] ++ [cacheName url]))
    (hvacant : host.files.IsFree (base ++ ["temp"] ++ [cacheName url]))
    (hdelivered : host.traffic.Delivered before.traffic.sent.length content) :
    Attains (Program.onLoading (.unpack content (loader.archiveDraft (cacheName url)))) host
      (loader.Follows entry before) fun _ later => loader.Staged base before later ∧
        ∀ node, later.files.node? (base ++ ["temp"] ++ [cacheName url]) = some node →
          loader.Whole later.traffic before.traffic.sent.length (cacheName url)
            (later.files.under (base ++ ["temp"] ++ [cacheName url])) := by
  have hplain := isPlain_of_isUsableName husable
  have hlocate : host.files.locate true (loader.archiveDraft (cacheName url)) =
      .ok (base ++ ["temp"] ++ [cacheName url]) :=
    (h.isAt.locate_join hplain fun _ => h.sound.drafts _).trans hentry
  refine .onLoading h.follows fun answer later goes => ?_
  obtain ⟨⟨e, rfl⟩, rfl⟩ | ⟨files, hdisturbs, rfl, hunpack⟩ := goes.unpack hlocate
  · exact ⟨h.follows, by simp⟩
  · have hstaged := h.disturb hdisturbs
    refine ⟨hstaged.follows, fun _ hanswer => ⟨hstaged, fun node hnode => ?_⟩⟩
    -- what becomes an entry is there, so it is a directory
    have hdirectory : files.node? (base ++ ["temp"] ++ [cacheName url]) = some .directory := by
      refine hdisturbs.inside.resolve_right fun hgone => ?_
      have := hgone []
      rw [Files.Tree.under_nil] at this
      exact absurd (hnode.symm.trans this) (by simp)
    exact .archive rfl husable (by rw [Files.Tree.under_nil, hdirectory]) hdelivered
      ⟨host.files, files, _, hunpack hanswer, hlocate, hvacant, rfl⟩

/-- What is left of an earlier draft is removed. -/
theorem Staged.attains_remove (h : loader.Staged base before host) (hname : IsPlain name) :
    Attains (Program.onFiles (.removeTree (join loader.stagingDirectory name))) host
      (loader.Follows entry before) fun _ later => loader.Staged base before later ∧
        later.traffic = host.traffic ∧ later.files.IsFree (base ++ ["temp"] ++ [name]) := by
  refine .onFiles h.follows fun answer later goes => ?_
  obtain ⟨⟨e, rfl⟩, rfl⟩ | ⟨⟨e, rfl⟩, location, node, files, hfind, hdisturbs, rfl⟩ |
    ⟨files, hfiles, rfl⟩ := goes.removeTree
  · exact ⟨h.follows, by simp⟩
  · obtain rfl := h.isAt.eq_of_find_join hname hfind
    exact ⟨(h.disturb hdisturbs).follows, by simp⟩
  · obtain rfl := h.isAt.of_removeTree_join hname hfiles
    have hgone := host.files.isFree_remove (show base ++ ["temp"] ++ [name] ≠ [] by simp)
    have hstaged := h.disturb ⟨host.files.sameBut_remove _, .inr hgone⟩
    exact ⟨hstaged.follows, fun _ _ => ⟨hstaged, rfl, hgone⟩⟩

/-! ### Fetches -/

section Download

variable {url : String} (h : loader.IsIntact before) (hfiles : host.files = before.files)
  (hgrows : before.traffic.Grows host.traffic) (husable : isUsableName (cacheName url) = true)

include h hfiles hgrows husable

/-- A module is downloaded into its empty place. -/
theorem attains_downloadModule
    (habsent : before.files.isPresent (loader.modulePath (cacheName url)) = .ok false) :
    Attains (loader.downloadModule (cacheName url) url) host
      (loader.Follows (Artefact.module url).entry before)
      fun _ later => loader.Holds (Artefact.module url).entry later.files ∧
        loader.Holds "temp" later.files := by
  unfold downloadModule
  refine .bind (.onLoading ⟨hgrows, .inl hfiles⟩ fun answer later goes => ?_)
  obtain ⟨hgrows', hfiles', hdelivered⟩ := goes.download
  have hlater : loader.Follows (Artefact.module url).entry before later :=
    ⟨hgrows.trans hgrows', .inl (hfiles'.trans hfiles)⟩
  refine ⟨hlater, fun body hbody => ?_⟩
  have hdelivered := (hdelivered body hbody).grows (.refl _) hgrows.sent.length_le
  dsimp only
  split
  · next hmodule =>
    refine .bind ((attains_makeDirectories h (hfiles'.trans hfiles) (hgrows.trans hgrows')).mono ?_)
    rintro - made - ⟨htraffic, base, hstaged⟩
    have hplain := isPlain_append url ".wasm" (by decide) (by decide)
    have hdraft := isPlain_append url ".wasm.tmp" (by decide) (by decide)
    refine .bind ((hstaged.attains_write hdraft).mono ?_)
    rintro - written - ⟨hstaged, htraffic', isExecutable, hfile⟩
    have hname : cacheName url ++ ".wasm" ≠ "temp" := Artefact.module_ne_temp url
    refine hstaged.attains_rename hname hplain hdraft (hstaged.origin.free hname hplain habsent)
      fun node _ => ?_
    exact .module rfl husable (by rw [Files.Tree.under_nil, hfile]) hmodule
      (htraffic'.trans htraffic ▸ hdelivered)
  · exact .bind (.throw hlater)

/-- An archive is downloaded and unpacked as a draft. What comes of it depends on what comes of the
draft. -/
theorem attains_downloadArchive_of {result : Unit → Host → Prop}
    (hrename : ∀ base staged, loader.Staged base before staged →
      (∀ node, staged.files.node? (base ++ ["temp"] ++ [cacheName url]) = some node →
        loader.Whole staged.traffic before.traffic.sent.length (cacheName url)
          (staged.files.under (base ++ ["temp"] ++ [cacheName url]))) →
      Attains (Program.onFiles (.rename (loader.archiveDraft (cacheName url))
        (loader.archivePath (cacheName url)))) staged (loader.Follows (cacheName url) before)
        result) :
    Attains (loader.downloadArchive (cacheName url) url) host
      (loader.Follows (cacheName url) before) result := by
  unfold downloadArchive
  refine .bind (.onLoading ⟨hgrows, .inl hfiles⟩ fun answer later goes => ?_)
  obtain ⟨hgrows', hfiles', hdelivered⟩ := goes.download
  refine ⟨⟨hgrows.trans hgrows', .inl (hfiles'.trans hfiles)⟩, fun body hbody => ?_⟩
  have hdelivered := (hdelivered body hbody).grows (.refl _) hgrows.sent.length_le
  refine .bind ((attains_makeDirectories h (hfiles'.trans hfiles) (hgrows.trans hgrows')).mono ?_)
  rintro - made - ⟨htraffic, base, hstaged⟩
  have hplain := isPlain_of_isUsableName husable
  rw [← htraffic] at hdelivered
  refine .bind (.onFiles hstaged.follows fun answer later goes => ?_)
  obtain ⟨rfl, rfl⟩ := goes.isPresent
  refine ⟨hstaged.follows, fun present hpresent => ?_⟩
  obtain ⟨hentry, hsome⟩ :=
    hstaged.isAt.entryOf_of_isPresent hplain (hstaged.sound.drafts _) hpresent
  dsimp only
  split
  · refine .bind ((hstaged.attains_remove hplain).mono ?_)
    rintro - removed - ⟨hstaged, htraffic', hvacant⟩
    exact .bind ((hstaged.attains_unpack husable hentry hvacant (htraffic' ▸ hdelivered)).mono
      fun _ unpacked _ ⟨hstaged, hwhole⟩ => hrename base unpacked hstaged hwhole)
  · next hpresent =>
    have hvacant := hstaged.sound.freeDrafts (cacheName url) (by simpa [hpresent] using hsome)
    exact .bind ((hstaged.attains_unpack husable hentry hvacant hdelivered).mono
      fun _ unpacked _ ⟨hstaged, hwhole⟩ => hrename base unpacked hstaged hwhole)

/-- An archive is downloaded into its empty place. -/
theorem attains_downloadArchive (hname : cacheName url ≠ "temp")
    (habsent : before.files.isPresent (loader.archivePath (cacheName url)) = .ok false) :
    Attains (loader.downloadArchive (cacheName url) url) host
      (loader.Follows (cacheName url) before)
      fun _ later => loader.Holds (cacheName url) later.files ∧
        loader.Holds "temp" later.files :=
  have hplain := isPlain_of_isUsableName husable
  attains_downloadArchive_of h hfiles hgrows husable fun _ _ hstaged hwhole =>
    hstaged.attains_rename hname hplain hplain (hstaged.origin.free hname hplain habsent) hwhole

/-- An archive is never put in place of the staging directory. -/
theorem attains_downloadArchive_staging (hname : cacheName url = "temp") :
    Attains (loader.downloadArchive (cacheName url) url) host
      (loader.Follows (cacheName url) before) fun _ _ => False := by
  refine attains_downloadArchive_of h hfiles hgrows husable fun base staged hstaged _ => ?_
  have hpath : loader.archivePath (cacheName url) = loader.stagingDirectory := by
    rw [hname]
    rfl
  rw [hpath]
  exact hstaged.attains_rename_staging (isPlain_of_isUsableName husable)

end Download

/-- What comes of a fetch, whether or not it gets to its end: the place had something already, or
there was a download. -/
theorem attains_fetch_of {artefact : Artefact} (result : Files.Tree → Http.Traffic → Prop)
    (hhit : isUsableName (cacheName artefact.url) = true →
      host.files.isPresent (join loader.cacheDirectory artefact.entry) = .ok true →
        result host.files host.traffic)
    (hdownload : isUsableName (cacheName artefact.url) = true →
      host.files.isPresent (join loader.cacheDirectory artefact.entry) = .ok false → ∀ log,
        Attains (artefact.download loader) { host with log := log }
          (loader.Follows artefact.entry host) fun _ later => result later.files later.traffic) :
    Attains (artefact.fetch loader) host (loader.Follows artefact.entry host)
      fun path later => path = join loader.cacheDirectory artefact.entry ∧
        result later.files later.traffic := by
  have hstart := Follows.refl loader artefact.entry host
  cases artefact with
  | module url =>
    refine .bind (.check hstart fun _ hchecked => ?_)
    have husable := isUsableName_of_checkName hchecked
    refine .bind (.onFiles hstart fun answer later goes => ?_)
    obtain ⟨rfl, rfl⟩ := goes.isPresent
    refine ⟨hstart, fun present hpresent => ?_⟩
    dsimp only
    split
    · next hthere =>
      subst hthere
      exact .bind (.say hstart fun log =>
        ⟨hstart.log log, .pure (hstart.log log) ⟨rfl, hhit husable hpresent⟩⟩)
    · next habsent =>
      rw [Bool.not_eq_true] at habsent
      refine .bind (.say hstart fun log => ⟨hstart.log log, .bind ?_⟩)
      refine (hdownload husable (habsent ▸ hpresent) log).mono fun _ later hlater hresult => ?_
      exact .bind (.say hlater fun log =>
        ⟨hlater.log log, .pure (hlater.log log) ⟨rfl, hresult⟩⟩)
  | archive url =>
    refine .bind (.check hstart fun _ hchecked => ?_)
    have husable := isUsableName_of_checkName hchecked
    refine .bind (.onFiles hstart fun answer later goes => ?_)
    obtain ⟨rfl, rfl⟩ := goes.isPresent
    refine ⟨hstart, fun present hpresent => ?_⟩
    dsimp only
    split
    · next hthere =>
      subst hthere
      exact .bind (.say hstart fun log =>
        ⟨hstart.log log, .pure (hstart.log log) ⟨rfl, hhit husable hpresent⟩⟩)
    · next habsent =>
      rw [Bool.not_eq_true] at habsent
      split
      · refine .bind (.say hstart fun log => ⟨hstart.log log, .bind ?_⟩)
        refine (hdownload husable (habsent ▸ hpresent) log).mono fun _ later hlater hresult => ?_
        exact .bind (.say hlater fun log =>
          ⟨hlater.log log, .pure (hlater.log log) ⟨rfl, hresult⟩⟩)
      · exact .bind (.throw hstart)

/-- An entry is downloaded into its empty place. -/
theorem attains_download (h : loader.IsIntact host) {artefact : Artefact}
    (hname : artefact.entry ≠ "temp") (husable : isUsableName (cacheName artefact.url) = true)
    (habsent : host.files.isPresent (join loader.cacheDirectory artefact.entry) = .ok false)
    (log : Log) :
    Attains (artefact.download loader) { host with log := log }
      (loader.Follows artefact.entry host)
      fun _ later => loader.Holds artefact.entry later.files ∧ loader.Holds "temp" later.files := by
  cases artefact with
  | module url => exact attains_downloadModule h rfl (.refl _) husable habsent
  | archive url => exact attains_downloadArchive h rfl (.refl _) husable hname habsent

/-- What comes of a fetch of an entry. If it gets to its end, the place has something. -/
theorem attains_fetch (h : loader.IsIntact host) {artefact : Artefact}
    (hname : artefact.entry ≠ "temp") :
    Attains (artefact.fetch loader) host (loader.Follows artefact.entry host)
      fun path later => path = join loader.cacheDirectory artefact.entry ∧
        loader.Holds artefact.entry later.files :=
  attains_fetch_of (fun files _ => loader.Holds artefact.entry files)
    (fun husable hpresent => h.holds (artefact.isPlain_entry husable) hpresent)
    fun husable habsent log => (attains_download h hname husable habsent log).mono
      fun _ _ _ hholds => hholds.1

/-- What comes of a fetch of an archive whose place is that of the staging directory. It gets to its
end only if that directory is there, and then nothing was done. -/
theorem attains_fetch_staging (h : loader.IsIntact host) {artefact : Artefact}
    (hname : artefact.entry = "temp") :
    Attains (artefact.fetch loader) host (loader.Follows artefact.entry host)
      fun path later => path = loader.stagingDirectory ∧
        later.files = host.files ∧ later.traffic = host.traffic ∧
          host.files.isPresent loader.stagingDirectory = .ok true := by
  have hplace : join loader.cacheDirectory artefact.entry = loader.stagingDirectory := by
    rw [hname]
    rfl
  rw [← hplace]
  refine attains_fetch_of
    (fun files traffic => files = host.files ∧ traffic = host.traffic ∧
      host.files.isPresent (join loader.cacheDirectory artefact.entry) = .ok true)
    (fun _ hpresent => ⟨rfl, rfl, hpresent⟩) fun husable _ log => ?_
  cases artefact with
  | module url => exact absurd hname (Artefact.module_ne_temp url)
  | archive url =>
    have hdownload : Attains (loader.downloadArchive (cacheName url) url)
        { host with log := log } (loader.Follows (cacheName url) host) fun _ _ => False :=
      attains_downloadArchive_staging h rfl (.refl _) husable hname
    exact hdownload.mono fun _ _ _ hfalse => hfalse.elim

/-! ### What has its place -/

variable (loader) in
/-- A fetch looks at the place first; if something is there, it logs that and returns the place. -/
theorem fetch_eq {artefact : Artefact} (husable : isUsableName (cacheName artefact.url) = true) :
    ∃ next event,
      artefact.fetch loader =
        Program.act (.isPresent (join loader.cacheDirectory artefact.entry)) next ∧
      next (.ok true) = Program.act (.log event) fun _ =>
        .done (.ok (join loader.cacheDirectory artefact.entry)) := by
  have hcheck : checkName (cacheName artefact.url) artefact.url = .ok () := by
    rw [checkName, if_pos husable]
  cases artefact with
  | module url =>
    rw [Artefact.url] at hcheck
    dsimp only [Artefact.fetch]
    unfold fetchModule
    rw [hcheck]
    exact ⟨_, _, rfl, rfl⟩
  | archive url =>
    rw [Artefact.url] at hcheck
    dsimp only [Artefact.fetch]
    unfold fetchArchive
    rw [hcheck]
    exact ⟨_, _, rfl, rfl⟩

section Present

variable {artefact : Artefact} (husable : isUsableName (cacheName artefact.url) = true)
  (hpresent : host.files.isPresent (join loader.cacheDirectory artefact.entry) = .ok true)

include husable hpresent

/-- A fetch of what has its place does nothing but log, and returns the place unless it is
interrupted. -/
theorem runs_present {outcome : Option (Except LoadError String)}
    (h : Program.Runs (artefact.fetch loader) host outcome later) :
    later.files = host.files ∧ later.traffic = host.traffic ∧
      (outcome = none ∨ outcome = some (.ok (join loader.cacheDirectory artefact.entry))) := by
  obtain ⟨next, event, hfetch, hnext⟩ := fetch_eq loader husable
  rw [hfetch] at h
  cases h with
  | stopped => exact ⟨rfl, rfl, .inl rfl⟩
  | act goes rest =>
    obtain ⟨rfl, rfl⟩ := goes.isPresent
    rw [hpresent, hnext] at rest
    cases rest with
    | stopped => exact ⟨rfl, rfl, .inl rfl⟩
    | act goes rest =>
      obtain ⟨-, heq⟩ | hfails := goes
      · cases heq
        cases rest with
        | stopped => exact ⟨rfl, rfl, .inl rfl⟩
        | done => exact ⟨rfl, rfl, .inr rfl⟩
      · exact hfails.elim

/-- Without interruption, the place is returned. -/
theorem performed_present : ∃ log, performed (artefact.fetch loader) host =
    (.ok (join loader.cacheDirectory artefact.entry), { host with log := log }) := by
  obtain ⟨next, event, hfetch, hnext⟩ := fetch_eq loader husable
  have hlook : (Action.isPresent (join loader.cacheDirectory artefact.entry)).perform.run host =
      (.ok true, host) := congrArg (·, host) hpresent
  refine ⟨host.log ++ [event], ?_⟩
  rw [performed, hfetch, Program.perform_act hlook, hnext]
  rfl

/-- This is one of the things that may come of it. -/
theorem runs_of_present : ∃ log, Program.Runs (artefact.fetch loader) host
    (some (.ok (join loader.cacheDirectory artefact.entry))) { host with log := log } := by
  obtain ⟨next, event, hfetch, hnext⟩ := fetch_eq loader husable
  have hlook : (Action.isPresent (join loader.cacheDirectory artefact.entry)).perform.run host =
      (.ok true, host) := congrArg (·, host) hpresent
  refine ⟨host.log ++ [event], ?_⟩
  rw [hfetch]
  refine .act (.inl ⟨trivial, hlook⟩) ?_
  rw [hnext]
  exact .act (.inl ⟨trivial, rfl⟩) (.done _ _)

end Present

end Loader

end Sandbox.Fetch
