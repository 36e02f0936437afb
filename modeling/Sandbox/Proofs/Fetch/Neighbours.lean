import Sandbox.Proofs.Fetch.Confining

/-!
# Fetches leave other entries alone

In a cache without symbolic links, a fetch changes nothing but the staging directory and its own
entry, whatever comes of it and whatever the other entries are. So what has a place there keeps it
while other things are fetched.

## Main definitions

* `Leaves` : what holds of the files after a program that is performed, and of its result.
* `Loader.IsNeat` : a cache without symbolic links once its directory is made.
* `Loader.Spares` : what a fetch leaves of a cache.

## Main results

* `Loader.leaves_fetch` : a fetch spares other entries.
* `Loader.Spares.isPresent` : what has a place keeps it.
-/

namespace Sandbox.Fetch

open Sandbox.Path (join)
open Files (IsPlain Tree)

variable {α β : Type} {files later : Tree} {always : Tree → Prop} {result : α → Tree → Prop}

/-! ### The files after a program -/

/-- What holds of the files after a program that is performed, and what holds of its result if it
succeeds. -/
def Leaves (loading : ExceptT LoadError Program α) (files : Tree) (always : Tree → Prop)
    (result : α → Tree → Prop) : Prop :=
  ∀ host : Host, host.files = files → always (performed loading host).2.files ∧
    ∀ answer, (performed loading host).1 = .ok answer →
      result answer (performed loading host).2.files

namespace Leaves

theorem pure {answer : α} (halways : always files) (hresult : result answer files) :
    Leaves (Pure.pure answer) files always result := by
  rintro host rfl
  exact ⟨halways, fun _ heq => by cases heq; exact hresult⟩

theorem throw {e : LoadError} (halways : always files) :
    Leaves (MonadExcept.throw e) files always result := by
  rintro host rfl
  exact ⟨halways, fun _ heq => nomatch heq⟩

/-- A check that looks at nothing. -/
theorem check {checked : Except LoadError α} (halways : always files)
    (hresult : ∀ answer, checked = .ok answer → result answer files) :
    Leaves (ExceptT.mk (Pure.pure checked)) files always result := by
  rintro host rfl
  exact ⟨halways, hresult⟩

/-- A program and what follows for its result. -/
theorem bind {first : ExceptT LoadError Program β} {next : β → ExceptT LoadError Program α}
    (h : Leaves first files always fun answer later => Leaves (next answer) later always result) :
    Leaves (first >>= next) files always result := by
  rintro host hfiles
  have hfirst := h host hfiles
  rw [performed_bind]
  generalize performed first host = ended at hfirst
  obtain ⟨halways, hnext⟩ := hfirst
  obtain ⟨e | answer, middle⟩ := ended
  · exact ⟨halways, fun _ heq => nomatch heq⟩
  · exact hnext answer rfl middle rfl

/-- What holds of any result of what comes last. -/
theorem last {first : ExceptT LoadError Program β} {next : β → ExceptT LoadError Program α}
    (h : ∀ answer later, Leaves (next answer) later (fun _ => True) result) :
    Leaves (first >>= next) files (fun _ => True) result :=
  .bind fun _ _ => ⟨trivial, fun answer _ => h answer _⟩

/-- An event that is logged. -/
theorem say {level : Log.Level} {target message : String} {result : Unit → Tree → Prop}
    (halways : always files) (hresult : result () files) :
    Leaves (Program.say level target message) files always result := by
  rintro host rfl
  exact ⟨halways, fun _ _ => hresult⟩

/-- A look whether something is there. -/
theorem isPresent {path : String} {result : Bool → Tree → Prop} (halways : always files)
    (hresult : ∀ present, files.isPresent path = .ok present → result present files) :
    Leaves (Program.onFiles (.isPresent path)) files always result := by
  rintro host rfl
  cases hpresent : host.files.isPresent path with
  | error e =>
    rw [performed_isPresent_error hpresent]
    exact ⟨halways, fun _ heq => nomatch heq⟩
  | ok present =>
    rw [performed_isPresent hpresent]
    exact ⟨halways, fun _ heq => by cases heq; exact hresult present hpresent⟩

/-- A download changes no file. -/
theorem download {client : Http.Client} {url : String} {result : Files.Content → Tree → Prop}
    (halways : always files) (hresult : ∀ body, result body files) :
    Leaves (Program.onLoading (.download client url)) files always result := by
  rintro host rfl
  rw [performed_download host (rfl : (client.download url).run host.traffic = (_, _))]
  exact ⟨halways, fun body _ => hresult body⟩

/-- An action that changes files, or fails and changes nothing. -/
theorem edit {action : Action (Except FileError Unit)} {result : Unit → Tree → Prop}
    (change : Tree → Except FileError Tree) (h : action.perform = Host.edit change)
    (halways : always files)
    (hresult : ∀ changed, change files = .ok changed → always changed ∧ result () changed) :
    Leaves (Program.onFiles action) files always result := by
  rintro host rfl
  rw [performed_edit change h]
  cases hchange : change host.files with
  | error e => exact ⟨halways, fun _ heq => nomatch heq⟩
  | ok changed => exact ⟨(hresult changed hchange).1, fun _ _ => (hresult changed hchange).2⟩

/-- An archive is unpacked, at least in part. -/
theorem unpack {archive : Files.Content} {directory : String} {result : Unit → Tree → Prop}
    (h : always (Files.unpack archive directory files).2 ∧
      result () (Files.unpack archive directory files).2) :
    Leaves (Program.onLoading (.unpack archive directory)) files always result := by
  rintro host rfl
  exact ⟨h.1, fun _ _ => h.2⟩

/-- More may be known of the result than is asked. -/
theorem mono {loading : ExceptT LoadError Program α} {result' : α → Tree → Prop}
    (h : Leaves loading files always result)
    (hresult : ∀ answer later, always later → result answer later → result' answer later) :
    Leaves loading files always result' := fun host hfiles =>
  have ⟨halways, hanswer⟩ := h host hfiles
  ⟨halways, fun answer heq => hresult answer _ halways (hanswer answer heq)⟩

end Leaves

namespace Loader

variable {loader : Loader} {base : Files.Location} {made tree changed : Tree}
  {entry draft name url : String}

/-! ### Caches without symbolic links -/

variable (loader) in
/-- The cache has no symbolic link among its entries and drafts once its directory is made. -/
structure IsNeat (files : Tree) : Prop where
  /-- Relative paths begin at a location. -/
  here : files.here.IsProper
  /-- There are no symbolic links. -/
  neat : ∀ made, files.makeDirectories loader.cacheDirectory = .ok made →
    ∃ base, loader.IsNeatAt base made

theorem IsNeatAt.isNeat (h : loader.IsNeatAt base tree) (hhere : tree.here.IsProper) :
    loader.IsNeat tree where
  here := hhere
  neat made hmade := by
    rw [h.home.isAt.makeDirectories hmade]
    exact ⟨base, h⟩

/-- Caches that hold only what was fetched are neat. -/
theorem IsIntact.isNeat {host : Host} (h : loader.IsIntact host)
    (hhere : host.files.here.IsProper) : loader.IsNeat host.files where
  here := hhere
  neat made hmade := by
    obtain ⟨base, -, hsound, -⟩ := h.makeDirectories hmade
    exact ⟨base, hsound.isNeatAt⟩

variable (loader) in
/-- The directories of the cache are there, and nothing but the staging directory has changed since
the first of them was. -/
structure Drafting (base : Files.Location) (made tree : Tree) : Prop where
  /-- There are no symbolic links. -/
  neat : loader.IsNeatAt base tree
  /-- The staging directory is there. -/
  staging : tree.node? (base ++ ["temp"]) = some .directory
  /-- Nothing else has changed. -/
  same : made.SameBut (base ++ ["temp"]) tree

variable (loader) in
/-- What a fetch of an entry leaves: the cache as it was when its directory was there, but for the
staging directory and the entry. If the entry has a place, nothing changes. -/
inductive Spares (entry : String) (files : Tree) : Tree → Prop
  /-- Nothing has changed. -/
  | unchanged : Spares entry files files
  /-- Something may have been downloaded. -/
  | changed {base : Files.Location} {made later : Tree}
      (isAbsent : files.isPresent (join loader.cacheDirectory entry) = .ok false)
      (makes : files.makeDirectories loader.cacheDirectory = .ok made)
      (isNeat_made : loader.IsNeatAt base made) (isNeat : loader.IsNeatAt base later)
      (here : later.here = made.here)
      (staging : (made.node? (base ++ ["temp"])).isSome → (later.node? (base ++ ["temp"])).isSome)
      (entries : ∀ name, name ≠ "temp" → name ≠ entry →
        later.under (base ++ [name]) = made.under (base ++ [name])) : Spares entry files later

theorem Spares.here (h : loader.Spares entry files later) : later.here = files.here := by
  cases h with
  | unchanged => rfl
  | changed _ makes _ _ here => exact here.trans (Tree.makeDirectories_extends makes).here

theorem Spares.isNeat (h : loader.Spares entry files later) (hneat : loader.IsNeat files) :
    loader.IsNeat later := by
  have hhere : later.here.IsProper := h.here ▸ hneat.here
  cases h with
  | unchanged => exact hneat
  | changed _ _ _ isNeat => exact isNeat.isNeat hhere

/-- What has a place keeps it. -/
theorem Spares.isPresent (h : loader.Spares entry files later) (hname : IsPlain name)
    (hpresent : files.isPresent (join loader.cacheDirectory name) = .ok true) :
    later.isPresent (join loader.cacheDirectory name) = .ok true := by
  cases h with
  | unchanged => exact hpresent
  | @changed base made later isAbsent makes isNeat_made isNeat here staging entries =>
    obtain ⟨other, hat⟩ : ∃ other, files.IsAt loader.cacheDirectory other := by
      unfold Tree.isPresent at hpresent
      split at hpresent
      · next hfind => exact Tree.isAt_of_locate_join hname (Tree.find_eq_ok hfind).1
      · cases hpresent
      · cases hpresent
    obtain rfl := hat.makeDirectories makes
    obtain ⟨hentry, hsome⟩ :=
      isNeat_made.home.isAt.entryOf_of_isPresent hname (isNeat_made.links name) hpresent
    have hne : name ≠ entry := by
      rintro rfl
      cases hpresent.symm.trans isAbsent
    have hsome : (later.node? (base ++ [name])).isSome := by
      by_cases htemp : name = "temp"
      · subst htemp
        exact staging hsome
      · rwa [Tree.under_inj (entries name htemp hne)]
    rw [isNeat.home.isAt.isPresent_join hname (isNeat.links name), hentry]
    exact congrArg Except.ok hsome

/-! ### Drafts -/

/-- As long as there are only drafts, a fetch may fail. -/
theorem Drafting.spares (h : loader.Drafting base made tree)
    (habsent : files.isPresent (join loader.cacheDirectory entry) = .ok false)
    (hmade : files.makeDirectories loader.cacheDirectory = .ok made)
    (hneat : loader.IsNeatAt base made) : loader.Spares entry files tree :=
  .changed habsent hmade hneat h.neat h.same.here (fun _ => by rw [h.staging]; rfl)
    fun _ hname _ => h.same.under hname

/-- The staging directory is found by its path. -/
theorem Drafting.isAt (h : loader.Drafting base made tree) :
    tree.IsAt loader.stagingDirectory (base ++ ["temp"]) :=
  h.neat.home.isAt.inner isPlain_temp (by decide) h.staging

/-- A draft comes or goes. -/
theorem Drafting.redraft (h : loader.Drafting base made tree)
    (hsame : tree.SameBut (base ++ ["temp"] ++ [name]) changed)
    (hlink : ∀ target, changed.node? (base ++ ["temp"] ++ [name]) ≠ some (.link target))
    (hfree : changed.node? (base ++ ["temp"] ++ [name]) = none →
      changed.IsFree (base ++ ["temp"] ++ [name])) : loader.Drafting base made changed := by
  obtain ⟨hneat, hstaging⟩ := h.neat.redraft h.staging hsame hlink hfree
  exact ⟨hneat, hstaging, hsame.here.trans h.same.here, fun other hother =>
    (hsame.up.elsewhere other hother).trans (h.same.elsewhere other hother)⟩

/-- A draft is removed or unpacked, at least in part. -/
theorem Drafting.disturb (h : loader.Drafting base made tree)
    (hdisturbs : tree.Disturbs (base ++ ["temp"] ++ [name]) changed) :
    loader.Drafting base made changed :=
  h.redraft hdisturbs.toSameBut hdisturbs.not_link hdisturbs.isFree

/-! ### Downloads -/

/-- A draft becomes the entry, unless that is the staging directory. -/
theorem leaves_rename (habsent : files.isPresent (join loader.cacheDirectory entry) = .ok false)
    (hmade : files.makeDirectories loader.cacheDirectory = .ok made)
    (hneatAt : loader.IsNeatAt base made) (h : loader.Drafting base made tree)
    (hdraft : IsPlain draft) (hentry : IsPlain entry) :
    Leaves (Program.onFiles (.rename (join loader.stagingDirectory draft)
      (join loader.cacheDirectory entry))) tree (loader.Spares entry files) fun _ _ => True := by
  refine .edit (·.rename _ _) rfl (h.spares habsent hmade hneatAt) fun changed hrename => ?_
  refine ⟨?_, trivial⟩
  by_cases htemp : entry = "temp"
  · subst htemp
    exact absurd hrename (h.isAt.rename_onto_directory hdraft h.neat.home.isAt isPlain_temp rfl)
  · have hne : base ++ [entry] ≠ base ++ ["temp"] ++ [draft] := fun heq => by
      have := congrArg List.length heq
      simp at this
    obtain rfl := h.isAt.eq_move_of_rename_join hdraft h.neat.home.isAt hentry hne hrename
    have hraised := tree.raised_move base draft htemp
    exact .changed habsent hmade hneatAt (h.neat.publish h.staging hraised)
      (hraised.here.trans h.same.here) (fun _ => by rw [hraised.inner, h.staging]; rfl)
      fun name hname hother => (hraised.entries name hname hother).trans (h.same.under hname)

section Download

variable (hneat : loader.IsNeat files)

include hneat

/-- The directories of the cache are made, or are there. -/
theorem leaves_makeDirectories
    (habsent : files.isPresent (join loader.cacheDirectory entry) = .ok false) :
    Leaves loader.makeDirectories files (loader.Spares entry files) fun _ tree =>
      ∃ base made, files.makeDirectories loader.cacheDirectory = .ok made ∧
        loader.IsNeatAt base made ∧ loader.Drafting base made tree := by
  refine .bind (.edit (·.makeDirectories loader.cacheDirectory) rfl .unchanged
    fun made hmade => ?_)
  obtain ⟨base, hneatAt⟩ := hneat.neat made hmade
  have hspares : loader.Spares entry files made :=
    .changed habsent hmade hneatAt hneatAt rfl id fun _ _ _ => rfl
  refine ⟨hspares, .edit (·.makeDirectories loader.stagingDirectory) rfl hspares
    fun tree hstaged => ?_⟩
  have hdrafting : loader.Drafting base made tree := by
    obtain ⟨-, ⟨hnone, rfl⟩ | ⟨hdirectory, rfl⟩⟩ :=
      hneatAt.home.isAt.of_makeDirectories_join isPlain_temp (hneatAt.links "temp") hstaged
    · exact ⟨hneatAt.makeStaging hnone, by rw [Tree.node?_put _ _ _ _ (by simp), if_pos rfl],
        Tree.sameBut_put (by simp) _⟩
    · exact ⟨hneatAt, hdirectory, rfl, fun _ _ => rfl⟩
  exact ⟨hdrafting.spares habsent hmade hneatAt, base, made, hmade, hneatAt, hdrafting⟩

/-- A module is downloaded. -/
theorem leaves_downloadModule
    (habsent : files.isPresent (loader.modulePath (cacheName url)) = .ok false) :
    Leaves (loader.downloadModule (cacheName url) url) files
      (loader.Spares (Artefact.module url).entry files) fun _ _ => True := by
  have hentry := isPlain_append url ".wasm" (by decide) (by decide)
  have hdraft := isPlain_append url ".wasm.tmp" (by decide) (by decide)
  refine .bind (.download .unchanged fun body => ?_)
  dsimp only
  split
  · refine .bind ((leaves_makeDirectories hneat habsent).mono ?_)
    rintro - staged - ⟨base, made, hmade, hneatAt, hdrafting⟩
    refine .bind (.edit (·.write _ body) rfl (hdrafting.spares habsent hmade hneatAt)
      fun written hwritten => ?_)
    obtain ⟨isExecutable, rfl⟩ :=
      hdrafting.isAt.of_write_join hdraft (hdrafting.neat.drafts _) hwritten
    have hput := fun other => staged.node?_put
      (base ++ ["temp"] ++ [cacheName url ++ ".wasm.tmp"]) other (.file body isExecutable) (by simp)
    have hdrafting := hdrafting.redraft (Tree.sameBut_put (by simp) _)
      (fun target => by rw [hput, if_pos rfl]; simp)
      (fun hnone => by rw [hput, if_pos rfl] at hnone; cases hnone)
    exact ⟨hdrafting.spares habsent hmade hneatAt,
      leaves_rename habsent hmade hneatAt hdrafting hdraft hentry⟩
  · exact .bind (.throw .unchanged)

/-- An archive is downloaded and unpacked. -/
theorem leaves_downloadArchive (husable : isUsableName (cacheName url) = true)
    (habsent : files.isPresent (loader.archivePath (cacheName url)) = .ok false) :
    Leaves (loader.downloadArchive (cacheName url) url) files
      (loader.Spares (cacheName url) files) fun _ _ => True := by
  have hplain := isPlain_of_isUsableName husable
  refine .bind (.download .unchanged fun body => ?_)
  refine .bind ((leaves_makeDirectories hneat habsent).mono ?_)
  rintro - staged - ⟨base, made, hmade, hneatAt, hdrafting⟩
  -- what is unpacked where nothing is becomes the entry
  have hunpack : ∀ tree, loader.Drafting base made tree →
      tree.IsFree (base ++ ["temp"] ++ [cacheName url]) →
        Leaves (do
          Program.onLoading (.unpack body (loader.archiveDraft (cacheName url)))
          Program.onFiles (.rename (loader.archiveDraft (cacheName url))
            (loader.archivePath (cacheName url)))) tree (loader.Spares (cacheName url) files)
          fun _ _ => True := by
    intro tree hdrafting hfree
    have hhere : tree.here.IsProper := by
      rw [hdrafting.same.here, (Tree.makeDirectories_extends hmade).here]
      exact hneat.here
    have hdisturbs : tree.Disturbs _
        (Files.unpack body (loader.archiveDraft (cacheName url)) tree).2 :=
      Files.unpack_disturbs hhere hdrafting.isAt hplain hfree
    have hunpacked := hdrafting.disturb hdisturbs
    exact .bind (.unpack ⟨hunpacked.spares habsent hmade hneatAt,
      leaves_rename habsent hmade hneatAt hunpacked hplain hplain⟩)
  refine .bind (.isPresent (hdrafting.spares habsent hmade hneatAt) fun present hpresent => ?_)
  obtain ⟨-, hsome⟩ :=
    hdrafting.isAt.entryOf_of_isPresent hplain (hdrafting.neat.drafts _) hpresent
  dsimp only
  split
  · refine .bind (.edit (·.removeTree _) rfl (hdrafting.spares habsent hmade hneatAt)
      fun removed hremoved => ?_)
    obtain rfl := hdrafting.isAt.of_removeTree_join hplain hremoved
    have hfree := staged.isFree_remove (show base ++ ["temp"] ++ [cacheName url] ≠ [] by simp)
    have hdrafting := hdrafting.disturb ⟨staged.sameBut_remove _, .inr hfree⟩
    exact ⟨hdrafting.spares habsent hmade hneatAt, hunpack _ hdrafting hfree⟩
  · next habsent' =>
    exact hunpack staged hdrafting (hdrafting.neat.freeDrafts _ (by simpa [habsent'] using hsome))

end Download

/-- A fetch spares all other entries, and its own if it is there. -/
theorem leaves_fetch (hneat : loader.IsNeat files) (artefact : Artefact) :
    Leaves (artefact.fetch loader) files (loader.Spares artefact.entry files) fun _ _ => True := by
  cases artefact with
  | module url =>
    refine .bind (.check .unchanged fun _ _ => ?_)
    refine .bind (.isPresent .unchanged fun present hpresent => ?_)
    dsimp only
    split
    · exact .bind (.say .unchanged (.pure .unchanged trivial))
    · next habsent =>
      rw [Bool.not_eq_true] at habsent
      subst habsent
      refine .bind (.say .unchanged (.bind ((leaves_downloadModule hneat hpresent).mono ?_)))
      exact fun _ later hspares _ => .bind (.say hspares (.pure hspares trivial))
  | archive url =>
    refine .bind (.check .unchanged fun _ hchecked => ?_)
    have husable := isUsableName_of_checkName hchecked
    refine .bind (.isPresent .unchanged fun present hpresent => ?_)
    dsimp only
    split
    · exact .bind (.say .unchanged (.pure .unchanged trivial))
    · next habsent =>
      rw [Bool.not_eq_true] at habsent
      subst habsent
      split
      · refine .bind (.say .unchanged
          (.bind ((leaves_downloadArchive hneat husable hpresent).mono ?_)))
        exact fun _ later hspares _ => .bind (.say hspares (.pure hspares trivial))
      · exact .bind (.throw .unchanged)

end Loader

end Sandbox.Fetch
