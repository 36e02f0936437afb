import Sandbox.Proofs.Fetch.Succeeding
import Sandbox.Proofs.Files.Unpacking

/-!
# Fetches unpack only where they should

An archive is unpacked as a draft, and only after what was there is gone. So unpacking changes
nothing else, whatever is in the archive: a fetch that is performed is one of those that may come of
it when unpacking is taken to be confined.

## Main results

* `Loader.IsIntact.isConfined_fetch` : a fetch changes only what it should.
* `Loader.IsIntact.runs_fetch` : a fetch that is performed is one that may come.
-/

namespace Sandbox.Fetch

open Sandbox.Path (join)
open Files (IsPlain)

variable {α : Type} {loader : Loader} {before host later : Host} {base : Files.Location}
  {url : String} {content : Files.Content}

/-! ### What came of an action -/

theorem of_runs_check {checked : Except LoadError α} {answer : α}
    (h : Program.Runs (ExceptT.mk (pure checked) : ExceptT LoadError Program α) host
      (some (.ok answer)) later) : checked = .ok answer ∧ later = host := by
  cases h
  exact ⟨rfl, rfl⟩

theorem of_runs_say {level : Log.Level} {target message : String}
    (h : Program.Runs (Program.say level target message) host (some (.ok ())) later) :
    ∃ log, later = { host with log := log } := by
  cases h with
  | act goes rest =>
    cases rest
    obtain ⟨-, heq⟩ | hfails := goes
    · cases heq
      exact ⟨_, rfl⟩
    · exact hfails.elim

theorem goes_of_runs_onFiles {action : Action (Except FileError α)} {answer : α}
    (h : Program.Runs (Program.onFiles action) host (some (.ok answer)) later) :
    action.Goes host (.ok answer) later := by
  cases h with
  | @act _ _ _ _ _ _ found _ goes rest =>
    cases found <;> cases rest
    exact goes

theorem goes_of_runs_onLoading {action : Action (Except LoadError α)} {answer : α}
    (h : Program.Runs (Program.onLoading action) host (some (.ok answer)) later) :
    action.Goes host (.ok answer) later := by
  cases h with
  | act goes rest =>
    cases rest
    exact goes

namespace Loader

/-! ### Drafts -/

/-- A draft is unpacked where nothing is, and becomes an entry. -/
theorem Staged.isConfined_unpack (h : loader.Staged base before host)
    (hhere : before.files.here.IsProper) (husable : isUsableName (cacheName url) = true)
    (hvacant : host.files.IsFree (base ++ ["temp"] ++ [cacheName url])) :
    Program.IsConfined (do
      Program.onLoading (.unpack content (loader.archiveDraft (cacheName url)))
      Program.onFiles (.rename (loader.archiveDraft (cacheName url))
        (loader.archivePath (cacheName url))) : ExceptT LoadError Program Unit) host := by
  have hname := isPlain_of_isUsableName husable
  have hnone : host.files.node? (base ++ ["temp"] ++ [cacheName url]) = none := by
    simpa using hvacant []
  refine isConfined_bind ⟨fun location hlocation => ?_, trivial⟩ fun _ _ =>
    isConfined_onFiles trivial
  change host.files.locate true (join loader.stagingDirectory (cacheName url)) = _ at hlocation
  rw [h.isAt.locate_join hname fun _ target => by rw [hnone]; simp] at hlocation
  obtain rfl := Files.eq_of_entryOf hlocation
  exact Files.unpack_disturbs (h.here ▸ hhere) h.isAt hname hvacant

/-- An archive is downloaded and put into its place. -/
theorem isConfined_downloadArchive (h : loader.IsIntact before)
    (hhere : before.files.here.IsProper) (hfiles : host.files = before.files)
    (hgrows : before.traffic.Grows host.traffic)
    (husable : isUsableName (cacheName url) = true) :
    Program.IsConfined (loader.downloadArchive (cacheName url) url) host := by
  unfold downloadArchive
  refine isConfined_bind_of ⟨trivial, trivial⟩ fun content downloaded hruns => ?_
  obtain ⟨hgrows', hfiles', -⟩ := (goes_of_runs_onLoading hruns).download
  refine isConfined_bind_of (loader.isConfined_makeDirectories downloaded) fun _ made hruns => ?_
  have hattains : Attains loader.makeDirectories downloaded (loader.Follows (cacheName url) before)
    _ := attains_makeDirectories h (hfiles'.trans hfiles) (hgrows.trans hgrows')
  obtain ⟨-, base, hstaged⟩ := (hattains _ _ hruns).2 _ rfl
  have hname := isPlain_of_isUsableName husable
  refine isConfined_bind_of (isConfined_onFiles trivial) fun present later hruns => ?_
  obtain ⟨hpresent, rfl⟩ := (goes_of_runs_onFiles hruns).isPresent
  obtain ⟨-, hsome⟩ :=
    hstaged.isAt.entryOf_of_isPresent hname (hstaged.sound.drafts _) hpresent.symm
  dsimp only
  split
  · refine isConfined_bind_of (isConfined_onFiles trivial) fun _ removed hruns => ?_
    have hattains : Attains _ later (loader.Follows (cacheName url) before) _ :=
      hstaged.attains_remove hname
    obtain ⟨hstaged, -, hvacant⟩ := (hattains _ _ hruns).2 _ rfl
    exact hstaged.isConfined_unpack hhere husable hvacant
  · next habsent =>
    have hvacant := hstaged.sound.freeDrafts (cacheName url) (by simpa [habsent] using hsome)
    exact hstaged.isConfined_unpack hhere husable hvacant

/-- A fetch from a cache with whole entries changes only what it should. -/
theorem IsIntact.isConfined_fetch (h : loader.IsIntact host) (hhere : host.files.here.IsProper)
    (artefact : Artefact) : Program.IsConfined (artefact.fetch loader) host := by
  cases artefact with
  | module url => exact isConfined_fetchModule loader url host
  | archive url =>
    refine isConfined_bind_of trivial fun _ checked hruns => ?_
    obtain ⟨hchecked, rfl⟩ := of_runs_check hruns
    have husable := isUsableName_of_checkName hchecked
    refine isConfined_bind_of (isConfined_onFiles trivial) fun present later hruns => ?_
    obtain ⟨-, rfl⟩ := (goes_of_runs_onFiles hruns).isPresent
    dsimp only
    split
    · exact isConfined_bind (isConfined_say _ _ _ _) fun _ _ => trivial
    · split
      · refine isConfined_bind_of (isConfined_say _ _ _ _) fun _ logged hruns => ?_
        obtain ⟨log, rfl⟩ := of_runs_say hruns
        exact isConfined_bind (isConfined_downloadArchive h hhere rfl (.refl _) husable)
          fun _ _ => isConfined_bind (isConfined_say _ _ _ _) fun _ _ => trivial
      · refine isConfined_bind_of trivial fun _ _ hruns => ?_
        cases hruns

/-- A fetch that is performed is one that may come. -/
theorem IsIntact.runs_fetch (h : loader.IsIntact host) (hhere : host.files.here.IsProper)
    (artefact : Artefact) :
    Program.Runs (artefact.fetch loader) host (some (performed (artefact.fetch loader) host).1)
      (performed (artefact.fetch loader) host).2 :=
  Program.runs_perform (h.isConfined_fetch hhere artefact)

end Loader

end Sandbox.Fetch
