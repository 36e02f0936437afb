import Sandbox.Fetch.Loader
import Sandbox.Proofs.Fetch.Naming
import Sandbox.Proofs.Files.Homes
import Sandbox.Proofs.Http.Delivery

/-!
# What the cache holds

The cache directory holds whole entries and the staging directory. Drafts come and go in the staging
directory, and a draft becomes an entry by one renaming. What is asked of the staging directory is
only that no draft is a symbolic link, and that nothing hides below a draft that is not there, so
that the next draft of that name begins with nothing.

## Main definitions

* `Loader.IsUnpacking`, `Loader.Whole` : what an entry holds.
* `Loader.IsNeatAt` : a cache without symbolic links.
* `Loader.Sound` : a cache whose entries are whole.
* `Loader.IsVacant` : a cache without entries, whether or not its directory is there.

## Main results

* `Loader.IsNeatAt.redraft`, `Loader.Sound.redraft` : a draft comes or goes.
* `Loader.IsNeatAt.publish`, `Loader.Sound.publish` : a draft becomes an entry.
-/

namespace Sandbox

open Sandbox.Path (join)

namespace Fetch.Loader

variable (loader : Loader)

/-! ### Entries -/

/-- What stands at a location is all that a body unpacks to at a path where nothing was. -/
def IsUnpacking (body : Files.Content) (path : String)
    (content : Files.Location → Option Files.Node) : Prop :=
  ∃ before after location, Files.unpack body path before = (.ok (), after) ∧
    before.locate true path = .ok location ∧ before.IsFree location ∧
      content = after.under location

/-- What an entry of that name holds that is made of a body that was delivered. The request came
after so many earlier ones. -/
inductive Whole (traffic : Http.Traffic) (earlier : Nat) (name : String)
    (content : Files.Location → Option Files.Node) : Prop
  /-- A module is the body. -/
  | module {url : String} {body : Files.Content} {isExecutable : Bool}
      (isName : name = cacheName url ++ ".wasm") (isUsable : isUsableName (cacheName url) = true)
      (isFile : content [] = some (.file body isExecutable)) (isModule : body.isModule = true)
      (delivered : traffic.Delivered earlier body)
  /-- An archive is what the body unpacks to. -/
  | archive {url : String} {body : Files.Content} (isName : name = cacheName url)
      (isUsable : isUsableName (cacheName url) = true)
      (isDirectory : content [] = some .directory) (delivered : traffic.Delivered earlier body)
      (isUnpacking : IsUnpacking body (loader.archiveDraft name) content)

variable {loader} {traffic later : Http.Traffic} {earlier earlier' : Nat} {name : String}
  {content : Files.Location → Option Files.Node} {base : Files.Location}
  {tree changed made : Files.Tree}

theorem Whole.grows (h : loader.Whole traffic earlier name content) (hgrows : traffic.Grows later)
    (hle : earlier' ≤ earlier) : loader.Whole later earlier' name content := by
  cases h with
  | module isName isUsable isFile isModule delivered =>
    exact .module isName isUsable isFile isModule (delivered.grows hgrows hle)
  | archive isName isUsable isDirectory delivered isUnpacking =>
    exact .archive isName isUsable isDirectory (delivered.grows hgrows hle) isUnpacking

/-- An entry has a name that stands for an entry. -/
theorem Whole.isPlain (h : loader.Whole traffic earlier name content) : Files.IsPlain name := by
  cases h with
  | @module url _ _ isName =>
    subst isName
    exact isPlain_append url _ (by decide) (by decide)
  | archive isName isUsable =>
    subst isName
    exact isPlain_of_isUsableName isUsable

/-- An entry is no symbolic link. -/
theorem Whole.not_link (h : loader.Whole traffic earlier name content) (target : String) :
    content [] ≠ some (.link target) := by
  cases h with
  | module _ _ isFile => simp [isFile]
  | archive _ _ isDirectory => simp [isDirectory]

/-! ### Caches without symbolic links -/

variable (loader) in
/-- A cache at a location with no symbolic link among its entries and drafts, whatever else these
are. -/
structure IsNeatAt (base : Files.Location) (tree : Files.Tree) : Prop where
  /-- The cache directory is there. -/
  home : tree.IsHome loader.cacheDirectory base
  /-- No entry is a symbolic link. -/
  links : ∀ name target, tree.node? (base ++ [name]) ≠ some (.link target)
  /-- No draft is a symbolic link. -/
  drafts : ∀ name target, tree.node? (base ++ ["temp"] ++ [name]) ≠ some (.link target)
  /-- Nothing hides below entries that are not there. -/
  freeEntries : ∀ name, tree.node? (base ++ [name]) = none → tree.IsFree (base ++ [name])
  /-- Nothing hides below drafts that are not there. -/
  freeDrafts : ∀ name, tree.node? (base ++ ["temp"] ++ [name]) = none →
    tree.IsFree (base ++ ["temp"] ++ [name])

namespace IsNeatAt

/-- The staging directory is made. -/
theorem makeStaging (h : loader.IsNeatAt base tree)
    (hnone : tree.node? (base ++ ["temp"]) = none) :
    loader.IsNeatAt base (tree.put (base ++ ["temp"]) .directory) := by
  have hsame : tree.SameBut (base ++ ["temp"]) (tree.put (base ++ ["temp"]) .directory) :=
    Files.Tree.sameBut_put (by simp) _
  have hput := fun other => tree.node?_put (base ++ ["temp"]) other .directory (by simp)
  have hdrafts : ∀ name rest, (tree.put (base ++ ["temp"]) .directory).node?
      (base ++ ["temp"] ++ [name] ++ rest) = none := fun name rest => by
    rw [hput, if_neg (by simp)]
    simpa [Files.Tree.under] using h.freeEntries "temp" hnone (name :: rest)
  exact {
    home := h.home.sameBut hsame
    links := fun name target => by
      by_cases htemp : name = "temp"
      · rw [htemp, hput, if_pos rfl]
        simp
      · rw [hsame.node? htemp]
        exact h.links name target
    drafts := fun name target => by
      have := hdrafts name []
      simp_all
    freeEntries := fun name hname => by
      by_cases htemp : name = "temp"
      · subst htemp
        rw [hput, if_pos rfl] at hname
        cases hname
      · exact Files.Tree.isFree_of_under (hsame.under htemp) (h.freeEntries name) hname
    freeDrafts := fun name _ rest => hdrafts name rest }

/-- A draft comes or goes. -/
theorem redraft (h : loader.IsNeatAt base tree)
    (hstaging : tree.node? (base ++ ["temp"]) = some .directory)
    (hsame : tree.SameBut (base ++ ["temp"] ++ [name]) changed)
    (hlink : ∀ target, changed.node? (base ++ ["temp"] ++ [name]) ≠ some (.link target))
    (hfree : changed.node? (base ++ ["temp"] ++ [name]) = none →
      changed.IsFree (base ++ ["temp"] ++ [name])) :
    loader.IsNeatAt base changed ∧ changed.node? (base ++ ["temp"]) = some .directory := by
  have hstaging' : changed.node? (base ++ ["temp"]) = some .directory := by
    rw [hsame.elsewhere, hstaging]
    intro hbelow
    have := hbelow.length_le
    simp at this
  refine ⟨?_, hstaging'⟩
  exact {
    home := h.home.sameBut hsame.up
    links := fun other target => by
      by_cases htemp : other = "temp"
      · rw [htemp, hstaging']
        simp
      · rw [hsame.up.node? htemp]
        exact h.links other target
    drafts := fun other target => by
      by_cases hother : other = name
      · exact hother ▸ hlink target
      · rw [hsame.node? hother]
        exact h.drafts other target
    freeEntries := fun other hother => by
      by_cases htemp : other = "temp"
      · subst htemp
        simp [hstaging'] at hother
      · exact Files.Tree.isFree_of_under (hsame.up.under htemp) (h.freeEntries other) hother
    freeDrafts := fun other hnone => by
      by_cases hother : other = name
      · subst hother
        exact hfree hnone
      · exact Files.Tree.isFree_of_under (hsame.under hother) (h.freeDrafts other) hnone }

/-- A draft becomes an entry. -/
theorem publish {draft : String} (h : loader.IsNeatAt base tree)
    (hstaging : tree.node? (base ++ ["temp"]) = some .directory)
    (hraised : tree.Raised base "temp" draft name changed) : loader.IsNeatAt base changed where
  home := h.home.congr hraised.here hraised.outside
  links other target := by
    by_cases htemp : other = "temp"
    · rw [htemp, hraised.inner, hstaging]
      simp
    · by_cases hne : other = name
      · have hnode := congrFun hraised.raised []
        rw [Files.Tree.under_nil, Files.Tree.under_nil] at hnode
        rw [hne, hnode]
        exact h.drafts draft target
      · rw [Files.Tree.under_inj (hraised.entries other htemp hne)]
        exact h.links other target
  drafts other target := by
    by_cases hne : other = draft
    · subst hne
      have hgone := hraised.gone []
      rw [Files.Tree.under_nil] at hgone
      rw [hgone]
      simp
    · rw [Files.Tree.under_inj (hraised.drafts other hne)]
      exact h.drafts other target
  freeEntries other hnone := by
    by_cases htemp : other = "temp"
    · subst htemp
      rw [hraised.inner, hstaging] at hnone
      cases hnone
    · by_cases hne : other = name
      · subst hne
        exact Files.Tree.isFree_of_under hraised.raised (h.freeDrafts draft) hnone
      · exact Files.Tree.isFree_of_under (hraised.entries other htemp hne) (h.freeEntries other)
          hnone
  freeDrafts other hnone := by
    by_cases hne : other = draft
    · exact hne ▸ hraised.gone
    · exact Files.Tree.isFree_of_under (hraised.drafts other hne) (h.freeDrafts other) hnone

end IsNeatAt

/-! ### Caches with whole entries -/

variable (loader) in
/-- A cache at a location whose entries are whole. -/
structure Sound (base : Files.Location) (traffic : Http.Traffic) (tree : Files.Tree) : Prop where
  /-- The cache directory is there. -/
  home : tree.IsHome loader.cacheDirectory base
  /-- There is a staging directory, or nothing. -/
  staging : tree.node? (base ++ ["temp"]) = none ∨
    tree.node? (base ++ ["temp"]) = some .directory
  /-- No draft is a symbolic link. -/
  drafts : ∀ name target, tree.node? (base ++ ["temp"] ++ [name]) ≠ some (.link target)
  /-- Nothing hides below entries that are not there. -/
  freeEntries : ∀ name, tree.node? (base ++ [name]) = none → tree.IsFree (base ++ [name])
  /-- Nothing hides below drafts that are not there. -/
  freeDrafts : ∀ name, tree.node? (base ++ ["temp"] ++ [name]) = none →
    tree.IsFree (base ++ ["temp"] ++ [name])
  /-- All entries are whole, and are found. -/
  entries : ∀ name node, name ≠ "temp" → tree.node? (base ++ [name]) = some node →
    Files.entryOf loader.cacheDirectory name base = .ok (base ++ [name]) ∧
      loader.Whole traffic 0 name (tree.under (base ++ [name]))

variable (loader) in
/-- A cache without entries: nothing is in its directory, be it there or be it made. -/
structure IsVacant (tree : Files.Tree) : Prop where
  /-- Nothing is in the directory if it is there. -/
  isBare : ∀ base, tree.IsAt loader.cacheDirectory base → tree.IsBare base
  /-- Nothing is in the directory when it is made. -/
  isBare_made : ∀ made, tree.makeDirectories loader.cacheDirectory = .ok made →
    ∃ base, made.IsAt loader.cacheDirectory base ∧ made.IsBare base

theorem sound_of_isBare (h : tree.IsAt loader.cacheDirectory base) (hbare : tree.IsBare base) :
    loader.Sound base traffic tree := by
  have hnone : ∀ name rest, tree.node? (base ++ name :: rest) = none := fun name rest => by
    simpa [Files.Tree.under] using hbare name rest
  exact {
    home := h.isHome hbare
    staging := .inl (hnone "temp" [])
    drafts := fun name target => by simp [hnone]
    freeEntries := fun name _ => hbare name
    freeDrafts := fun name _ rest => by simpa [Files.Tree.under] using hnone "temp" (name :: rest)
    entries := fun name node _ hnode => by simp [hnone] at hnode }

namespace Sound

theorem grows (h : loader.Sound base traffic tree) (hgrows : traffic.Grows later) :
    loader.Sound base later tree where
  home := h.home
  staging := h.staging
  drafts := h.drafts
  freeEntries := h.freeEntries
  freeDrafts := h.freeDrafts
  entries name node hname hnode :=
    have ⟨hentry, hwhole⟩ := h.entries name node hname hnode
    ⟨hentry, hwhole.grows hgrows (Nat.le_refl 0)⟩

/-- Whole entries are no symbolic links. -/
theorem isNeatAt (h : loader.Sound base traffic tree) : loader.IsNeatAt base tree where
  home := h.home
  links name target hnode := by
    by_cases htemp : name = "temp"
    · obtain hnone | hdirectory := h.staging
      · rw [htemp, hnone] at hnode
        cases hnode
      · rw [htemp, hdirectory] at hnode
        cases hnode
    · have hlink := (h.entries name _ htemp hnode).2.not_link target
      rw [Files.Tree.under_nil] at hlink
      exact hlink hnode
  drafts := h.drafts
  freeEntries := h.freeEntries
  freeDrafts := h.freeDrafts

/-- A cache is sound if there is a staging directory and all entries are whole. -/
private theorem of_isNeatAt (h : loader.IsNeatAt base tree)
    (hstaging : tree.node? (base ++ ["temp"]) = some .directory)
    (hentries : ∀ name node, name ≠ "temp" → tree.node? (base ++ [name]) = some node →
      Files.entryOf loader.cacheDirectory name base = .ok (base ++ [name]) ∧
        loader.Whole traffic 0 name (tree.under (base ++ [name]))) :
    loader.Sound base traffic tree :=
  ⟨h.home, .inr hstaging, h.drafts, h.freeEntries, h.freeDrafts, hentries⟩

/-- Entries that are there before and after. -/
private theorem entries_of_under (h : loader.Sound base traffic tree)
    (hunder : ∀ name, name ≠ "temp" →
      changed.under (base ++ [name]) = tree.under (base ++ [name])) :
    ∀ name node, name ≠ "temp" → changed.node? (base ++ [name]) = some node →
      Files.entryOf loader.cacheDirectory name base = .ok (base ++ [name]) ∧
        loader.Whole traffic 0 name (changed.under (base ++ [name])) := by
  intro name node hname hnode
  rw [Files.Tree.under_inj (hunder name hname)] at hnode
  rw [hunder name hname]
  exact h.entries name node hname hnode

/-- The staging directory is made. -/
theorem makeStaging (h : loader.Sound base traffic tree)
    (hnone : tree.node? (base ++ ["temp"]) = none) :
    loader.Sound base traffic (tree.put (base ++ ["temp"]) .directory) := by
  refine of_isNeatAt (h.isNeatAt.makeStaging hnone) ?_ (h.entries_of_under fun name hname =>
    (Files.Tree.sameBut_put (by simp) _).under hname)
  rw [tree.node?_put _ _ _ (by simp), if_pos rfl]

/-- A draft comes or goes. -/
theorem redraft (h : loader.Sound base traffic tree)
    (hstaging : tree.node? (base ++ ["temp"]) = some .directory)
    (hsame : tree.SameBut (base ++ ["temp"] ++ [name]) changed)
    (hlink : ∀ target, changed.node? (base ++ ["temp"] ++ [name]) ≠ some (.link target))
    (hfree : changed.node? (base ++ ["temp"] ++ [name]) = none →
      changed.IsFree (base ++ ["temp"] ++ [name])) :
    loader.Sound base traffic changed ∧
      changed.node? (base ++ ["temp"]) = some .directory := by
  obtain ⟨hneat, hstaging'⟩ := h.isNeatAt.redraft hstaging hsame hlink hfree
  exact ⟨of_isNeatAt hneat hstaging' (h.entries_of_under fun other hother =>
    hsame.up.under hother), hstaging'⟩

/-- A draft becomes an entry. -/
theorem publish {draft : String} (h : loader.Sound base traffic tree)
    (hstaging : tree.node? (base ++ ["temp"]) = some .directory) (hname : name ≠ "temp")
    (hentry : Files.entryOf loader.cacheDirectory name base = .ok (base ++ [name]))
    (hwhole : loader.Whole traffic 0 name (tree.under (base ++ ["temp"] ++ [draft]))) :
    let changed := tree.move (base ++ ["temp"] ++ [draft]) (base ++ [name])
    loader.Sound base traffic changed ∧
      changed.under (base ++ [name]) = tree.under (base ++ ["temp"] ++ [draft]) ∧
        ∀ other, other ≠ "temp" → other ≠ name →
          changed.under (base ++ [other]) = tree.under (base ++ [other]) := by
  intro changed
  have hraised : tree.Raised base "temp" draft name changed := tree.raised_move base draft hname
  refine ⟨of_isNeatAt (h.isNeatAt.publish hstaging hraised) (hraised.inner.trans hstaging)
    fun other node htemp hnode => ?_, hraised.raised, hraised.entries⟩
  by_cases hne : other = name
  · subst hne
    exact ⟨hentry, hraised.raised ▸ hwhole⟩
  · rw [Files.Tree.under_inj (hraised.entries other htemp hne)] at hnode
    rw [hraised.entries other htemp hne]
    exact h.entries other node htemp hnode

end Sound

end Fetch.Loader

end Sandbox
