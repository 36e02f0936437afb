import Sandbox.Proofs.Fetch.Succeeding

/-!
# The cache over many fetches

Fetches of modules and archives come one after another, and the cache is emptied now and then. Each
fetch may fail at each of its actions and may be interrupted between them, and the servers answer
what they like.

## Main definitions

* `Call` : a fetch, or emptying the cache.
* `Loader.Step`, `Loader.Reaches` : what may come of a call, and of calls in a row.

## Main results

* `Loader.isVacant_of_isFree` : a cache whose directory is not there.
* `Loader.IsIntact.clearCache` : a cache that is emptied.
* `Loader.Reaches.isIntact` : all entries are whole after any calls.
* `Loader.cache_runs` : what the cache holds, keeps and returns.
-/

namespace Sandbox.Fetch

open Sandbox.Path (join)
open Files (IsPlain)

/-- What is asked of the cache. -/
inductive Call where
  /-- An artefact is fetched. -/
  | fetch (artefact : Artefact)
  /-- The cache is emptied. -/
  | clear

namespace Loader

variable {loader : Loader} {start host later : Host} {base : Files.Location} {name : String}
  {artefact : Artefact} {calls : List Call}

/-! ### Caches that are not there -/

/-- A cache is without entries if its directory is not there, but the parent of the directory is. -/
theorem isVacant_of_isFree {tree : Files.Tree} {parent : String}
    (hdirectory : loader.cacheDirectory = join parent name) (hname : IsPlain name)
    (hparent : tree.IsAt parent base) (hfree : tree.IsFree (base ++ [name])) :
    loader.IsVacant tree := by
  have hnone : tree.node? (base ++ [name]) = none := by simpa using hfree []
  have hlink : ∀ target, tree.node? (base ++ [name]) ≠ some (.link target) := by
    intro target
    rw [hnone]
    simp
  constructor
  · intro other hother
    exact absurd (hdirectory ▸ hother) (hparent.not_isAt_join hname hnone)
  · intro made hmade
    rw [hdirectory] at hmade ⊢
    obtain ⟨hentry, ⟨-, rfl⟩ | ⟨hdirectory, -⟩⟩ :=
      hparent.of_makeDirectories_join hname hlink hmade
    · have hput := fun other => tree.node?_put (base ++ [name]) other .directory (by simp)
      refine ⟨base ++ [name], ?_, fun inner rest => ?_⟩
      · exact ((Files.Tree.extends_put (by simp) hnone).isAt hparent).inner hname
          (Files.short_of_entryOf hentry) (by rw [hput, if_pos rfl])
      · have := hfree ([inner] ++ rest)
        unfold Files.Tree.under at this ⊢
        rwa [hput, if_neg (by simp), List.append_assoc]
    · rw [hnone] at hdirectory
      cases hdirectory

/-! ### Emptying the cache -/

theorem IsIntact.isHome (h : loader.IsIntact host)
    (hat : host.files.IsAt loader.cacheDirectory base) :
    host.files.IsHome loader.cacheDirectory base := by
  obtain hvacant | ⟨other, hsound⟩ := h
  · exact hat.isHome (hvacant.isBare base hat)
  · obtain rfl := hat.unique hsound.home.isAt
    exact hsound.home

/-- Nothing is in a cache whose directory was removed. -/
theorem isVacant_remove {tree : Files.Tree} (h : tree.IsHome loader.cacheDirectory base)
    (hpath : loader.cacheDirectory ≠ "") : loader.IsVacant (tree.remove base) where
  isBare _ hat := h.isBare_remove hat
  isBare_made _ hmade := ⟨base, h.makeDirectories_remove hpath hmade⟩

/-- Emptying the cache changes no file, or leaves a cache without entries. -/
theorem IsIntact.clearCache (h : loader.IsIntact host)
    (hclear : performed loader.clearCache host = (.ok (), later))
    (hlink : ∀ location target,
      host.files.find false loader.cacheDirectory ≠ .ok (location, .link target)) :
    later = host ∨ loader.IsVacant later.files := by
  rw [Loader.clearCache, performed_bind] at hclear
  cases hpresent : host.files.isPresent loader.cacheDirectory with
  | error e =>
    rw [performed_isPresent_error hpresent] at hclear
    cases hclear
  | ok present =>
    rw [performed_isPresent hpresent] at hclear
    cases present with
    | false =>
      cases hclear
      exact .inl rfl
    | true =>
      simp only [↓reduceIte] at hclear
      rw [performed_removeTree] at hclear
      split at hclear
      · next files hremove =>
        cases hclear
        obtain ⟨hpath, base, hat, rfl⟩ := Files.Tree.removeTree_eq_ok hremove hlink
        exact .inr (isVacant_remove (h.isHome hat) hpath)
      · cases hclear

/-! ### Calls -/

variable (loader) in
/-- What may come of a call. Fetches may fail or be interrupted. Emptying the cache is taken to get
to its end. Where the path of the cache is that of a symbolic link, only the link goes, and what the
path leads to when a directory is made there again is taken to be empty. -/
inductive Step : Call → Host → Host → Prop
  /-- An artefact is fetched, whose place is not that of the drafts. -/
  | fetch {artefact : Artefact} {host later : Host} {outcome : Option (Except LoadError String)}
      (isEntry : artefact.entry ≠ "temp")
      (runs : Program.Runs (artefact.fetch loader) host outcome later) :
      Step (.fetch artefact) host later
  /-- The cache is emptied. -/
  | clear {host later : Host} (succeeds : performed loader.clearCache host = (.ok (), later))
      (isVacant : ∀ location target,
        host.files.find false loader.cacheDirectory = .ok (location, .link target) →
          loader.IsVacant later.files) : Step .clear host later

variable (loader) in
/-- What may come of calls in a row. -/
inductive Reaches (start : Host) : List Call → Host → Prop
  /-- Nothing is asked. -/
  | start : Reaches start [] start
  /-- One more call. -/
  | step {calls : List Call} {call : Call} {host later : Host} (before : Reaches start calls host)
      (step : loader.Step call host later) : Reaches start (calls ++ [call]) later

theorem Step.isIntact {call : Call} (h : loader.Step call host later)
    (hintact : loader.IsIntact host) : loader.IsIntact later := by
  cases h with
  | fetch isEntry runs => exact hintact.follows (attains_fetch hintact isEntry _ _ runs).1
  | clear succeeds isVacant =>
    by_cases hlink : ∃ location target,
        host.files.find false loader.cacheDirectory = .ok (location, .link target)
    · obtain ⟨location, target, hlink⟩ := hlink
      exact .inl (isVacant location target hlink)
    · obtain rfl | hvacant := hintact.clearCache succeeds fun location target heq =>
        hlink ⟨location, target, heq⟩
      · exact hintact
      · exact .inl hvacant

/-- Whatever is asked, all entries are whole. -/
theorem Reaches.isIntact (h : loader.Reaches start calls host) (hstart : loader.IsIntact start) :
    loader.IsIntact host := by
  induction h with
  | start => exact hstart
  | step _ step ih => exact step.isIntact ih

/-- All that has a place is whole, and is found. -/
theorem IsIntact.entries (h : loader.IsIntact host)
    (hat : host.files.IsAt loader.cacheDirectory base) (hname : name ≠ "temp")
    (hsome : (host.files.node? (base ++ [name])).isSome) :
    loader.Whole host.traffic 0 name (host.files.under (base ++ [name])) ∧
      host.files.isPresent (join loader.cacheDirectory name) = .ok true := by
  obtain ⟨node, hnode⟩ := Option.isSome_iff_exists.1 hsome
  obtain hvacant | ⟨other, hsound⟩ := h
  · have := hvacant.isBare base hat name []
    rw [Files.Tree.under_nil, hnode] at this
    cases this
  · obtain rfl := hat.unique hsound.home.isAt
    obtain ⟨hentry, hwhole⟩ := hsound.entries name node hname hnode
    have hlink := hwhole.not_link
    simp only [Files.Tree.under_nil] at hlink
    refine ⟨hwhole, ?_⟩
    rw [hsound.home.isAt.isPresent_join hwhole.isPlain hlink, hentry]
    simp [Except.map, hnode]

/-- What has a place after a fetch had it before, or is made of what was delivered to the fetch;
what had a place before has it afterwards. -/
theorem Follows.entries {entry : String} (h : loader.Follows entry host later)
    (hname : name ≠ "temp") :
    (host.files.IsAt loader.cacheDirectory base → (host.files.node? (base ++ [name])).isSome →
      later.files.IsAt loader.cacheDirectory base ∧
        later.files.under (base ++ [name]) = host.files.under (base ++ [name])) ∧
    (later.files.IsAt loader.cacheDirectory base → host.files.node? (base ++ [name]) = none →
      (later.files.node? (base ++ [name])).isSome →
        loader.Whole later.traffic host.traffic.sent.length name
          (later.files.under (base ++ [name]))) := by
  obtain hsame | ⟨other, horigin, -, hsound, hentries⟩ := h.files
  · rw [hsame]
    refine ⟨fun hat _ => ⟨hat, rfl⟩, fun _ hnone hsome => ?_⟩
    simp [hnone] at hsome
  · constructor
    · intro hat hsome
      obtain rfl : base = other := by
        obtain hbefore | ⟨-, hunique⟩ := horigin
        · exact hat.unique hbefore.home.isAt
        · exact hunique base hat
      refine ⟨hsound.home.isAt, (hentries name hname).resolve_right fun hnew => ?_⟩
      simp [hnew.2.1] at hsome
    · intro hat hnone hsome
      obtain rfl := hat.unique hsound.home.isAt
      refine ((hentries name hname).resolve_left fun hold => ?_).2.2
      rw [Files.Tree.under_inj hold, hnone] at hsome
      cases hsome

/-- The entry of an artefact is made of an artefact of that name. -/
theorem Whole.isUsableName_entry {traffic : Http.Traffic} {earlier : Nat}
    {content : Files.Location → Option Files.Node}
    (h : loader.Whole traffic earlier artefact.entry content) :
    isUsableName (cacheName artefact.url) = true := by
  cases h with
  | @module url _ _ isName isUsable =>
    cases artefact with
    | module other =>
      have heq : cacheName other = cacheName url := by
        have := congrArg String.toList isName
        simp only [Artefact.entry, String.toList_append, List.append_cancel_right_eq] at this
        exact String.toList_inj.1 this
      exact heq ▸ isUsable
    | archive other => exact absurd isName (cacheName_ne_append other _)
  | @archive url _ isName isUsable =>
    cases artefact with
    | module other => exact absurd isName.symm (cacheName_ne_append url _)
    | archive other =>
      have heq : cacheName other = cacheName url := isName
      exact heq ▸ isUsable

/-- What has a place keeps it until the cache is emptied. -/
theorem Reaches.keeps (h : loader.Reaches host calls later) (hintact : loader.IsIntact host)
    (hclear : .clear ∉ calls) (hname : name ≠ "temp")
    (hat : host.files.IsAt loader.cacheDirectory base)
    (hsome : (host.files.node? (base ++ [name])).isSome) :
    later.files.IsAt loader.cacheDirectory base ∧
      later.files.under (base ++ [name]) = host.files.under (base ++ [name]) := by
  induction h with
  | start => exact ⟨hat, rfl⟩
  | @step calls call middle later before step ih =>
    rw [List.mem_append, not_or] at hclear
    obtain ⟨hat', hsame⟩ := ih hclear.1
    cases step with
    | clear => simp at hclear
    | fetch isEntry runs =>
      have hfollows := (attains_fetch (before.isIntact hintact) isEntry _ _ runs).1
      have hsome' : (middle.files.node? (base ++ [name])).isSome := by
        rwa [Files.Tree.under_inj hsame]
      obtain ⟨hat'', hsame'⟩ := (hfollows.entries hname).1 hat' hsome'
      exact ⟨hat'', hsame'.trans hsame⟩

/-- The cache after any calls, from one without entries. All that has a place is whole. A fetch,
whatever comes of it, leaves all that as it was, and what it adds is made of a body that was
delivered to it, with nothing of an earlier draft. A fetch of what has its place asks no server,
changes no file and returns the place. What has a place keeps it until the cache is emptied. -/
theorem cache_runs (hstart : loader.IsVacant start.files) (h : loader.Reaches start calls host) :
    (∀ base name, host.files.IsAt loader.cacheDirectory base → name ≠ "temp" →
      (host.files.node? (base ++ [name])).isSome →
        loader.Whole host.traffic 0 name (host.files.under (base ++ [name]))) ∧
    (∀ (artefact : Artefact) outcome later, artefact.entry ≠ "temp" →
      Program.Runs (artefact.fetch loader) host outcome later → ∀ base name, name ≠ "temp" →
        (host.files.IsAt loader.cacheDirectory base → (host.files.node? (base ++ [name])).isSome →
          later.files.IsAt loader.cacheDirectory base ∧
            later.files.under (base ++ [name]) = host.files.under (base ++ [name])) ∧
        (later.files.IsAt loader.cacheDirectory base → host.files.node? (base ++ [name]) = none →
          (later.files.node? (base ++ [name])).isSome →
            loader.Whole later.traffic host.traffic.sent.length name
              (later.files.under (base ++ [name])))) ∧
    (∀ (artefact : Artefact) base, artefact.entry ≠ "temp" →
      host.files.IsAt loader.cacheDirectory base →
      (host.files.node? (base ++ [artefact.entry])).isSome →
        (∃ log, performed (artefact.fetch loader) host =
          (.ok (join loader.cacheDirectory artefact.entry), { host with log := log })) ∧
        ∀ outcome later, Program.Runs (artefact.fetch loader) host outcome later →
          later.files = host.files ∧ later.traffic = host.traffic ∧
            (outcome = none ∨
              outcome = some (.ok (join loader.cacheDirectory artefact.entry)))) ∧
    (∀ calls' later, loader.Reaches host calls' later → .clear ∉ calls' → ∀ base name,
      name ≠ "temp" → host.files.IsAt loader.cacheDirectory base →
        (host.files.node? (base ++ [name])).isSome →
          later.files.IsAt loader.cacheDirectory base ∧
            later.files.under (base ++ [name]) = host.files.under (base ++ [name])) := by
  have hintact : loader.IsIntact host := h.isIntact (.inl hstart)
  refine ⟨fun base name hat hname hsome => (hintact.entries hat hname hsome).1,
    fun artefact outcome later hentry hruns base name hname =>
      (attains_fetch hintact hentry outcome later hruns).1.entries hname,
    fun artefact base hentry hat hsome => ?_,
    fun calls' later hreaches hclear base name hname hat hsome =>
      hreaches.keeps hintact hclear hname hat hsome⟩
  obtain ⟨hwhole, hpresent⟩ := hintact.entries hat hentry hsome
  have husable := hwhole.isUsableName_entry
  exact ⟨performed_present husable hpresent,
    fun outcome later hruns => runs_present husable hpresent hruns⟩

/-! ### A cache in use -/

/-- Servers that break the first connection and deliver a module to all later requests, and an empty
cache. -/
def sampleHost : Host where
  files := sampleFiles
  traffic := ⟨fun earlier _ =>
    if earlier = 0 then .dropped else .answer 200 none sampleBody true, []⟩

theorem isVacant_sampleFiles : sampleLoader.IsVacant sampleFiles where
  isBare base h := by
    rw [h.unique isAt_sampleFiles]
    exact isBare_sampleFiles
  isBare_made made hmade := by
    rw [isAt_sampleFiles.makeDirectories hmade]
    exact ⟨["cache"], isAt_sampleFiles, isBare_sampleFiles⟩

private theorem isVacant_sampleHost : sampleLoader.IsVacant sampleHost.files :=
  isVacant_sampleFiles

/-- A fetch for which the connection breaks, and one that gets to its end. -/
theorem cache_runs_sample :
    ∃ host isExecutable, sampleLoader.IsVacant sampleHost.files ∧
      sampleLoader.Reaches sampleHost [.fetch (.module sampleUrl), .fetch (.module sampleUrl)]
        host ∧
      host.files.IsAt "/cache" ["cache"] ∧
      host.files.node? ["cache", "a.wasm"] = some (.file sampleBody isExecutable) ∧
      sampleLoader.Whole host.traffic 0 "a.wasm" (host.files.under ["cache", "a.wasm"]) ∧
      ∃ log, performed ((Artefact.module sampleUrl).fetch sampleLoader) host =
        (.ok "/cache/a.wasm", { host with log := log }) := by
  have hmodule : sampleBody.isModule = true := rfl
  -- the connection breaks
  obtain ⟨log, hfirst⟩ := performed_fetchModule_error isUsableName_sampleUrl
    (isOpen_sampleFiles sampleHost.traffic sampleHost.log).isAbsent
    (sampleLoader.client.download_unanswered parse?_sampleUrl rfl (.inl rfl)) rfl
  -- the module is delivered
  generalize hmiddle : sampleLoader.client.asked sampleHost.traffic sampleParts = middle at hfirst
  have hreply : middle.reply middle.sent.length sampleParts = .answer 200 none sampleBody true := by
    subst hmiddle
    rfl
  obtain ⟨files, log', hsecond, hsound, ⟨isExecutable, hfile⟩, -⟩ :=
    performed_fetchModule (isOpen_sampleFiles middle log)
      (sampleLoader.client.download_answered parse?_sampleUrl rfl hreply) hmodule
  have hreaches : sampleLoader.Reaches sampleHost
      [.fetch (.module sampleUrl), .fetch (.module sampleUrl)] _ :=
    .step (.step .start (.fetch (Artefact.module_ne_temp _) (runs_fetchModule hfirst)))
      (.fetch (Artefact.module_ne_temp _) (runs_fetchModule hsecond))
  obtain ⟨hwhole, -, hreturned, -⟩ := cache_runs isVacant_sampleHost hreaches
  have hat := hsound.home.isAt
  have hsome : (files.node? (["cache"] ++ [(Artefact.module sampleUrl).entry])).isSome := by
    rw [hfile]
    rfl
  refine ⟨_, isExecutable, isVacant_sampleHost, hreaches, hat, ?_, ?_, ?_⟩
  · rw [entry_sampleUrl] at hfile
    exact hfile
  · have := hwhole _ _ hat (Artefact.module_ne_temp _) hsome
    rw [entry_sampleUrl] at this
    exact this
  · obtain ⟨log'', hperformed⟩ := (hreturned _ _ (Artefact.module_ne_temp _) hat hsome).1
    rw [entry_sampleUrl] at hperformed
    exact ⟨log'', hperformed⟩

end Loader

end Sandbox.Fetch
