import Sandbox.Proofs.Files.Locations

/-!
# Unpacking stays below its destination

Whatever is in an archive, unpacking it where nothing is changes nothing but what is there. Entries
go where a check has found a directory at or below the destination, and the check looks at the tree
as it is after all earlier entries, whatever links they have put into it.

## Main definitions

* `Tree.Inside` : a change of what is in a directory.
* `Unpacking.Confined` : work that changes nothing but what is in a directory.

## Main results

* `Unpacking.Confined.bind`, `Unpacking.confined_checkInside` : one piece of work after another.
* `Unpacking.confined_unpackEntry` : an entry of an archive.
* `unpack_sameBut`, `unpack_disturbs` : an archive.
-/

namespace Sandbox.Files

open Sandbox.Path (Component join)

variable {tree : Tree} {location base : Location} {path name : String}

namespace Tree

variable {made later : Tree} {node : Node}

/-! ### Changes in a directory -/

/-- Nothing has changed but what is in a directory, which is still there. -/
structure Inside (tree : Tree) (base : Location) (later : Tree) : Prop
    extends tree.SameBut base later where
  /-- The directory is there. -/
  directory : later.node? base = some .directory

theorem Inside.refl (h : tree.node? base = some .directory) : tree.Inside base tree :=
  ⟨⟨rfl, fun _ _ => rfl⟩, h⟩

theorem Inside.trans (h : tree.Inside base made) (h' : made.Inside base later) :
    tree.Inside base later where
  here := h'.here.trans h.here
  elsewhere other hother := (h'.elsewhere other hother).trans (h.elsewhere other hother)
  directory := h'.directory

/-- A change of an entry of a directory, or of an entry further down. -/
theorem SameBut.inside (hchange : tree.SameBut (location ++ [name]) made)
    (h : tree.node? base = some .directory) (hbelow : base <+: location) :
    tree.Inside base made := by
  obtain ⟨rest, rfl⟩ := hbelow
  rw [List.append_assoc] at hchange
  refine ⟨hchange.up, ?_⟩
  rw [hchange.elsewhere base, h]
  intro hprefix
  have := hprefix.length_le
  simp only [List.length_append, List.length_singleton] at this
  omega

theorem create_inside (hname : IsPlain name) (hparent : tree.canonical path = .ok location)
    (h : tree.node? base = some .directory) (hbelow : base <+: location)
    (hmade : tree.create (join path name) node = .ok made) : tree.Inside base made := by
  obtain ⟨goal, hlocate, -, rfl⟩ := create_eq_ok hmade
  obtain rfl := eq_of_locate_join hname hparent hlocate
  exact (sameBut_put (by simp) node).inside h hbelow

theorem makeDirectory_inside (hname : IsPlain name) (hparent : tree.canonical path = .ok location)
    (h : tree.node? base = some .directory) (hbelow : base <+: location)
    (hmade : tree.makeDirectory (join path name) = .ok made) : tree.Inside base made := by
  unfold makeDirectory at hmade
  rw [withoutSlashes_join path hname] at hmade
  exact create_inside hname hparent h hbelow hmade

theorem makeDirectories_inside (hname : IsPlain name)
    (hparent : tree.canonical path = .ok location) (h : tree.node? base = some .directory)
    (hbelow : base <+: location) (hmade : tree.makeDirectories (join path name) = .ok made) :
    tree.Inside base made := by
  cases hone : tree.makeDirectory (join path name) with
  | ok one =>
    obtain ⟨parents, hparents⟩ := tree.makeDirectories_cons (join path name)
    have hempty : (join path name).isEmpty = false := by simpa using join_ne_empty path hname
    rw [hparents, makeDirectoriesFrom, hone, hempty] at hmade
    cases hmade
    exact makeDirectory_inside hname hparent h hbelow hone
  | error e =>
    have hne : e ≠ .notFound := by
      rintro rfl
      unfold makeDirectory create at hone
      rw [withoutSlashes_join path hname] at hone
      cases hlocate : tree.locate false (join path name) with
      | error e =>
        simp only [hlocate, bind, Except.bind] at hone
        cases hone
        exact locate_join_ne_notFound hname hparent hlocate
      | ok goal =>
        simp only [hlocate, bind, Except.bind] at hone
        split at hone <;> cases hone
    rw [makeDirectories_of_error (join_ne_empty path hname) hone hne] at hmade
    split at hmade <;> cases hmade
    exact .refl h

/-- Something is put in place of a file that is removed. -/
theorem replace_inside (hname : IsPlain name) (hparent : tree.canonical path = .ok location)
    (h : tree.node? base = some .directory) (hbelow : base <+: location)
    (hmade : (tree.removeFile (join path name) >>= (·.create (join path name) node)) = .ok later) :
    tree.Inside base later := by
  unfold removeFile at hmade
  cases hfind : tree.find false (join path name) with
  | error e => simp [hfind, bind, Except.bind] at hmade
  | ok found =>
    obtain ⟨goal, old⟩ := found
    have hlocate := (find_eq_ok hfind).1
    obtain rfl := eq_of_locate_join hname hparent hlocate
    simp only [hfind, bind, Except.bind] at hmade
    cases hdirectory : old.isDirectory with
    | true => simp [hdirectory, throw, throwThe, MonadExceptOf.throw] at hmade
    | false =>
      simp only [hdirectory, Bool.false_eq_true, ↓reduceIte, pure, Except.pure] at hmade
      obtain ⟨other, hother, -, rfl⟩ := create_eq_ok hmade
      -- with the file gone, the path leads to where it was
      have hwalk :=
        (extends_remove tree (location ++ [name])).walk (locate_eq_ok hother).2 (by simp)
      obtain rfl : location ++ [name] = other :=
        Except.ok.inj ((locate_eq_ok hlocate).2.symm.trans hwalk)
      have hinside := (tree.sameBut_remove (location ++ [name])).inside h hbelow
      exact hinside.trans ((sameBut_put (by simp) node).inside hinside.directory hbelow)

theorem makeHardLink_eq_ok {source : String} (h : tree.makeHardLink source path = .ok made) :
    ∃ node, tree.create path node = .ok made := by
  unfold makeHardLink at h
  cases hfind : tree.find false source with
  | error e => simp [hfind, bind, Except.bind] at h
  | ok found =>
    simp only [hfind, bind, Except.bind] at h
    split at h
    · cases h
    · exact ⟨_, h⟩

end Tree

/-- An entry of an archive that is a file in a directory of the destination. -/
structure Entry.IsFileIn (entry : Entry) (directory name : String) : Prop where
  /-- The way to it. -/
  names : entry.names? = some [directory, name]
  /-- It is a file. -/
  kind : entry.kind = .file
  /-- Its name does not say otherwise. -/
  noSlash : Text.endsWith entry.name "/" = false

theorem Entry.IsFileIn.isPlain_directory {entry : Entry} {directory : String}
    (h : entry.IsFileIn directory name) : IsPlain directory :=
  isProper_of_names? h.names directory (by simp)

theorem Entry.IsFileIn.isPlain_name {entry : Entry} {directory : String}
    (h : entry.IsFileIn directory name) : IsPlain name :=
  isProper_of_names? h.names name (by simp)

/-! ### Work in a directory -/

namespace Unpacking

open Files.Tree

variable {α β : Type} {work : Unpacking α} {next : α → Unpacking β}

/-- Work changes nothing but what is in a directory, if that is there. -/
def Confined (base : Location) (work : Unpacking α) (tree : Tree) : Prop :=
  tree.node? base = some .directory → tree.Inside base (work.run.run tree).2

theorem run_bind (work : Unpacking α) (next : α → Unpacking β) (tree : Tree) :
    (work >>= next).run.run tree =
      match work.run.run tree with
      | (.ok answer, later) => (next answer).run.run later
      | (.error message, later) => (.error message, later) := by
  rw [ExceptT.run_bind, StateT.run_bind]
  generalize work.run.run tree = found
  obtain ⟨answer, later⟩ := found
  cases answer <;> rfl

theorem confined_pure (answer : α) : Confined base (pure answer) tree :=
  fun h => .refl h

theorem confined_throw (message : String) : Confined base (throw message : Unpacking α) tree :=
  fun h => .refl h

/-- One piece of work after another. -/
theorem Confined.bind (h : Confined base work tree)
    (hnext : ∀ answer later, work.run.run tree = (.ok answer, later) →
      Confined base (next answer) later) : Confined base (work >>= next) tree := by
  intro hdirectory
  have hwork := h hdirectory
  rw [run_bind]
  cases hrun : work.run.run tree with
  | mk answer later =>
    rw [hrun] at hwork
    cases answer with
    | error message => exact hwork
    | ok answer => exact hwork.trans (hnext answer later hrun hwork.directory)

/-- Work that depends on the tree. -/
theorem confined_get {next : Tree → Unpacking α} (h : Confined base (next tree) tree) :
    Confined base (get >>= next) tree := by
  intro hdirectory
  rw [run_bind]
  exact h hdirectory

theorem confined_change {f : Tree → Except FileError Tree} {explain : FileError → String}
    (h : ∀ made, tree.node? base = some .directory → f tree = .ok made → tree.Inside base made) :
    Confined base (change f explain) tree := by
  unfold change
  refine confined_get ?_
  cases hf : f tree with
  | error e => exact confined_throw _
  | ok made => exact fun hdirectory => h made hdirectory hf

/-- Work with another message. -/
theorem Confined.explaining {work : Unpacking Unit} {message : String}
    (h : Confined base work tree) : Confined base (explaining message work) tree := by
  have hrun : ((Files.explaining message work).run.run tree).2 = (work.run.run tree).2 := by
    unfold Files.explaining ExceptT.run StateT.run
    simp only [tryCatch, tryCatchThe, MonadExceptOf.tryCatch, ExceptT.tryCatch, ExceptT.mk,
      Bind.bind, StateT.bind]
    generalize work tree = found
    obtain ⟨answer, later⟩ := found
    cases answer <;> rfl
  intro hdirectory
  rw [hrun]
  exact h hdirectory

/-- Work on one thing after another. -/
theorem confined_forM {things : List β} {step : β → Unpacking PUnit}
    (h : ∀ thing ∈ things, ∀ tree, Confined base (step thing) tree) (tree : Tree) :
    Confined base (things.forM step) tree := by
  induction things generalizing tree with
  | nil => exact confined_pure _
  | cons thing things ih =>
    exact (h thing List.mem_cons_self tree).bind fun _ later _ =>
      ih (fun thing hthing => h thing (List.mem_cons_of_mem _ hthing)) later

/-- A check changes nothing, and if it is passed, what was checked is at or below the directory. -/
theorem run_checkInside (base : Location) (path : String) (tree : Tree) :
    (∃ message, (checkInside base path).run.run tree = (.error message, tree)) ∨
      (checkInside base path).run.run tree = (.ok (), tree) ∧
        ∃ location, tree.canonical path = .ok location ∧ base <+: location := by
  have hget : (get : Unpacking Tree).run.run tree = (.ok tree, tree) := rfl
  unfold checkInside
  rw [run_bind, hget]
  dsimp only
  cases tree.canonical path with
  | error e => exact .inl ⟨_, rfl⟩
  | ok location =>
    dsimp only
    split
    · next hbelow => exact .inr ⟨rfl, location, rfl, List.isPrefixOf_iff_prefix.1 hbelow⟩
    · exact .inl ⟨_, rfl⟩

/-- Work that follows a check. -/
theorem confined_checkInside {next : Unit → Unpacking α}
    (h : ∀ location, tree.canonical path = .ok location → base <+: location →
      Confined base (next ()) tree) : Confined base (checkInside base path >>= next) tree := by
  obtain ⟨message, hstopped⟩ | ⟨hpassed, location, hlocation, hbelow⟩ :=
    run_checkInside base path tree
  · intro hdirectory
    rw [run_bind, hstopped]
    exact .refl hdirectory
  · intro hdirectory
    rw [run_bind, hpassed]
    exact h location hlocation hbelow hdirectory

/-- Work on one thing after another, in a loop. -/
theorem confined_forIn {things : List β} {step : β → PUnit → Unpacking (ForInStep PUnit)}
    (h : ∀ thing ∈ things, ∀ tree, Confined base (step thing ⟨⟩) tree) (tree : Tree) :
    Confined base (forIn things ⟨⟩ step) tree := by
  induction things generalizing tree with
  | nil => exact confined_pure _
  | cons thing things ih =>
    rw [List.forIn_cons]
    refine (h thing List.mem_cons_self tree).bind fun outcome later _ => ?_
    cases outcome with
    | done => exact confined_pure _
    | yield => exact ih (fun thing hthing => h thing (List.mem_cons_of_mem _ hthing)) later

/-! ### Entries of archives -/

/-- Missing directories are made in directories that are checked. -/
theorem confined_makeMissing (h : location.IsProper) (tree : Tree) :
    Confined base (makeMissing base (Path.ancestors location.path)) tree := by
  unfold makeMissing
  refine Confined.bind (fun hdirectory => .refl hdirectory) fun current later hcurrent => ?_
  dsimp only
  refine Confined.bind (confined_forIn (fun parent hmem tree => ?_) later) fun _ _ _ =>
    confined_pure _
  obtain ⟨front, hfront, rfl⟩ := exists_of_mem_ancestors h
    ((List.takeWhile_sublist _).subset (List.mem_reverse.1 hmem))
  obtain rfl | ⟨outer, name, rfl⟩ := front.eq_nil_or_concat
  · -- the root is there
    rw [parent?_root]
    refine Confined.bind (confined_change fun made hdirectory hmade => ?_) fun _ _ _ =>
      confined_pure _
    change tree.makeDirectories "/" = .ok made at hmade
    rw [(isAt_root tree).makeDirectories hmade]
    exact .refl hdirectory
  · rw [List.concat_eq_append] at hfront ⊢
    have houter : Location.IsProper outer := fun name hname =>
      hfront name (List.mem_append_left _ hname)
    have hname := hfront name (by simp)
    rw [parent?_path houter hname]
    refine confined_checkInside fun location hparent hbelow => ?_
    refine Confined.bind (confined_change fun made hdirectory hmade => ?_) fun _ _ _ =>
      confined_pure _
    rw [path_concat houter hname.noSlash] at hmade
    exact makeDirectories_inside hname hparent hdirectory hbelow hmade

section Entry

variable (hname : IsPlain name) (hparent : tree.canonical path = .ok location)
  (hbelow : base <+: location)

include hname hparent hbelow

/-- Something is put in place of a file. -/
theorem confined_replaceFile (node : Node) :
    Confined base (replaceFile (join path name) (·.create (join path name) node)) tree := by
  unfold replaceFile
  refine confined_get (confined_change fun made hdirectory hmade => ?_)
  split at hmade
  · exact replace_inside hname hparent hdirectory hbelow hmade
  · exact create_inside hname hparent hdirectory hbelow hmade

/-- An entry is put below a directory. -/
theorem confined_putEntry (entry : Entry) :
    Confined base (putEntry base entry (join path name)) tree := by
  unfold putEntry
  extract_lets makeDirectory
  have hmake : Confined base makeDirectory tree := by
    refine confined_change fun made hdirectory hmade => ?_
    split at hmade
    · split at hmade <;> cases hmade
      exact .refl hdirectory
    · exact makeDirectory_inside hname hparent hdirectory hbelow hmade
  cases entry.kind with
  | directory => exact hmake
  | symlink target => exact confined_replaceFile hname hparent hbelow _
  | hardlink target =>
    refine confined_checkInside fun _ _ _ => confined_change fun made hdirectory hmade => ?_
    obtain ⟨node, hmade⟩ := makeHardLink_eq_ok hmade
    exact create_inside hname hparent hdirectory hbelow hmade
  | file =>
    dsimp only
    split
    · exact hmake
    · exact confined_replaceFile hname hparent hbelow _

end Entry

/-- An entry of an archive changes nothing but what is in the directory. -/
theorem confined_unpackEntry (hbase : base.IsProper) (entry : Entry) (tree : Tree) :
    Confined base (unpackEntry base entry) tree := by
  unfold unpackEntry
  split
  · exact confined_pure _
  · exact confined_pure _
  · next names hne hnames =>
    obtain rfl | ⟨front, name, rfl⟩ := names.eq_nil_or_concat
    · exact absurd rfl hne
    · rw [List.concat_eq_append] at hnames ⊢
      have hproper := isProper_of_names? hnames
      have hname := hproper name (by simp)
      have hparents : Location.IsProper (base ++ front) := fun other hother => by
        obtain hother | hother := List.mem_append.1 hother
        · exact hbase other hother
        · exact hproper other (List.mem_append_left _ hother)
      rw [List.dropLast_concat, ← List.append_assoc, path_concat hparents hname.noSlash]
      dsimp only
      refine (confined_makeMissing hparents tree).explaining.bind fun _ later _ => ?_
      exact confined_checkInside fun location hlocation hbelow =>
        (confined_putEntry hname hlocation hbelow entry).explaining

theorem confined_unpackEntries (hbase : base.IsProper) (entries : List Entry) (tree : Tree) :
    Confined base (unpackEntries base entries) tree := by
  unfold unpackEntries
  refine Confined.bind (confined_forM (fun entry _ => confined_unpackEntry hbase entry) tree) ?_
  exact fun _ later _ => confined_forM (fun entry _ => confined_unpackEntry hbase entry) later

theorem confined_archive (archive : Content) (hbase : base.IsProper) (hat : tree.IsAt path base) :
    Confined base (match archive, tree.canonical path with
      | .archive entries false, .ok base => unpackEntries base entries
      | _, _ => throw "failed to iterate over archive") tree := by
  split
  · next hcanonical =>
    obtain rfl := hat.of_canonical hcanonical
    exact confined_unpackEntries hbase _ tree
  · exact confined_throw _

/-! ### Files of archives -/

variable {later : Tree} {directory : String} {entry : Entry}

theorem run_change {f : Tree → Except FileError Tree} {explain : FileError → String}
    (h : f tree = .ok later) : (change f explain).run.run tree = (.ok (), later) := by
  have hget : (get : Unpacking Tree).run.run tree = (.ok tree, tree) := rfl
  unfold change
  rw [run_bind, hget]
  dsimp only
  rw [h]
  rfl

theorem run_explaining {work : Unpacking Unit} (message : String)
    (h : work.run.run tree = (.ok (), later)) :
    (explaining message work).run.run tree = (.ok (), later) := by
  unfold explaining ExceptT.run StateT.run at *
  simp only [tryCatch, tryCatchThe, MonadExceptOf.tryCatch, ExceptT.tryCatch, ExceptT.mk,
    Bind.bind, StateT.bind]
  rw [h]
  rfl

/-- One piece of work after another that did not stop. -/
theorem run_bind_ok {α β : Type} {work : Unpacking α} {next : α → Unpacking β} {answer : α}
    (h : work.run.run tree = (.ok answer, later)) :
    (work >>= next).run.run tree = (next answer).run.run later := by
  rw [run_bind, h]

/-- A directory to which a path leads passes the check. -/
theorem run_checkInside_of_isAt (hat : tree.IsAt location.path location) (hname : IsPlain name)
    (hentry : entryOf location.path name location = .ok (location ++ [name]))
    (hbelow : base <+: location) :
    (checkInside base location.path).run.run tree = (.ok (), tree) := by
  have hget : (get : Unpacking Tree).run.run tree = (.ok tree, tree) := rfl
  have hcanonical : tree.canonical location.path = .ok location := by
    rw [canonical, hat.find_of_entryOf location.path_ne_empty hname hentry]
    rfl
  unfold checkInside
  rw [run_bind_ok hget, hcanonical]
  dsimp only
  rw [if_pos (List.isPrefixOf_iff_prefix.2 hbelow)]
  rfl

/-- The one missing directory is made. -/
theorem run_makeMissing (hbase : base.IsProper) (hname : IsPlain directory)
    (hat : tree.IsAt base.path base)
    (hentry : entryOf base.path directory base = .ok (base ++ [directory]))
    (hnone : tree.node? (base ++ [directory]) = none) :
    (makeMissing base (Path.ancestors (Location.path (base ++ [directory])))).run.run tree =
      (.ok (), tree.put (base ++ [directory]) .directory) := by
  have hpath := path_concat hbase hname.noSlash
  have hmissing : (Path.ancestors (Location.path (base ++ [directory]))).takeWhile
      (fun path => !(tree.find false path).isOk) = [Location.path (base ++ [directory])] := by
    have hgone : (tree.find false (Location.path (base ++ [directory]))).isOk = false := by
      rw [hpath, hat.find_join hname (by simp), hentry]
      simp [Except.bind, hnone, Except.isOk, Except.toBool]
    have hthere := hat.isOk_find base.path_ne_empty hname hentry
    rw [Path.ancestors, parent?_path hbase hname]
    dsimp only
    rw [Path.ancestors, List.takeWhile_cons_of_pos (by simp [hgone]),
      List.takeWhile_cons_of_neg (by simp [hthere])]
  have hget : (get : Unpacking Tree).run.run tree = (.ok tree, tree) := rfl
  have hmade : tree.makeDirectories (Location.path (base ++ [directory])) =
      .ok (tree.put (base ++ [directory]) .directory) := by
    rw [hpath, hat.makeDirectories_join hname (by simp [hnone]), hentry]
    simp only [Except.bind, hnone]
  unfold makeMissing
  rw [run_bind_ok hget]
  dsimp only
  rw [hmissing, List.reverse_singleton, List.forIn_cons, parent?_path hbase hname]
  have hcheck := run_checkInside_of_isAt hat hname hentry (List.prefix_rfl (l := base))
  have hchange : (change (·.makeDirectories (Location.path (base ++ [directory])))
      FileError.message).run.run tree = (.ok (), tree.put (base ++ [directory]) .directory) :=
    run_change hmade
  dsimp only
  simp only [run_bind, hcheck, hchange]
  rfl

/-- A file is put where nothing is. -/
theorem run_putEntry (h : entry.IsFileIn directory name) (hat : tree.IsAt path location)
    (hentry : entryOf path name location = .ok (location ++ [name]))
    (hnone : tree.node? (location ++ [name]) = none) :
    (putEntry base entry (join path name)).run.run tree =
      (.ok (), tree.put (location ++ [name]) (.file entry.content entry.isExecutable)) := by
  have hcreate : tree.create (join path name) (.file entry.content entry.isExecutable) =
      .ok (tree.put (location ++ [name]) (.file entry.content entry.isExecutable)) := by
    unfold create
    rw [hat.locate_join h.isPlain_name (by simp), hentry]
    simp [bind, Except.bind, hnone, pure, Except.pure]
  have hget : (get : Unpacking Tree).run.run tree = (.ok tree, tree) := rfl
  unfold putEntry
  rw [h.kind]
  dsimp only
  rw [h.noSlash]
  simp only [Bool.false_eq_true, ↓reduceIte]
  unfold replaceFile
  rw [run_bind_ok hget]
  dsimp only
  refine run_change ?_
  rw [hcreate]

/-- A file is put into a directory that is made for it. -/
theorem run_unpackEntry (h : entry.IsFileIn directory name) (hbase : base.IsProper)
    (hat : tree.IsAt base.path base)
    (hinner : entryOf base.path directory base = .ok (base ++ [directory]))
    (hentry : entryOf (Location.path (base ++ [directory])) name (base ++ [directory]) =
      .ok (base ++ [directory] ++ [name]))
    (hfree : tree.IsFree (base ++ [directory])) :
    (unpackEntry base entry).run.run tree =
      (.ok (), (tree.put (base ++ [directory]) .directory).put (base ++ [directory] ++ [name])
        (.file entry.content entry.isExecutable)) := by
  have hdirectory := h.isPlain_directory
  have hproper := hbase.concat hdirectory
  have hnone : tree.node? (base ++ [directory]) = none := by simpa using hfree []
  have hmissing := run_makeMissing hbase hdirectory hat hinner hnone
  have hput := fun other => tree.node?_put (base ++ [directory]) other .directory (by simp)
  have hat : (tree.put (base ++ [directory]) .directory).IsAt
      (Location.path (base ++ [directory])) (base ++ [directory]) := by
    rw [path_concat hbase hdirectory.noSlash]
    exact ((extends_put (by simp) hnone).isAt hat).inner hdirectory (short_of_entryOf hinner)
      (by rw [hput, if_pos rfl])
  have hnone : (tree.put (base ++ [directory]) .directory).node?
      (base ++ [directory] ++ [name]) = none := by
    rw [hput, if_neg (by simp)]
    exact hfree [name]
  have hcheck := run_checkInside_of_isAt hat h.isPlain_name hentry
    (List.prefix_append base [directory])
  have hlast : base ++ [directory, name] = base ++ [directory] ++ [name] := by simp
  unfold unpackEntry
  rw [h.names]
  dsimp only [List.dropLast]
  rw [hlast, path_concat hproper h.isPlain_name.noSlash, run_bind_ok (run_explaining _ hmissing),
    run_bind_ok hcheck]
  exact run_explaining _ (run_putEntry h hat hentry hnone)

/-- An archive with one file. -/
theorem run_unpackEntries (h : entry.IsFileIn directory name)
    (hrun : (unpackEntry base entry).run.run tree = (.ok (), later)) :
    (unpackEntries base [entry]).run.run tree = (.ok (), later) := by
  have hpartition : [entry].partition (fun entry => entry.kind == .directory) = ([], [entry]) := by
    have hkind : (entry.kind == .directory) = false := by simp [h.kind]
    simp [List.partition, List.partition.loop, hkind]
  have hforM : ([entry].forM (unpackEntry base)).run.run tree = (.ok (), later) :=
    (run_bind_ok hrun).trans rfl
  unfold unpackEntries
  rw [hpartition]
  dsimp only
  rw [run_bind_ok hforM, List.mergeSort_nil]
  rfl

end Unpacking

section Unpack

variable (hhere : tree.here.IsProper) (hat : tree.IsAt path base) (hname : IsPlain name)
  (hfree : tree.IsFree (base ++ [name]))

include hhere hat hname hfree

/-- Unpacking an archive where nothing is changes nothing else. If the directory for it can be made,
it is there, whatever comes of the entries. -/
theorem unpack_sameBut (archive : Content) {made : Tree}
    (hmade : tree.makeDirectories (join path name) = .ok made) :
    tree.SameBut (base ++ [name]) (unpack archive (join path name) tree).2 ∧
      (unpack archive (join path name) tree).2.node? (base ++ [name]) = some .directory := by
  have hnone : tree.node? (base ++ [name]) = none := by simpa using hfree []
  unfold unpack
  rw [hmade]
  dsimp only
  obtain ⟨hentry, ⟨-, rfl⟩ | ⟨hdirectory, -⟩⟩ :=
    hat.of_makeDirectories_join hname (by simp [hnone]) hmade
  · have hput := fun other => tree.node?_put (base ++ [name]) other .directory (by simp)
    have hinner := ((Tree.extends_put (by simp) hnone).isAt hat).inner hname
      (short_of_entryOf hentry) (by rw [hput, if_pos rfl])
    have hbase : Location.IsProper (base ++ [name]) := (hat.isProper hhere).concat hname
    have hsame : tree.SameBut (base ++ [name]) (tree.put (base ++ [name]) .directory) :=
      Tree.sameBut_put (by simp) .directory
    generalize tree.put (base ++ [name]) .directory = made at hinner hsame
    have hwork := Unpacking.confined_archive archive hbase hinner hinner.directory
    suffices hlater : made.Inside (base ++ [name]) _ from
      ⟨⟨hlater.here.trans hsame.here, fun other hother =>
        (hlater.elsewhere other hother).trans (hsame.elsewhere other hother)⟩, hlater.directory⟩
    split
    · next heq => exact congrArg Prod.snd heq ▸ hwork
    · next heq => exact congrArg Prod.snd heq ▸ hwork
  · rw [hnone] at hdirectory
    cases hdirectory

theorem unpack_disturbs {archive : Content} :
    tree.Disturbs (base ++ [name]) (unpack archive (join path name) tree).2 := by
  cases hmade : tree.makeDirectories (join path name) with
  | error e =>
    rw [unpack, hmade]
    exact ⟨⟨rfl, fun _ _ => rfl⟩, .inr hfree⟩
  | ok made =>
    obtain ⟨hsame, hdirectory⟩ := unpack_sameBut hhere hat hname hfree archive hmade
    exact ⟨hsame, .inl hdirectory⟩

/-- An archive with one file in a directory is unpacked if no path is too long. -/
theorem unpack_file {entry : Entry} {directory file : String} (h : entry.IsFileIn directory file)
    (hpath : Location.path (base ++ [name]) = join path name)
    (hentry : entryOf path name base = .ok (base ++ [name]))
    (hinner : entryOf (join path name) directory (base ++ [name]) =
      .ok (base ++ [name] ++ [directory]))
    (hlast : entryOf (Location.path (base ++ [name] ++ [directory])) file
      (base ++ [name] ++ [directory]) = .ok (base ++ [name] ++ [directory] ++ [file])) :
    ∃ later, unpack (.archive [entry] false) (join path name) tree = (.ok (), later) ∧
      later.under (base ++ [name]) [directory] = some .directory ∧
      later.under (base ++ [name]) [directory, file] =
        some (.file entry.content entry.isExecutable) := by
  have hnone : tree.node? (base ++ [name]) = none := by simpa using hfree []
  have hmade : tree.makeDirectories (join path name) =
      .ok (tree.put (base ++ [name]) .directory) := by
    rw [hat.makeDirectories_join hname (by simp [hnone]), hentry]
    simp only [Except.bind, hnone]
  have hput := fun other => tree.node?_put (base ++ [name]) other .directory (by simp)
  have hbase : Location.IsProper (base ++ [name]) := (hat.isProper hhere).concat hname
  have hat' : (tree.put (base ++ [name]) .directory).IsAt (join path name) (base ++ [name]) :=
    ((Tree.extends_put (by simp) hnone).isAt hat).inner hname (short_of_entryOf hentry)
      (by rw [hput, if_pos rfl])
  have hcanonical : (tree.put (base ++ [name]) .directory).canonical (join path name) =
      .ok (base ++ [name]) := by
    rw [Tree.canonical, hat'.find_of_entryOf (join_ne_empty path hname) h.isPlain_directory hinner]
    rfl
  have hfree' : (tree.put (base ++ [name]) .directory).IsFree (base ++ [name] ++ [directory]) := by
    intro rest
    unfold Tree.under
    rw [hput, if_neg (by simp)]
    simpa [Tree.under] using hfree (directory :: rest)
  rw [← hpath] at hat' hinner
  have hrun := Unpacking.run_unpackEntries h
    (Unpacking.run_unpackEntry h hbase hat' hinner hlast hfree')
  unfold unpack
  rw [hmade]
  dsimp only
  rw [hcanonical]
  dsimp only
  rw [hrun]
  refine ⟨_, rfl, ?_, ?_⟩
  · rw [Tree.under, Tree.node?_put _ _ _ _ (by simp), if_neg (by simp),
      Tree.node?_put _ _ _ _ (by simp), if_pos rfl]
  · rw [Tree.under, Tree.node?_put _ _ _ _ (by simp), if_pos (by simp)]

end Unpack

end Sandbox.Files
