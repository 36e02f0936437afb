import Sandbox.Proofs.Files.Walking

/-!
# What changes leave as it was

Every change of files by paths, as a change at locations. Directories are only ever added to what
there is; a renaming takes all that is below a location to another one and touches nothing else.

## Main definitions

* `Tree.under` : what stands at and below a location.
* `Tree.SameBut`, `Tree.Disturbs` : a change of what is at and below a location.

## Main results

* `Tree.makeDirectories_extends` : making directories takes nothing away.
* `Tree.IsAt.makeDirectories` : a directory that is there is not made again.
* `Tree.IsAt.makeDirectories_join`, `Tree.IsAt.write_join`, `Tree.IsAt.of_removeTree_join`,
  `Tree.IsAt.rename_join` : changes of the entries of a directory.
* `Tree.node?_move_target`, `Tree.node?_move_source`, `Tree.node?_move_other` : what stands where
  after a renaming.
* `Tree.SameBut.under` : what stands beside the entry that has changed.
-/

namespace Sandbox.Files

open Sandbox.Path (Component join)

/-! ### Slashes at the end -/

theorem join_eq_append (path name : String) : ∃ front, join path name = front ++ name := by
  unfold join
  split
  · exact ⟨"", by simp⟩
  · split
    · exact ⟨path, rfl⟩
    · exact ⟨path ++ "/", rfl⟩

/-- Entries of one directory have different paths. -/
theorem join_inj (path : String) {name name' : String} (h : '/' ∉ name.toList)
    (h' : '/' ∉ name'.toList) : join path name = join path name' ↔ name = name' := by
  refine ⟨fun heq => ?_, fun heq => heq ▸ rfl⟩
  unfold join at heq
  rw [isAbsolute_eq_false h, isAbsolute_eq_false h'] at heq
  split at heq
  · exact heq
  · split at heq <;> simpa [← String.toList_inj] using heq

namespace Tree

/-- The path of an entry has no slash at its end. -/
theorem withoutSlashes_join (path : String) {name : String} (hname : IsPlain name) :
    withoutSlashes (join path name) = join path name := by
  obtain ⟨front, hjoin⟩ := join_eq_append path name
  have hkeep : (join path name).toList.reverse.dropWhile (· == '/') =
      (join path name).toList.reverse := by
    rw [hjoin, String.toList_append, List.reverse_append]
    cases hreverse : name.toList.reverse with
    | nil => exact absurd (by simpa using hreverse) hname.isEntry.1
    | cons c cs =>
      have hmem : c ∈ name.toList := by
        rw [← List.mem_reverse, hreverse]
        exact List.mem_cons_self
      have hc : (c == '/') = false := by
        simpa using fun heq : c = '/' => hname.noSlash (heq ▸ hmem)
      simp [hc]
  unfold withoutSlashes
  rw [hkeep, List.reverse_reverse]
  have hne : (join path name).toList ≠ [] := by simpa using join_ne_empty path hname
  simp [hne]

theorem steps_slashes {front : String} (hfront : front ≠ "") (count : Nat) :
    steps (String.ofList (front.toList ++ List.replicate count '/')) =
      steps front ++ List.replicate count .here := by
  induction count with
  | zero => simp
  | succ count ih =>
    have hpath : String.ofList (front.toList ++ List.replicate (count + 1) '/') =
        String.ofList (front.toList ++ List.replicate count '/') ++ "/" ++ "" := by
      apply String.toList_inj.1
      simp [List.replicate_succ']
    have hne : String.ofList (front.toList ++ List.replicate count '/') ≠ "" := by
      intro h
      have := congrArg String.toList h
      simp_all
    rw [hpath, steps_slash "" hne, ih, List.replicate_succ', ← List.append_assoc]
    rfl

/-- The slashes at the end of a path stay where one is. -/
theorem steps_withoutSlashes {path : String} (hpath : path ≠ "") :
    withoutSlashes path ≠ "" ∧
      ∃ count, steps path = steps (withoutSlashes path) ++ List.replicate count .here := by
  unfold withoutSlashes
  dsimp only
  split
  · exact ⟨hpath, 0, by simp⟩
  · next hne =>
    have hall := List.takeWhile_append_dropWhile (p := (· == '/')) (l := path.toList.reverse)
    have hslashes := List.all_takeWhile (p := (· == '/')) (l := path.toList.reverse)
    generalize path.toList.reverse.dropWhile (· == '/') = front at hne hall ⊢
    generalize path.toList.reverse.takeWhile (· == '/') = slashes at hall hslashes
    have hne : String.ofList front.reverse ≠ "" := by simpa using hne
    have hslashes : slashes = List.replicate slashes.length '/' :=
      List.eq_replicate_of_mem fun c hc => by simpa using List.all_eq_true.1 hslashes c hc
    have hpath : path = String.ofList ((String.ofList front.reverse).toList ++
        List.replicate slashes.length '/') := by
      apply String.toList_inj.1
      have hall := congrArg List.reverse hall
      rw [List.reverse_append, List.reverse_reverse, hslashes, List.reverse_replicate] at hall
      simpa using hall.symm
    refine ⟨hne, slashes.length, ?_⟩
    conv => lhs; rw [hpath]
    exact steps_slashes hne _

/-! ### Making directories -/

variable {tree made : Tree} {path name : String} {base location : Location} {node : Node}

theorem extends_put (hne : location ≠ []) (hnode : tree.node? location = none) :
    tree.Extends (tree.put location node) where
  here := rfl
  keeps other found hfound := by
    rw [node?_put tree location other node hne, if_neg]
    · exact hfound
    · rintro rfl
      simp [hnode] at hfound

theorem Extends.refl (tree : Tree) : tree.Extends tree :=
  ⟨rfl, fun _ _ h => h⟩

theorem Extends.trans {grown : Tree} (h : tree.Extends made) (h' : made.Extends grown) :
    tree.Extends grown :=
  ⟨h'.here.trans h.here, fun _ _ hnode => h'.keeps _ _ (h.keeps _ _ hnode)⟩

theorem create_eq_ok (h : tree.create path node = .ok made) :
    ∃ location, tree.locate false path = .ok location ∧ tree.node? location = none ∧
      made = tree.put location node := by
  unfold create at h
  cases hlocate : tree.locate false path with
  | error e => simp [hlocate, bind, Except.bind] at h
  | ok location =>
    simp only [hlocate, bind, Except.bind] at h
    cases hnode : tree.node? location with
    | some _ => simp [hnode, throw, throwThe, MonadExceptOf.throw] at h
    | none =>
      simp only [hnode, pure, Except.pure] at h
      cases h
      exact ⟨location, rfl, hnode, rfl⟩

theorem create_extends (h : tree.create path node = .ok made) : tree.Extends made := by
  obtain ⟨location, -, hnode, rfl⟩ := create_eq_ok h
  refine extends_put ?_ hnode
  rintro rfl
  simp [node?_nil] at hnode

/-- A directory that is there at last was made, or was there, once its parents were there. -/
theorem makeDirectoriesFrom_eq_ok {parents : List String} (hpath : path ≠ "")
    (h : tree.makeDirectoriesFrom (path :: parents) = .ok made) :
    ∃ middle, (middle = tree ∨ tree.makeDirectoriesFrom parents = .ok middle) ∧
      (middle.makeDirectory path = .ok made ∨ made = middle ∧ made.isDirectory path = true) := by
  have hempty : path.isEmpty = false := by simpa using hpath
  rw [makeDirectoriesFrom, hempty] at h
  simp only [Bool.false_eq_true, ↓reduceIte] at h
  split at h
  · next hmade =>
    cases h
    exact ⟨tree, .inl rfl, .inl hmade⟩
  · cases hparents : tree.makeDirectoriesFrom parents with
    | error e => simp [hparents, bind, Except.bind] at h
    | ok middle =>
      refine ⟨middle, .inr rfl, ?_⟩
      simp only [hparents, bind, Except.bind] at h
      split at h
      · next hmade =>
        cases h
        exact .inl hmade
      · split at h
        · next hthere =>
          cases h
          exact .inr ⟨rfl, hthere⟩
        · cases h
  · split at h
    · next hthere =>
      cases h
      exact ⟨tree, .inl rfl, .inr ⟨rfl, hthere⟩⟩
    · cases h

theorem makeDirectoriesFrom_extends {paths : List String}
    (h : tree.makeDirectoriesFrom paths = .ok made) : tree.Extends made := by
  induction paths generalizing made with
  | nil => simp [makeDirectoriesFrom] at h
  | cons path parents ih =>
    by_cases hpath : path = ""
    · rw [makeDirectoriesFrom, hpath] at h
      cases h
      exact .refl tree
    · obtain ⟨middle, hmiddle, hmade⟩ := makeDirectoriesFrom_eq_ok hpath h
      have hextends : tree.Extends middle := by
        obtain rfl | hmiddle := hmiddle
        · exact .refl middle
        · exact ih hmiddle
      obtain hmade | ⟨rfl, -⟩ := hmade
      · exact hextends.trans (create_extends hmade)
      · exact hextends

/-- Making a directory takes nothing away. -/
theorem makeDirectories_extends (h : tree.makeDirectories path = .ok made) : tree.Extends made :=
  makeDirectoriesFrom_extends h

theorem makeDirectories_cons (tree : Tree) (path : String) :
    ∃ parents, tree.makeDirectories path = tree.makeDirectoriesFrom (path :: parents) := by
  unfold makeDirectories
  rw [Path.ancestors]
  exact ⟨_, rfl⟩

/-- A directory that cannot be made, though its parent is there, is made no further. -/
theorem makeDirectories_of_error {e : FileError} (hpath : path ≠ "")
    (he : tree.makeDirectory path = .error e) (hne : e ≠ .notFound) :
    tree.makeDirectories path = if tree.isDirectory path then .ok tree else .error e := by
  obtain ⟨parents, hparents⟩ := tree.makeDirectories_cons path
  rw [hparents, makeDirectoriesFrom, he]
  have hempty : path.isEmpty = false := by simpa using hpath
  simp only [hempty, Bool.false_eq_true, ↓reduceIte]

/-- Something stands at the end of each first part of a way to a directory. -/
theorem IsAt.exists_stop {front rest : List Component} (h : tree.IsAt path base)
    (hsteps : steps path = front ++ rest) (hroot : .root ∉ rest) :
    ∃ stop, tree.walk false linkLimit tree.here front = .ok stop ∧ (tree.node? stop).isSome := by
  have hleads := h.leads
  rw [hsteps] at hleads
  cases rest with
  | nil => exact walk_nofollow (by simpa using hleads) (by simp [h.directory])
  | cons step rest =>
    obtain ⟨middle, left, hmiddle, hend⟩ := walk_of_append hleads (by simp)
    have hdirectory : tree.isDirectoryAt middle = true := by
      cases walks_of_walk hend with
      | root => simp at hroot
      | here hdirectory | up hdirectory | new _ hdirectory | last _ hdirectory
      | link hdirectory | entry hdirectory => exact hdirectory
    exact walk_nofollow hmiddle (by simp [isDirectoryAt_iff.1 hdirectory])

/-- A directory that is there is not made again; at most, its path cannot be used. -/
theorem IsAt.makeDirectories_eq (h : tree.IsAt path base) :
    ∃ e, tree.makeDirectories path =
      if path = "" ∨ tree.isDirectory path = true then .ok tree else .error e := by
  by_cases hpath : path = ""
  · subst hpath
    obtain ⟨parents, hparents⟩ := tree.makeDirectories_cons ""
    exact ⟨.notFound, by rw [hparents, makeDirectoriesFrom]; rfl⟩
  · obtain ⟨hne, count, hsteps⟩ := steps_withoutSlashes hpath
    obtain ⟨stop, hstop, hnode⟩ := h.exists_stop hsteps (by simp)
    obtain ⟨e, he, hne⟩ : ∃ e, tree.makeDirectory path = .error e ∧ e ≠ .notFound := by
      have hempty : (withoutSlashes path).isEmpty = false := by simpa using hne
      obtain ⟨node, hnode⟩ := Option.isSome_iff_exists.1 hnode
      unfold makeDirectory create locate
      rw [hstop, hempty]
      simp only [Bool.false_eq_true, ↓reduceIte]
      split
      · exact ⟨.pathCutShort, rfl, by simp⟩
      · split
        · exact ⟨.nameTooLong, rfl, by simp⟩
        · exact ⟨.alreadyExists, by simp [hnode, bind, Except.bind, throw, throwThe,
            MonadExceptOf.throw], by simp⟩
    refine ⟨e, ?_⟩
    rw [makeDirectories_of_error hpath he hne]
    simp only [hpath, false_or]

theorem IsAt.makeDirectories (h : tree.IsAt path base)
    (hmade : tree.makeDirectories path = .ok made) : made = tree := by
  obtain ⟨e, heq⟩ := h.makeDirectories_eq
  rw [heq] at hmade
  split at hmade <;> cases hmade
  rfl

/-- A directory is not made again if the path of an entry can be used. -/
theorem IsAt.makeDirectories_of_entryOf (h : tree.IsAt path base) (hname : IsPlain name)
    (hentry : entryOf path name base = .ok location) : tree.makeDirectories path = .ok tree := by
  obtain ⟨e, heq⟩ := h.makeDirectories_eq
  rw [heq, if_pos]
  by_cases hpath : path = ""
  · exact .inl hpath
  · refine .inr ?_
    rw [isDirectory, h.find_of_entryOf hpath hname hentry]
    rfl

/-- Something is found by the path of a directory also if no link at its end is followed. -/
theorem IsAt.isOk_find (h : tree.IsAt path base) (hpath : path ≠ "") (hname : IsPlain name)
    (hentry : entryOf path name base = .ok location) : (tree.find false path).isOk = true := by
  obtain ⟨stop, hstop, hnode⟩ := h.exists_stop (List.append_nil _).symm (by simp)
  obtain ⟨node, hnode⟩ := Option.isSome_iff_exists.1 hnode
  unfold find
  rw [tree.locate_of_entryOf false hpath hname hentry, hstop]
  simp [bind, Except.bind, hnode, pure, Except.pure, Except.isOk, Except.toBool]

/-- Whether a directory is found by the path of an entry. -/
theorem IsAt.isDirectory_join (h : tree.IsAt path base) (hname : IsPlain name)
    (hlink : ∀ target, tree.node? (base ++ [name]) ≠ some (.link target)) :
    tree.isDirectory (join path name) =
      match entryOf path name base with
      | .ok location => tree.isDirectoryAt location
      | .error _ => false := by
  unfold isDirectory
  rw [h.find_join hname fun _ => hlink]
  cases entryOf path name base with
  | error e => rfl
  | ok location =>
    cases hnode : tree.node? location <;> simp [Except.bind, hnode, isDirectoryAt]

/-- Making one directory in a directory. -/
theorem IsAt.makeDirectory_join (h : tree.IsAt path base) (hname : IsPlain name) :
    tree.makeDirectory (join path name) =
      (entryOf path name base).bind fun location =>
        match tree.node? location with
        | some _ => .error .alreadyExists
        | none => .ok (tree.put location .directory) := by
  unfold makeDirectory create
  rw [withoutSlashes_join path hname, h.locate_join hname (by simp)]
  rfl

/-- Making a directory in a directory. Its parents are there already. -/
theorem IsAt.makeDirectories_join (h : tree.IsAt path base) (hname : IsPlain name)
    (hlink : ∀ target, tree.node? (base ++ [name]) ≠ some (.link target)) :
    tree.makeDirectories (join path name) =
      (entryOf path name base).bind fun location =>
        match tree.node? location with
        | none => .ok (tree.put location .directory)
        | some .directory => .ok tree
        | some _ => .error .alreadyExists := by
  have hpath := join_ne_empty path hname
  have hmake := h.makeDirectory_join hname
  have hdirectory := h.isDirectory_join hname hlink
  cases hentry : entryOf path name base with
  | error e =>
    have hne := entryOf_ne_notFound path name base
    rw [hentry] at hne hmake hdirectory
    rw [makeDirectories_of_error hpath hmake (by simpa using hne), hdirectory]
    rfl
  | ok location =>
    rw [hentry] at hmake hdirectory
    dsimp only [Except.bind] at hmake hdirectory ⊢
    cases hnode : tree.node? location with
    | none =>
      rw [hnode] at hmake
      obtain ⟨parents, hparents⟩ := tree.makeDirectories_cons (join path name)
      have hempty : (join path name).isEmpty = false := by simpa using hpath
      rw [hparents, makeDirectoriesFrom, hmake]
      simp only [hempty, Bool.false_eq_true, ↓reduceIte]
    | some node =>
      rw [hnode] at hmake
      rw [makeDirectories_of_error hpath hmake (by simp), hdirectory]
      unfold isDirectoryAt
      cases node <;> simp [hnode, Node.isDirectory]

theorem IsAt.of_makeDirectories_join (h : tree.IsAt path base) (hname : IsPlain name)
    (hlink : ∀ target, tree.node? (base ++ [name]) ≠ some (.link target))
    (hmade : tree.makeDirectories (join path name) = .ok made) :
    entryOf path name base = .ok (base ++ [name]) ∧
      (tree.node? (base ++ [name]) = none ∧ made = tree.put (base ++ [name]) .directory ∨
        tree.node? (base ++ [name]) = some .directory ∧ made = tree) := by
  rw [h.makeDirectories_join hname hlink] at hmade
  cases hentry : entryOf path name base with
  | error e => simp [hentry, Except.bind] at hmade
  | ok location =>
    obtain rfl := eq_of_entryOf hentry
    simp only [hentry, Except.bind] at hmade
    refine ⟨rfl, ?_⟩
    split at hmade
    · next hnone =>
      cases hmade
      exact .inl ⟨hnone, rfl⟩
    · next hdirectory =>
      cases hmade
      exact .inr ⟨hdirectory, rfl⟩
    · cases hmade

/-! ### Changing entries -/

/-- Writing the file that is an entry. -/
theorem IsAt.write_join {content : Content} (h : tree.IsAt path base) (hname : IsPlain name)
    (hlink : ∀ target, tree.node? (base ++ [name]) ≠ some (.link target)) :
    tree.write (join path name) content =
      (entryOf path name base).bind fun location =>
        match tree.node? location with
        | some .directory => .error .isADirectory
        | some (.file _ isExecutable) => .ok (tree.put location (.file content isExecutable))
        | _ => .ok (tree.put location (.file content false)) := by
  unfold write
  rw [h.locate_join hname fun _ => hlink]
  rfl

theorem IsAt.of_write_join {content : Content} (h : tree.IsAt path base) (hname : IsPlain name)
    (hlink : ∀ target, tree.node? (base ++ [name]) ≠ some (.link target))
    (hmade : tree.write (join path name) content = .ok made) :
    ∃ isExecutable, made = tree.put (base ++ [name]) (.file content isExecutable) := by
  rw [h.write_join hname hlink] at hmade
  cases hentry : entryOf path name base with
  | error e => simp [hentry, Except.bind] at hmade
  | ok location =>
    obtain rfl := eq_of_entryOf hentry
    simp only [hentry, Except.bind] at hmade
    split at hmade <;> cases hmade
    · exact ⟨_, rfl⟩
    · exact ⟨_, rfl⟩

/-- Removing an entry with all that is in it. -/
theorem IsAt.of_removeTree_join (h : tree.IsAt path base) (hname : IsPlain name)
    (hmade : tree.removeTree (join path name) = .ok made) :
    made = tree.remove (base ++ [name]) := by
  unfold removeTree at hmade
  rw [h.find_join hname (by simp)] at hmade
  cases hentry : entryOf path name base with
  | error e => simp [hentry, bind, Except.bind] at hmade
  | ok location =>
    obtain rfl := eq_of_entryOf hentry
    simp only [hentry, bind, Except.bind] at hmade
    cases hnode : tree.node? (base ++ [name]) with
    | none => simp [hnode] at hmade
    | some node =>
      simp only [hnode] at hmade
      cases node <;> cases hmade <;> rfl

/-- Renaming an entry to one that is not there. -/
theorem IsAt.rename_join {path' name' : String} {base' : Location} (h : tree.IsAt path base)
    (hname : IsPlain name) (h' : tree.IsAt path' base') (hname' : IsPlain name')
    (hfree : tree.node? (base' ++ [name']) = none) :
    tree.rename (join path name) (join path' name') =
      (entryOf path name base).bind fun origin =>
        match tree.node? origin with
        | none => .error .notFound
        | some _ =>
          (entryOf path' name' base').bind fun goal =>
            if origin.isPrefixOf goal then .error .invalidArgument
            else .ok (tree.move origin goal) := by
  unfold rename
  rw [h.find_join hname (by simp), h'.locate_join hname' (by simp)]
  cases hentry : entryOf path name base with
  | error e => rfl
  | ok origin =>
    dsimp only [bind, Except.bind]
    cases hnode : tree.node? origin with
    | none => rfl
    | some node =>
      cases hentry' : entryOf path' name' base' with
      | error e => rfl
      | ok goal =>
        obtain rfl := eq_of_entryOf hentry'
        have hne : base' ++ [name'] ≠ origin := by
          rintro rfl
          rw [hnode] at hfree
          cases hfree
        simp only [hfree, if_neg hne]
        split <;> rfl

theorem IsAt.of_rename_join {path' name' : String} {base' : Location} (h : tree.IsAt path base)
    (hname : IsPlain name) (h' : tree.IsAt path' base') (hname' : IsPlain name')
    (hfree : tree.node? (base' ++ [name']) = none)
    (hmade : tree.rename (join path name) (join path' name') = .ok made) :
    (∃ node, tree.node? (base ++ [name]) = some node) ∧
      entryOf path' name' base' = .ok (base' ++ [name']) ∧
      made = tree.move (base ++ [name]) (base' ++ [name']) := by
  rw [h.rename_join hname h' hname' hfree] at hmade
  cases hentry : entryOf path name base with
  | error e => simp [hentry, Except.bind] at hmade
  | ok origin =>
    obtain rfl := eq_of_entryOf hentry
    simp only [hentry, Except.bind] at hmade
    cases hnode : tree.node? (base ++ [name]) with
    | none => simp [hnode] at hmade
    | some node =>
      cases hentry' : entryOf path' name' base' with
      | error e => simp [hnode, hentry'] at hmade
      | ok goal =>
        obtain rfl := eq_of_entryOf hentry'
        simp only [hnode, hentry'] at hmade
        split at hmade <;> cases hmade
        exact ⟨⟨node, rfl⟩, rfl, rfl⟩

/-- An entry that is renamed takes the place of whatever has that name. -/
theorem IsAt.eq_move_of_rename_join {path' name' : String} {base' : Location}
    (h : tree.IsAt path base) (hname : IsPlain name) (h' : tree.IsAt path' base')
    (hname' : IsPlain name') (hne : base' ++ [name'] ≠ base ++ [name])
    (hmade : tree.rename (join path name) (join path' name') = .ok made) :
    made = tree.move (base ++ [name]) (base' ++ [name']) := by
  unfold rename at hmade
  rw [h.find_join hname (by simp), h'.locate_join hname' (by simp)] at hmade
  cases hentry : entryOf path name base with
  | error e => simp [hentry, bind, Except.bind] at hmade
  | ok origin =>
    obtain rfl := eq_of_entryOf hentry
    cases hnode : tree.node? (base ++ [name]) with
    | none => simp [hentry, hnode, bind, Except.bind] at hmade
    | some node =>
      cases hentry' : entryOf path' name' base' with
      | error e => simp [hentry, hnode, hentry', bind, Except.bind] at hmade
      | ok goal =>
        obtain rfl := eq_of_entryOf hentry'
        simp only [hentry, hnode, hentry', bind, Except.bind, if_neg hne] at hmade
        repeat' split at hmade
        all_goals cases hmade
        all_goals rfl

/-- What stands in a directory is among the names there. -/
theorem mem_childrenAt {name : String} {node : Node}
    (h : tree.node? (base ++ [name]) = some node) : name ∈ tree.childrenAt base := by
  unfold node? at h
  rw [if_neg (by simp), Option.map_eq_some_iff] at h
  obtain ⟨entry, hentry, -⟩ := h
  have hlocation : entry.1 = base ++ [name] := by simpa using List.find?_some hentry
  refine List.mem_filterMap.2 ⟨entry, List.mem_of_find?_eq_some hentry, ?_⟩
  rw [hlocation, childName?, Text.stripStart?_append]

/-- A directory is not replaced by what is in it. -/
theorem IsAt.rename_onto_directory {path' name' : String} {base' : Location}
    (h : tree.IsAt path base) (hname : IsPlain name) (h' : tree.IsAt path' base')
    (hname' : IsPlain name') (hbase : base = base' ++ [name']) :
    tree.rename (join path name) (join path' name') ≠ .ok made := by
  intro hmade
  unfold rename at hmade
  rw [h.find_join hname (by simp), h'.locate_join hname' (by simp)] at hmade
  cases hentry : entryOf path name base with
  | error e => simp [hentry, bind, Except.bind] at hmade
  | ok origin =>
    obtain rfl := eq_of_entryOf hentry
    cases hnode : tree.node? (base ++ [name]) with
    | none => simp [hentry, hnode, bind, Except.bind] at hmade
    | some node =>
      cases hentry' : entryOf path' name' base' with
      | error e => simp [hentry, hnode, hentry', bind, Except.bind] at hmade
      | ok goal =>
        obtain rfl := eq_of_entryOf hentry'
        subst hbase
        have hne : base' ++ [name'] ≠ base' ++ [name'] ++ [name] := by simp
        have hnonempty : (tree.childrenAt (base' ++ [name'])).isEmpty = false := by
          simpa using List.ne_nil_of_mem (mem_childrenAt hnode)
        simp only [hentry, hnode, hentry', bind, Except.bind, if_neg hne, h.directory,
          hnonempty] at hmade
        split at hmade
        · cases hmade
        · split at hmade <;> cases hmade

/-! ### Renaming -/

theorem rebase_append (source target rest : Location) :
    rebase source target (source ++ rest) = target ++ rest := by
  simp [rebase]

theorem rebase_of_not_below {source : Location} (target : Location)
    (h : ¬ source <+: location) : rebase source target location = location := by
  unfold rebase
  split
  · next hrest => exact absurd ⟨_, (Text.eq_append_of_stripStart? hrest).symm⟩ h
  · rfl

/-- What stands at a location that is not the root after a renaming is what stood at the one that
became it. -/
private theorem node?_move_of {source target other origin : Location} (hother : other ≠ [])
    (horigin : origin ≠ [])
    (h : ∀ location, ¬ target <+: location → (rebase source target location = other ↔
      location = origin)) (hfree : ¬ target <+: origin) :
    (tree.move source target).node? other = tree.node? origin := by
  unfold node? move remove
  rw [if_neg hother, if_neg horigin, List.find?_map, List.find?_filter, Option.map_map]
  refine congrArg (Option.map Prod.snd)
    (congrArg (List.find? · tree.entries) (funext fun entry => ?_))
  by_cases hentry : target <+: entry.1
  · have hne : entry.1 ≠ origin := fun heq => hfree (heq ▸ hentry)
    simp [List.isPrefixOf_iff_prefix.2 hentry, hne]
  · have hfalse : target.isPrefixOf entry.1 = false := by
      rw [Bool.eq_false_iff]
      exact fun htrue => hentry (List.isPrefixOf_iff_prefix.1 htrue)
    rw [Bool.eq_iff_iff]
    simpa [hfalse] using h entry.1 hentry

theorem node?_move_other {source target other : Location} (hs : ¬ source <+: other)
    (ht : ¬ target <+: other) :
    (tree.move source target).node? other = tree.node? other := by
  by_cases hroot : other = []
  · simp [hroot, node?_nil]
  · refine node?_move_of hroot hroot (fun location _ => ?_) ht
    by_cases hlocation : source <+: location
    · obtain ⟨rest, rfl⟩ := hlocation
      rw [rebase_append]
      constructor
      · rintro rfl
        exact absurd (List.prefix_append _ _) ht
      · rintro rfl
        exact absurd (List.prefix_append _ _) hs
    · rw [rebase_of_not_below target hlocation]

section Move

variable {source target : Location} (hsource : ¬ source <+: target) (htarget : ¬ target <+: source)

include hsource htarget

private theorem not_prefix_append (rest : Location) : ¬ target <+: source ++ rest := fun h =>
  (List.prefix_or_prefix_of_prefix h (List.prefix_append source rest)).elim htarget hsource

theorem node?_move_target (rest : Location) :
    (tree.move source target).node? (target ++ rest) = tree.node? (source ++ rest) := by
  have hne : ∀ {location : Location}, ¬ location <+: target ∨ ¬ location <+: source →
      location ++ rest ≠ [] := by
    rintro location h heq
    rw [(List.append_eq_nil_iff.1 heq).1] at h
    simp at h
  refine node?_move_of (hne (.inr htarget)) (hne (.inl hsource)) (fun location hfree => ?_)
    (not_prefix_append hsource htarget rest)
  by_cases hlocation : source <+: location
  · obtain ⟨rest', rfl⟩ := hlocation
    rw [rebase_append, List.append_cancel_left_eq, List.append_cancel_left_eq]
  · rw [rebase_of_not_below target hlocation]
    constructor
    · rintro rfl
      exact absurd (List.prefix_append _ _) hfree
    · rintro rfl
      exact absurd (List.prefix_append _ _) hlocation

theorem node?_move_source (rest : Location) :
    (tree.move source target).node? (source ++ rest) = none := by
  have hne : source ++ rest ≠ [] := by
    intro heq
    rw [(List.append_eq_nil_iff.1 heq).1] at hsource
    exact hsource List.nil_prefix
  unfold node? move
  rw [if_neg hne, List.find?_map, Option.map_map, Option.map_eq_none_iff, List.find?_eq_none]
  rintro ⟨location, node⟩ -
  simp only [Function.comp_apply, beq_iff_eq]
  by_cases hlocation : source <+: location
  · obtain ⟨rest', rfl⟩ := hlocation
    rw [rebase_append]
    intro heq
    exact not_prefix_append hsource htarget rest ⟨rest', heq⟩
  · rw [rebase_of_not_below target hlocation]
    rintro rfl
    exact hlocation (List.prefix_append _ _)

end Move

/-! ### Changes below a location -/

/-- What stands at and below a location, by the names on the way from there. -/
def under (tree : Tree) (location rest : Location) : Option Node :=
  tree.node? (location ++ rest)

/-- Nothing stands at or below a location. -/
def IsFree (tree : Tree) (location : Location) : Prop :=
  ∀ rest, tree.under location rest = none

/-- Nothing has changed but what is at and below a location. -/
structure SameBut (tree : Tree) (location : Location) (changed : Tree) : Prop where
  /-- Relative paths begin at the same location. -/
  here : changed.here = tree.here
  /-- Nothing has changed elsewhere. -/
  elsewhere : ∀ other, ¬ location <+: other → changed.node? other = tree.node? other

/-- Nothing has changed but what is at and below a location, where there is now a directory with
anything in it, or nothing. -/
structure Disturbs (tree : Tree) (location : Location) (changed : Tree) : Prop
    extends tree.SameBut location changed where
  /-- There is a directory, or nothing. -/
  inside : changed.node? location = some .directory ∨ changed.IsFree location

variable {changed : Tree} {other : Location}

@[simp] theorem under_nil (tree : Tree) (location : Location) :
    tree.under location [] = tree.node? location := by
  simp [under]

theorem Disturbs.not_link (h : tree.Disturbs location changed) (target : String) :
    changed.node? location ≠ some (.link target) := by
  obtain hdirectory | hfree := h.inside
  · rw [hdirectory]
    simp
  · have hnone := hfree []
    rw [under_nil] at hnone
    rw [hnone]
    simp

theorem Disturbs.isFree (h : tree.Disturbs location changed)
    (hnone : changed.node? location = none) : changed.IsFree location := by
  refine h.inside.resolve_left fun hdirectory => ?_
  rw [hdirectory] at hnone
  cases hnone

theorem sameBut_put (hne : location ≠ []) (node : Node) :
    tree.SameBut location (tree.put location node) where
  here := rfl
  elsewhere other hother := by
    rw [node?_put tree location other node hne, if_neg]
    rintro rfl
    exact hother List.prefix_rfl

theorem sameBut_remove (tree : Tree) (location : Location) :
    tree.SameBut location (tree.remove location) where
  here := rfl
  elsewhere other hother := by
    by_cases hroot : other = []
    · simp [hroot, node?_nil]
    · rw [node?_remove tree location other hroot, if_neg]
      exact fun h => hother (List.isPrefixOf_iff_prefix.1 h)

theorem isFree_remove (tree : Tree) (hne : location ≠ []) :
    (tree.remove location).IsFree location := by
  intro rest
  unfold under
  rw [node?_remove _ _ _ (by simp [hne]), if_pos]
  exact List.isPrefixOf_iff_prefix.2 (List.prefix_append _ _)

/-- Where the same stands as elsewhere, nothing hides if nothing hides there. -/
theorem isFree_of_under (hsame : changed.under other = tree.under location)
    (hfree : tree.node? location = none → tree.IsFree location)
    (hnone : changed.node? other = none) : changed.IsFree other := by
  rw [← under_nil, hsame, under_nil] at hnone
  intro rest
  rw [hsame]
  exact hfree hnone rest

theorem SameBut.up {rest : Location} (h : tree.SameBut (location ++ rest) changed) :
    tree.SameBut location changed where
  here := h.here
  elsewhere other hother := h.elsewhere other fun hbelow =>
    hother ((List.prefix_append _ _).trans hbelow)

theorem not_prefix_of_ne (base : Location) {name name' : String} (hne : name ≠ name')
    (rest : Location) :
    ¬ base ++ [name] <+: base ++ [name'] ++ rest := by
  intro h
  rw [List.append_assoc, List.prefix_append_right_inj, List.singleton_append] at h
  exact hne (List.cons_prefix_cons.1 h).1

/-- What stands in a directory beside the entry that has changed. -/
theorem SameBut.under {name' : String} (h : tree.SameBut (base ++ [name]) changed)
    (hne : name' ≠ name) : changed.under (base ++ [name']) = tree.under (base ++ [name']) :=
  funext fun rest => h.elsewhere _ (not_prefix_of_ne base hne.symm rest)

theorem SameBut.node? {name' : String} (h : tree.SameBut (base ++ [name]) changed)
    (hne : name' ≠ name) : changed.node? (base ++ [name']) = tree.node? (base ++ [name']) := by
  simpa using congrFun (h.under hne) []

theorem under_inj {name : String}
    (h : changed.under (base ++ [name]) = tree.under (base ++ [name])) :
    changed.node? (base ++ [name]) = tree.node? (base ++ [name]) := by
  simpa using congrFun h []

end Tree

end Sandbox.Files
