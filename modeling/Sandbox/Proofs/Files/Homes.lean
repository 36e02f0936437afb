import Sandbox.Proofs.Files.Changing

/-!
# Directories that are removed and made again

A path may pass through what is in the directory to which it leads, as `/a/b/..` does. Where it does
not, the directory can be removed and made again, and there is nothing in it then.

## Main definitions

* `Tree.IsBare` : nothing is in a directory.
* `Tree.IsHome` : a directory that is found without passing through what is in it.
* `Tree.Raised` : an entry of an inner directory has become an entry beside that directory.
* `Tree.IsRemade` : a directory was removed, or removed and made again.

## Main results

* `steps_of_mem_ancestors` : the way to a parent is the first part of the way.
* `Tree.raised_move` : moving an entry up.
* `Tree.IsHome.makeDirectories_remove` : a directory that is made again.
-/

namespace Sandbox.Path

/-! ### Parents -/

theorem splitFront_append (cs : List Char) : (splitFront cs).1 ++ (splitFront cs).2 = cs := by
  unfold splitFront
  split <;> simp

/-- What is dropped ends with a slash, in the order in which the characters are read from the
end. -/
theorem dropTail_eq (cs : List Char) :
    dropTail cs = [] ∨ dropTail cs = cs ∨ ∃ dropped, cs = dropped ++ '/' :: dropTail cs := by
  fun_induction dropTail cs with
  | case1 before ih =>
    obtain hnil | hall | ⟨dropped, hdropped⟩ := ih
    · exact .inl hnil
    · exact .inr (.inr ⟨[], by simp [hall]⟩)
    · exact .inr (.inr ⟨'/' :: dropped, by simpa using hdropped⟩)
  | case2 before ih =>
    obtain hnil | hall | ⟨dropped, hdropped⟩ := ih
    · exact .inl hnil
    · exact .inr (.inr ⟨['.'], by simp [hall]⟩)
    · exact .inr (.inr ⟨'.' :: '/' :: dropped, by simpa using hdropped⟩)
  | case3 => exact .inl rfl
  | case4 => exact .inr (.inl rfl)

/-- Nothing is left without a last name, or what stands before a slash. -/
theorem dropTail_dropWhile {cs : List Char} {c : Char} {before : List Char}
    (h : dropTail cs = c :: before) :
    dropTail ((c :: before).dropWhile (· != '/')) = [] ∨
      ∃ rest, cs = rest ++ '/' :: dropTail ((c :: before).dropWhile (· != '/')) := by
  obtain ⟨tail, htail⟩ : ∃ tail, cs = tail ++ (c :: before) := by
    obtain hnil | hall | ⟨dropped, hdropped⟩ := dropTail_eq cs
    · rw [hnil] at h
      cases h
    · exact ⟨[], by rw [← h, hall, List.nil_append]⟩
    · exact ⟨dropped ++ ['/'], by rw [← h, List.append_assoc]; exact hdropped⟩
  have hsplit := List.takeWhile_append_dropWhile (p := (· != '/')) (l := c :: before)
  have hslash := List.head?_dropWhile_not (· != '/') (c :: before)
  generalize (c :: before).takeWhile (· != '/') = name at hsplit
  generalize (c :: before).dropWhile (· != '/') = left at hsplit hslash ⊢
  cases left with
  | nil => exact .inl rfl
  | cons d left =>
    obtain rfl : d = '/' := by simpa using hslash
    obtain hnil | hall | ⟨dropped, hdropped⟩ := dropTail_eq ('/' :: left)
    · exact .inl hnil
    · have hle := length_dropTail_le left
      rw [dropTail] at hall
      rw [hall, List.length_cons] at hle
      omega
    · refine .inr ⟨tail ++ name ++ dropped, ?_⟩
      rw [htail, ← hsplit, List.append_assoc, List.append_assoc, ← hdropped]

/-- The beginning of a path, on its own. -/
theorem eq_of_splitFront {path : String} {front body : List Char}
    (h : splitFront path.toList = (front, body)) (hbody : body ≠ []) :
    front = [] ∨ front = ['/'] ∨ ∃ rest, path = String.ofList front ++ "/" ++ rest := by
  unfold splitFront at h
  split at h
  · cases h
    exact .inr (.inl rfl)
  · cases h
    exact absurd rfl hbody
  · next rest hpath =>
    cases h
    exact .inr (.inr ⟨String.ofList rest, String.toList_inj.1 (by simp [hpath])⟩)
  · cases h
    exact .inl rfl

/-- A parent is what stands before a slash, unless it is empty or the root. -/
theorem eq_of_parent? {path parent : String} (h : parent? path = some parent) :
    parent = "" ∨ parent = "/" ∨ ∃ rest, path = parent ++ "/" ++ rest := by
  unfold parent? at h
  split at h
  rename_i front body hfront
  have hpath : front ++ body = path.toList := by
    rw [← splitFront_append path.toList, hfront]
  split at h
  · split at h
    · cases h
      exact .inl rfl
    · cases h
  · next c before hbody =>
    cases h
    obtain hnil | ⟨rest, hrest⟩ := dropTail_dropWhile hbody
    · have hne : body ≠ [] := by
        rintro rfl
        simp [dropTail] at hbody
      rw [hnil, List.reverse_nil, List.append_nil]
      obtain rfl | rfl | hrest := eq_of_splitFront hfront hne
      · exact .inl rfl
      · exact .inr (.inl rfl)
      · exact .inr (.inr hrest)
    · have hrest := congrArg List.reverse hrest
      rw [List.reverse_reverse] at hrest
      exact .inr (.inr ⟨String.ofList rest.reverse, String.toList_inj.1 (by simp [← hpath, hrest])⟩)

/-- A path that is the parent of another, or the parent of its parent, and so on, is what stands
before a slash. -/
theorem eq_of_mem_ancestors {path parent : String} (h : parent ∈ ancestors path) :
    parent = path ∨ parent = "" ∨ parent = "/" ∨ ∃ rest, path = parent ++ "/" ++ rest := by
  induction path using ancestors.induct with
  | case1 path ih =>
    rw [ancestors] at h
    obtain rfl | h := List.mem_cons.1 h
    · exact .inl rfl
    · refine .inr ?_
      split at h
      · next next hnext =>
        obtain rfl | hempty | hroot | ⟨rest, rfl⟩ := ih next hnext h
        · exact eq_of_parent? hnext
        · exact .inl hempty
        · exact .inr (.inl hroot)
        · obtain hempty | hroot | ⟨rest', rfl⟩ := eq_of_parent? hnext
          · have := congrArg String.length hempty
            simp at this
          · have := congrArg String.length hroot
            simp only [String.length_append] at this
            exact .inl (String.length_eq_zero_iff.1 (by omega))
          · exact .inr (.inr ⟨rest ++ "/" ++ rest', by simp [String.append_assoc]⟩)
      · cases h

end Sandbox.Path

namespace Sandbox.Files

open Sandbox.Path (Component)

/-- The way to a parent is the first part of the way. -/
theorem steps_of_mem_ancestors {path parent : String} (h : parent ∈ Path.ancestors path)
    (hempty : parent ≠ "") (hroot : parent ≠ "/") :
    ∃ rest, steps path = steps parent ++ rest ∧ .root ∉ rest := by
  obtain rfl | hnot | hnot | ⟨rest, rfl⟩ := Path.eq_of_mem_ancestors h
  · exact ⟨[], by simp⟩
  · exact absurd hnot hempty
  · exact absurd hnot hroot
  · refine ⟨_, steps_slash rest hempty, ?_⟩
    simp only [List.mem_map, not_exists, not_and]
    intro name _
    unfold stepOf Component.ofName
    split
    · simp
    · split <;> simp

namespace Tree

variable {tree changed made : Tree} {path : String} {base location : Location}

/-! ### Homes -/

/-- Nothing is in a directory. -/
def IsBare (tree : Tree) (base : Location) : Prop :=
  ∀ name, tree.IsFree (base ++ [name])

/-- A path leads to a directory on a way that does not pass through what is in it. -/
def IsHome (tree : Tree) (path : String) (base : Location) : Prop :=
  ∃ way : Tree, way.Extends tree ∧ way.IsAt path base ∧
    ∀ location node, way.node? location = some node → base <+: location → location = base

theorem IsHome.isAt (h : tree.IsHome path base) : tree.IsAt path base := by
  obtain ⟨way, hextends, hat, -⟩ := h
  exact hextends.isAt hat

/-- A directory in which nothing is. -/
theorem IsAt.isHome (h : tree.IsAt path base) (hbare : tree.IsBare base) :
    tree.IsHome path base := by
  refine ⟨tree, .refl tree, h, fun location node hnode hbelow => ?_⟩
  obtain ⟨rest, rfl⟩ := hbelow
  cases rest with
  | nil => simp
  | cons name rest =>
    have := hbare name rest
    simp [under, hnode] at this

/-- What is in a directory does not matter on the way to it. -/
theorem IsHome.congr (h : tree.IsHome path base) (hhere : changed.here = tree.here)
    (hsame : ∀ location, (base <+: location → location = base) →
      changed.node? location = tree.node? location) : changed.IsHome path base := by
  obtain ⟨way, hextends, hat, hway⟩ := h
  refine ⟨way, ⟨hhere.trans hextends.here, fun location node hnode => ?_⟩, hat, hway⟩
  rw [hsame location (hway location node hnode)]
  exact hextends.keeps location node hnode

theorem not_prefix_entry {location : Location} (name : String) (rest : Location)
    (h : base <+: location → location = base) : ¬ base ++ [name] ++ rest <+: location := by
  intro hbelow
  rw [List.append_assoc] at hbelow
  have hlocation := h ((List.prefix_append _ _).trans hbelow)
  subst hlocation
  have hlength := hbelow.length_le
  simp only [List.length_append, List.length_singleton] at hlength
  omega

theorem IsHome.sameBut {name : String} (h : tree.IsHome path base)
    (hsame : tree.SameBut (base ++ [name]) changed) : changed.IsHome path base :=
  h.congr hsame.here fun location hlocation =>
    hsame.elsewhere location (by simpa using not_prefix_entry name [] hlocation)

/-! ### Entries that are moved up -/

/-- What was the entry `draft` of the directory `inner` is now an entry beside that directory. -/
structure Raised (tree : Tree) (base : Location) (inner draft name : String) (changed : Tree) :
    Prop where
  /-- Relative paths begin at the same location. -/
  here : changed.here = tree.here
  /-- It is there. -/
  raised : changed.under (base ++ [name]) = tree.under (base ++ [inner] ++ [draft])
  /-- It is not where it was. -/
  gone : changed.IsFree (base ++ [inner] ++ [draft])
  /-- All other entries are as they were. -/
  entries : ∀ other, other ≠ inner → other ≠ name →
    changed.under (base ++ [other]) = tree.under (base ++ [other])
  /-- All other entries of the directory are as they were. -/
  drafts : ∀ other, other ≠ draft →
    changed.under (base ++ [inner] ++ [other]) = tree.under (base ++ [inner] ++ [other])
  /-- The directory is as it was. -/
  inner : changed.node? (base ++ [inner]) = tree.node? (base ++ [inner])
  /-- All that is not in the outer directory is as it was. -/
  outside : ∀ location, (base <+: location → location = base) →
    changed.node? location = tree.node? location

/-- Moving an entry of an inner directory up. -/
theorem raised_move (tree : Tree) (base : Location) {inner name : String} (draft : String)
    (hname : name ≠ inner) : tree.Raised base inner draft name
      (tree.move (base ++ [inner] ++ [draft]) (base ++ [name])) := by
  have hinner : ∀ location, location.length < base.length + 2 →
      ¬ base ++ [inner] ++ [draft] <+: location := fun location hlength hbelow => by
    have := hbelow.length_le
    simp only [List.length_append, List.length_singleton] at this
    omega
  have hsource := hinner (base ++ [name]) (by simp)
  have htarget : ¬ base ++ [name] <+: base ++ [inner] ++ [draft] :=
    not_prefix_of_ne base hname [draft]
  have hother : ∀ location, ¬ base ++ [inner] ++ [draft] <+: location →
      ¬ base ++ [name] <+: location →
        (tree.move (base ++ [inner] ++ [draft]) (base ++ [name])).node? location =
          tree.node? location := fun _ => node?_move_other
  exact {
    here := rfl
    raised := funext (node?_move_target hsource htarget)
    gone := node?_move_source hsource htarget
    entries := fun other hne hne' => funext fun rest => hother _
      (fun hbelow => not_prefix_of_ne base hne.symm rest ((List.prefix_append _ _).trans hbelow))
      (not_prefix_of_ne base hne'.symm rest)
    drafts := fun other hne => funext fun rest => hother _ (not_prefix_of_ne _ hne.symm rest) (by
      have := not_prefix_of_ne base hname ([other] ++ rest)
      rwa [← List.append_assoc] at this)
    inner := hother _ (hinner _ (by simp)) (by simpa using not_prefix_of_ne base hname [])
    outside := fun location hlocation => hother location
      (by simpa using not_prefix_entry inner [draft] hlocation)
      (by simpa using not_prefix_entry name [] hlocation) }

/-! ### Removing -/

theorem locate_eq_ok {follow : Bool} (h : tree.locate follow path = .ok location) :
    path ≠ "" ∧ tree.walk follow linkLimit tree.here (steps path) = .ok location := by
  unfold locate at h
  split at h
  · cases h
  · split at h
    · cases h
    · split at h
      · cases h
      · next hempty _ => exact ⟨by simpa using hempty, h⟩

theorem find_eq_ok {follow : Bool} {node : Node}
    (h : tree.find follow path = .ok (location, node)) :
    tree.locate follow path = .ok location ∧ tree.node? location = some node := by
  unfold find at h
  cases hlocate : tree.locate follow path with
  | error e => simp [hlocate, bind, Except.bind] at h
  | ok other =>
    simp only [hlocate, bind, Except.bind] at h
    split at h
    · next hnode =>
      cases h
      exact ⟨rfl, hnode⟩
    · cases h

/-- The path of a directory that is there leads to it. -/
theorem isAt_of_isDirectory (h : tree.isDirectory path = true) :
    ∃ location, tree.IsAt path location := by
  unfold isDirectory at h
  split at h
  · next location node hfind =>
    obtain ⟨hlocate, hnode⟩ := find_eq_ok hfind
    cases node with
    | directory => exact ⟨location, (locate_eq_ok hlocate).2, hnode⟩
    | file | link => cases h
  · cases h

/-- Where the path of an entry leads somewhere, the directory is there. -/
theorem isAt_of_locate_join {name : String} {follow : Bool} (hname : IsPlain name)
    (h : tree.locate follow (Path.join path name) = .ok location) :
    ∃ base, tree.IsAt path base := by
  obtain ⟨front, hpath, hjoin⟩ := steps_join path hname
  have hwalk := (locate_eq_ok h).2
  rw [hjoin] at hwalk
  obtain ⟨base, left, hfront, hlast⟩ := walk_of_append hwalk (by simp)
  have hdirectory : tree.isDirectoryAt base = true := by
    cases walks_of_walk hlast <;> assumption
  refine ⟨base, ?_, isDirectoryAt_iff.1 hdirectory⟩
  obtain rfl | hhere := hpath
  · exact hfront
  · obtain ⟨left, hleft⟩ := walk_append hfront (by simp [isDirectoryAt_iff.1 hdirectory])
    rw [hhere, hleft true [.here] (by simp), walk_here hdirectory, walk_nil]

theorem exists_join_eq {path name : String} (hname : IsPlain name) (hpath : path ≠ "") :
    ∃ rest, Path.join path name = path ++ rest := by
  have hempty : path.isEmpty = false := by simpa using hpath
  unfold Path.join
  rw [isAbsolute_eq_false hname.noSlash, hempty]
  simp only [Bool.or_self, Bool.false_eq_true, ↓reduceIte]
  split
  · exact ⟨name, rfl⟩
  · exact ⟨"/" ++ name, String.append_assoc⟩

/-- Where the path of an entry leads somewhere, the path of the directory finds it. -/
theorem find_of_locate_join {name : String} {follow : Bool} (hname : IsPlain name)
    (hpath : path ≠ "") (h : tree.locate follow (Path.join path name) = .ok location) :
    ∃ base, tree.find true path = .ok (base, .directory) := by
  obtain ⟨base, hat⟩ := isAt_of_locate_join hname h
  obtain ⟨rest, hjoin⟩ := exists_join_eq hname hpath
  have hempty : path.isEmpty = false := by simpa using hpath
  have hlocate : tree.locate true path = .ok base := by
    unfold locate at h
    split at h
    · cases h
    · next hnul =>
      split at h
      · cases h
      · split at h
        · cases h
        · next hshort =>
          have hnul : ¬ path.toList.contains '\x00' = true := fun hmem => hnul (by
            rw [hjoin, String.toList_append, List.contains_iff_mem, List.mem_append]
            exact .inl (List.contains_iff_mem.1 hmem))
          have hshort : ¬ pathLimit < path.utf8ByteSize := fun hlong => hshort (by
            rw [hjoin, String.utf8ByteSize_append]
            exact Nat.lt_add_right _ hlong)
          rw [locate, if_neg hnul, hempty, if_neg hshort]
          exact hat.leads
  refine ⟨base, ?_⟩
  rw [find, hlocate]
  simp only [bind, Except.bind, hat.directory]
  rfl

/-- Something that is no symbolic link is removed if it is a directory. -/
theorem removeTree_eq_ok (h : tree.removeTree path = .ok made)
    (hlink : ∀ location target, tree.find false path ≠ .ok (location, .link target)) :
    path ≠ "" ∧ ∃ location, tree.IsAt path location ∧ made = tree.remove location := by
  unfold removeTree at h
  cases hfind : tree.find false path with
  | error e => simp [hfind, bind, Except.bind] at h
  | ok found =>
    obtain ⟨location, node⟩ := found
    simp only [hfind, bind, Except.bind] at h
    obtain ⟨hlocate, hnode⟩ := find_eq_ok hfind
    cases node with
    | file => cases h
    | link target => exact absurd hfind (hlink location target)
    | directory =>
      cases h
      obtain ⟨hpath, hwalk⟩ := locate_eq_ok hlocate
      exact ⟨hpath, location, ⟨walk_follow hwalk (by simp [hnode]), hnode⟩, rfl⟩

theorem extends_remove (tree : Tree) (location : Location) :
    (tree.remove location).Extends tree where
  here := rfl
  keeps other node hnode := by
    by_cases hroot : other = []
    · subst hroot
      rwa [node?_nil] at hnode ⊢
    · rw [node?_remove tree location other hroot] at hnode
      split at hnode
      · cases hnode
      · exact hnode

theorem isBare_remove (tree : Tree) (base : Location) : (tree.remove base).IsBare base := by
  intro name rest
  unfold under
  rw [node?_remove _ _ _ (by simp), if_pos]
  rw [List.append_assoc]
  exact List.isPrefixOf_iff_prefix.2 (List.prefix_append _ _)

/-! ### Making again -/

/-- The files without a directory and what is in it, or with the directory made again. -/
inductive IsRemade (tree : Tree) (base : Location) : Tree → Prop
  /-- The directory is not there. -/
  | removed : IsRemade tree base (tree.remove base)
  /-- The directory is there again. -/
  | made (isMissing : (tree.remove base).node? base = none) :
      IsRemade tree base ((tree.remove base).put base .directory)

theorem IsRemade.isBare (h : tree.IsRemade base made) : made.IsBare base := by
  cases h with
  | removed => exact isBare_remove tree base
  | made isMissing =>
    intro name rest
    have hne : base ≠ [] := by
      rintro rfl
      simp [node?_nil] at isMissing
    unfold under
    rw [node?_put _ _ _ _ hne, if_neg (by simp [List.append_assoc])]
    exact isBare_remove tree base name rest

theorem IsRemade.extends (h : tree.IsRemade base made)
    (hdirectory : tree.node? base = some .directory) : made.Extends tree := by
  cases h with
  | removed => exact extends_remove tree base
  | made isMissing =>
    have hne : base ≠ [] := by
      rintro rfl
      simp [node?_nil] at isMissing
    refine ⟨rfl, fun other node hnode => ?_⟩
    rw [node?_put _ _ _ _ hne] at hnode
    split at hnode
    · next heq => rw [heq, hdirectory, ← hnode]
    · exact (extends_remove tree base).keeps other node hnode

/-- Nothing is missing but what was in the directory. -/
theorem IsRemade.node? (h : tree.IsRemade base made) (hbelow : ¬ base <+: location) :
    made.node? location = tree.node? location := by
  cases h with
  | removed => exact (sameBut_remove tree base).elsewhere location hbelow
  | made isMissing =>
    have hne : base ≠ [] := by
      rintro rfl
      simp [node?_nil] at isMissing
    rw [(sameBut_put hne .directory).elsewhere location hbelow]
    exact (sameBut_remove tree base).elsewhere location hbelow

/-- A directory that is made on the way to the one that was removed is that directory, as all others
are there. -/
theorem IsHome.of_makeDirectory {parent : String} (h : tree.IsHome path base)
    (hremade : tree.IsRemade base changed) (hparent : parent ∈ Path.ancestors path)
    (hne : parent ≠ "") (hmade : changed.makeDirectory parent = .ok made) :
    tree.IsRemade base made ∧ made.node? base = some .directory := by
  obtain ⟨location, hlocate, hnone, rfl⟩ := create_eq_ok hmade
  have hwalk := (locate_eq_ok hlocate).2
  have hextends := hremade.extends h.isAt.directory
  have hlocation : location = base := by
    by_cases hroot : parent = "/"
    · subst hroot
      have hsteps : steps (withoutSlashes "/") = [.root, .here] := by decide
      rw [hsteps, walk_root, walk_here (by simp [isDirectoryAt, node?_nil, Node.isDirectory]),
        walk_nil] at hwalk
      cases hwalk
      simp [node?_nil] at hnone
    · obtain ⟨rest, hsteps, hrest⟩ := steps_of_mem_ancestors hparent hne hroot
      obtain ⟨-, count, hslashes⟩ := steps_withoutSlashes hne
      obtain ⟨way, hway, hat, honly⟩ := h
      rw [hslashes, List.append_assoc] at hsteps
      obtain ⟨stop, hstop, hfound⟩ := hat.exists_stop hsteps (by simp [hrest])
      obtain ⟨node, hfound⟩ := Option.isSome_iff_exists.1 hfound
      have hwalk := hextends.walk hwalk (by simp)
      have hstop := hway.walk hstop (by simp)
      rw [← hextends.here] at hwalk
      rw [← hway.here, hwalk] at hstop
      cases hstop
      refine honly location node hfound (Classical.byContradiction fun hbelow => ?_)
      rw [hremade.node? hbelow, hway.keeps _ _ hfound] at hnone
      cases hnone
  subst hlocation
  have hroot : location ≠ [] := by
    rintro rfl
    simp [node?_nil] at hnone
  have hnode := fun other => changed.node?_put location other .directory hroot
  cases hremade with
  | removed => exact ⟨.made hnone, by rw [hnode, if_pos rfl]⟩
  | made => rw [node?_put _ _ _ _ hroot, if_pos rfl] at hnone; cases hnone

theorem IsHome.of_makeDirectoriesFrom {parents : List String} (h : tree.IsHome path base)
    (hparents : ∀ parent ∈ parents, parent ∈ Path.ancestors path)
    (hmade : (tree.remove base).makeDirectoriesFrom parents = .ok made) :
    tree.IsRemade base made := by
  induction parents generalizing made with
  | nil => simp [makeDirectoriesFrom] at hmade
  | cons parent parents ih =>
    by_cases hne : parent = ""
    · rw [makeDirectoriesFrom, hne] at hmade
      cases hmade
      exact .removed
    · obtain ⟨middle, hmiddle, hmade⟩ := makeDirectoriesFrom_eq_ok hne hmade
      have hremade : tree.IsRemade base middle := by
        obtain rfl | hmiddle := hmiddle
        · exact .removed
        · exact ih (fun other hother => hparents other (List.mem_cons_of_mem _ hother)) hmiddle
      obtain hmade | ⟨rfl, -⟩ := hmade
      · exact (h.of_makeDirectory hremade (hparents parent List.mem_cons_self) hne hmade).1
      · exact hremade

/-- A directory that was removed is made where it was, and nothing is in it. -/
theorem IsHome.makeDirectories_remove (h : tree.IsHome path base) (hpath : path ≠ "")
    (hmade : (tree.remove base).makeDirectories path = .ok made) :
    made.IsAt path base ∧ made.IsBare base := by
  obtain ⟨parents, hancestors⟩ : ∃ parents, Path.ancestors path = path :: parents := by
    rw [Path.ancestors]
    exact ⟨_, rfl⟩
  have hparents : ∀ parent ∈ path :: parents, parent ∈ Path.ancestors path := fun _ hparent =>
    hancestors ▸ hparent
  have hmade : (tree.remove base).makeDirectoriesFrom (path :: parents) = .ok made :=
    hancestors ▸ hmade
  have hremade := h.of_makeDirectoriesFrom hparents hmade
  refine ⟨?_, hremade.isBare⟩
  obtain ⟨middle, hmiddle, hlast⟩ := makeDirectoriesFrom_eq_ok hpath hmade
  obtain hlast | ⟨-, hthere⟩ := hlast
  · have hmiddle : tree.IsRemade base middle := by
      obtain rfl | hmiddle := hmiddle
      · exact .removed
      · exact h.of_makeDirectoriesFrom
          (fun other hother => hparents other (List.mem_cons_of_mem _ hother)) hmiddle
    have hdirectory := (h.of_makeDirectory hmiddle (hparents _ List.mem_cons_self) hpath hlast).2
    obtain ⟨way, hway, hat, honly⟩ := h
    have hextends := hremade.extends (hway.isAt hat).directory
    refine Extends.isAt ⟨hextends.here.symm.trans hway.here, fun location node hnode => ?_⟩ hat
    by_cases hbelow : base <+: location
    · obtain rfl := honly location node hnode hbelow
      rw [hdirectory, ← hat.directory, hnode]
    · rw [hremade.node? hbelow]
      exact hway.keeps location node hnode
  · obtain ⟨location, hat⟩ := isAt_of_isDirectory hthere
    obtain rfl := h.isAt.unique ((hremade.extends h.isAt.directory).isAt hat)
    exact hat

/-- A directory that was removed is not found, or nothing is in it. -/
theorem IsHome.isBare_remove (h : tree.IsHome path base)
    (hat : (tree.remove base).IsAt path location) : (tree.remove base).IsBare location := by
  obtain rfl := h.isAt.unique ((extends_remove tree base).isAt hat)
  exact Tree.isBare_remove tree base

end Tree

end Sandbox.Files
