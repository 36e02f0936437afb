import Sandbox.Files.Access

/-!
# Where paths lead

What is known of a walk without taking its steps: a path can be walked in two parts, nothing that is
added to the files leads it astray, and an entry of a directory is found by the path of the
directory with the name of the entry behind it.

## Main definitions

* `IsPlain` : a name that stands for an entry.
* `entryOf` : the location of an entry, or why no path leads there.
* `Tree.Walks` : the walks that end somewhere.
* `Tree.Extends` : whatever stands in one tree stands in another.
* `Tree.IsAt` : the location of a directory.

## Main results

* `Tree.walk_append`, `Tree.walk_of_append` : a walk in two parts.
* `Tree.Extends.walk` : a walk in files to which something was added.
* `Tree.IsAt.locate_join` : the entries of a directory.
-/

namespace Sandbox

/-! ### Pieces between marks -/

namespace Text

variable {α : Type} [BEq α]

theorem splitOn_ne_nil (mark : α) (xs : List α) : splitOn mark xs ≠ [] := by
  cases xs with
  | nil => simp [splitOn]
  | cons x xs =>
    rw [splitOn]
    split
    · simp
    · split <;> simp

/-- The first mark ends a piece. -/
theorem splitOn_cons (mark x : α) (xs : List α) :
    ∃ piece pieces, splitOn mark xs = piece :: pieces ∧
      splitOn mark (x :: xs) =
        if x == mark then [] :: piece :: pieces else (x :: piece) :: pieces := by
  cases h : splitOn mark xs with
  | nil => exact absurd h (splitOn_ne_nil mark xs)
  | cons piece pieces => exact ⟨piece, pieces, rfl, by rw [splitOn, h]⟩

theorem splitOn_eq_empty {mark : α} {xs : List α} (h : splitOn mark xs = [[]]) : xs = [] := by
  cases xs with
  | nil => rfl
  | cons x xs =>
    obtain ⟨piece, pieces, -, hall⟩ := splitOn_cons mark x xs
    rw [hall] at h
    split at h <;> simp at h

variable [LawfulBEq α]

theorem splitOn_append (mark : α) (xs ys : List α) :
    splitOn mark (xs ++ mark :: ys) = splitOn mark xs ++ splitOn mark ys := by
  induction xs with
  | nil =>
    obtain ⟨piece, pieces, hys, hall⟩ := splitOn_cons mark mark ys
    rw [List.nil_append, hall, hys]
    simp [splitOn]
  | cons x xs ih =>
    obtain ⟨piece, pieces, hxs, hall⟩ := splitOn_cons mark x xs
    obtain ⟨piece', pieces', hxs', hall'⟩ := splitOn_cons mark x (xs ++ mark :: ys)
    rw [ih, hxs, List.cons_append, List.cons.injEq] at hxs'
    rw [List.cons_append, hall, hall', ← hxs'.1, ← hxs'.2]
    split <;> rfl

theorem splitOn_of_not_mem {mark : α} {xs : List α} (h : mark ∉ xs) : splitOn mark xs = [xs] := by
  induction xs with
  | nil => rfl
  | cons x xs ih =>
    rw [List.mem_cons, not_or] at h
    obtain ⟨piece, pieces, hxs, hall⟩ := splitOn_cons mark x xs
    rw [ih h.2, List.cons.injEq] at hxs
    have hx : (x == mark) = false := by simpa using fun heq => h.1 heq.symm
    rw [hall, hx, ← hxs.1, ← hxs.2]
    rfl

end Text

namespace Files

open Sandbox.Path (Component join)

/-! ### Steps of paths -/

/-- A name that stands for an entry of a directory. -/
structure IsPlain (name : String) : Prop where
  /-- It is none of those that stand for a way. -/
  isEntry : name ≠ "" ∧ name ≠ "." ∧ name ≠ ".."
  /-- It is one name. -/
  noSlash : '/' ∉ name.toList

theorem IsPlain.stepOf {name : String} (h : IsPlain name) : stepOf name.toList = .name name := by
  obtain ⟨hempty, hhere, hup⟩ := h.isEntry
  have hempty : name.toList ≠ [] := by simpa using hempty
  have hhere : name.toList ≠ ['.'] := fun heq => hhere (String.toList_inj.1 heq)
  have hup : name.toList ≠ ['.', '.'] := fun heq => hup (String.toList_inj.1 heq)
  simp [Files.stepOf, Component.ofName, hempty, hhere, hup]

theorem steps_slash {front : String} (rest : String) (hfront : front ≠ "") :
    steps (front ++ "/" ++ rest) =
      steps front ++ (Text.splitOn '/' rest.toList).map stepOf := by
  have hsplit : Text.splitOn '/' (front ++ "/" ++ rest).toList =
      Text.splitOn '/' front.toList ++ Text.splitOn '/' rest.toList := by
    have : (front ++ "/" ++ rest).toList = front.toList ++ '/' :: rest.toList := by simp
    rw [this, Text.splitOn_append]
  unfold steps
  rw [hsplit]
  have hne := Text.splitOn_ne_nil '/' rest.toList
  cases hpieces : Text.splitOn '/' front.toList with
  | nil => exact absurd hpieces (Text.splitOn_ne_nil _ _)
  | cons first pieces =>
    by_cases hfirst : first = []
    · have hpieces' : pieces ≠ [] := by
        rintro rfl
        rw [hfirst] at hpieces
        exact hfront (by simpa using Text.splitOn_eq_empty hpieces)
      simp [hfirst, hpieces']
    · simp [hfirst]

theorem steps_plain {name : String} (h : IsPlain name) : steps name = [.name name] := by
  have hempty : name.toList ≠ [] := by simpa using h.isEntry.1
  unfold steps
  rw [Text.splitOn_of_not_mem h.noSlash]
  simp [h.stepOf]

theorem eq_append_slash_of_endsWith {path : String} (h : Text.endsWith path "/" = true) :
    ∃ front, path = front ++ "/" := by
  unfold Text.endsWith Text.hasEnd Text.stripEnd? at h
  rw [Option.isSome_map] at h
  obtain ⟨rest, hrest⟩ := Option.isSome_iff_exists.1 h
  have heq := congrArg List.reverse (Text.eq_append_of_stripStart? hrest)
  refine ⟨String.ofList rest.reverse, String.toList_inj.1 ?_⟩
  simpa using heq

theorem isAbsolute_eq_false {name : String} (h : '/' ∉ name.toList) :
    Path.isAbsolute name = false := by
  unfold Path.isAbsolute Text.beginsWith Text.hasStart
  cases hname : name.toList with
  | nil => rfl
  | cons c cs =>
    have hc : ('/' == c) = false := by simp_all
    simp [Text.stripStart?, hc]

/-- The path of an entry leads through the directory; a slash at the end of the path of the
directory makes no difference. -/
theorem steps_join (path : String) {name : String} (h : IsPlain name) :
    ∃ front, (steps path = front ∨ steps path = front ++ [.here]) ∧
      steps (join path name) = front ++ [.name name] := by
  have habsolute := isAbsolute_eq_false h.noSlash
  unfold join
  by_cases hempty : path = ""
  · subst hempty
    exact ⟨[], .inr rfl, by simpa using steps_plain h⟩
  have hisEmpty : path.isEmpty = false := by simpa using hempty
  rw [if_neg (by simp [habsolute, hisEmpty])]
  split
  · next hend =>
    obtain ⟨front, rfl⟩ := eq_append_slash_of_endsWith hend
    by_cases hroot : front = ""
    · subst hroot
      refine ⟨[.root], .inr rfl, ?_⟩
      have hlist : ("" ++ "/" ++ name).toList = [] ++ '/' :: name.toList := by simp
      unfold steps
      rw [hlist, Text.splitOn_append, Text.splitOn_of_not_mem h.noSlash]
      simp [Text.splitOn, h.stepOf]
    · have hhere := steps_slash "" hroot
      have hname := steps_slash name hroot
      rw [String.append_empty] at hhere
      rw [Text.splitOn_of_not_mem h.noSlash] at hname
      exact ⟨steps front, .inr hhere, by simpa [h.stepOf] using hname⟩
  · have hname := steps_slash name hempty
    rw [Text.splitOn_of_not_mem h.noSlash] at hname
    exact ⟨steps path, .inl rfl, by simpa [h.stepOf] using hname⟩

/-! ### Paths of entries -/

variable {path name : String} {base location : Location}

/-- The location of an entry of a directory, or why no path leads there. -/
def entryOf (path name : String) (directory : Location) : Except FileError Location :=
  if (join path name).toList.contains '\x00' then .error .pathCutShort
  else if pathLimit < (join path name).utf8ByteSize then .error .nameTooLong
  else if nameLimit < name.utf8ByteSize then .error .nameTooLong
  else .ok (directory ++ [name])

theorem eq_of_entryOf (h : entryOf path name base = .ok location) : location = base ++ [name] := by
  unfold entryOf at h
  split at h <;> try cases h
  split at h <;> try cases h
  split at h <;> cases h
  rfl

theorem short_of_entryOf (h : entryOf path name base = .ok location) :
    name.utf8ByteSize ≤ nameLimit := by
  unfold entryOf at h
  split at h <;> try cases h
  split at h <;> try cases h
  split at h <;> cases h
  exact Nat.not_lt.1 ‹_›

theorem join_ne_empty (path : String) (hname : IsPlain name) : join path name ≠ "" := by
  intro hempty
  obtain ⟨front, -, hjoin⟩ := steps_join path hname
  rw [hempty] at hjoin
  have hlast := congrArg List.getLast? hjoin
  rw [List.getLast?_append] at hlast
  simp [steps, Text.splitOn, stepOf] at hlast

/-- The path of an entry begins with the path of its directory. -/
theorem exists_join_eq_append (path : String) (hname : IsPlain name) :
    ∃ rest, join path name = path ++ rest := by
  unfold join
  by_cases hempty : path = ""
  · exact ⟨name, by simp [hempty]⟩
  · have hisEmpty : path.isEmpty = false := by simpa using hempty
    rw [if_neg (by simp [isAbsolute_eq_false hname.noSlash, hisEmpty])]
    split
    · exact ⟨name, rfl⟩
    · exact ⟨"/" ++ name, String.append_assoc⟩

theorem entryOf_ne_notFound (path name : String) (base : Location) :
    entryOf path name base ≠ .error .notFound := by
  unfold entryOf
  split <;> try simp
  split <;> try simp
  split <;> simp

/-! ### Walks -/

namespace Tree

variable {tree : Tree} {follow : Bool} {links : Nat} {start goal : Location}
  {front rest : List Component}

/-- The walks that end somewhere, step by step. -/
inductive Walks (tree : Tree) (follow : Bool) : Nat → Location → List Component → Location → Prop
  /-- Nothing is left to walk. -/
  | done (links : Nat) (start : Location) : Walks tree follow links start [] start
  /-- To the root. -/
  | root {links : Nat} {start goal : Location} {rest : List Component}
      (next : Walks tree follow links [] rest goal) :
      Walks tree follow links start (.root :: rest) goal
  /-- To where one stands. -/
  | here {links : Nat} {start goal : Location} {rest : List Component}
      (directory : tree.isDirectoryAt start = true)
      (next : Walks tree follow links start rest goal) :
      Walks tree follow links start (.here :: rest) goal
  /-- To the directory above. -/
  | up {links : Nat} {start goal : Location} {rest : List Component}
      (directory : tree.isDirectoryAt start = true)
      (next : Walks tree follow links start.dropLast rest goal) :
      Walks tree follow links start (.up :: rest) goal
  /-- To a last name that nothing has. -/
  | new (links : Nat) {start : Location} {name : String}
      (directory : tree.isDirectoryAt start = true) (short : name.utf8ByteSize ≤ nameLimit)
      (found : tree.node? (start ++ [name]) = none) :
      Walks tree follow links start [.name name] (start ++ [name])
  /-- To a symbolic link at the end. -/
  | last (links : Nat) {start : Location} {name target : String}
      (directory : tree.isDirectoryAt start = true) (short : name.utf8ByteSize ≤ nameLimit)
      (found : tree.node? (start ++ [name]) = some (.link target)) (stays : follow = false) :
      Walks tree follow links start [.name name] (start ++ [name])
  /-- Along a symbolic link. -/
  | link {links : Nat} {start goal : Location} {name target : String} {rest : List Component}
      (directory : tree.isDirectoryAt start = true) (short : name.utf8ByteSize ≤ nameLimit)
      (found : tree.node? (start ++ [name]) = some (.link target))
      (goes : rest = [] → follow = true) (hasTarget : target ≠ "")
      (next : Walks tree follow links start (steps target ++ rest) goal) :
      Walks tree follow (links + 1) start (.name name :: rest) goal
  /-- To a file or a directory. -/
  | entry {links : Nat} {start goal : Location} {name : String} {node : Node}
      {rest : List Component} (directory : tree.isDirectoryAt start = true)
      (short : name.utf8ByteSize ≤ nameLimit) (found : tree.node? (start ++ [name]) = some node)
      (noLink : ∀ target, node ≠ .link target)
      (next : Walks tree follow links (start ++ [name]) rest goal) :
      Walks tree follow links start (.name name :: rest) goal

theorem walk_nil : tree.walk follow links start [] = .ok start :=
  walk.eq_def ..

theorem walk_root :
    tree.walk follow links start (.root :: rest) = tree.walk follow links [] rest :=
  walk.eq_def ..

theorem walk_here (hdirectory : tree.isDirectoryAt start = true) :
    tree.walk follow links start (.here :: rest) = tree.walk follow links start rest := by
  rw [walk.eq_def]
  simp [hdirectory]

theorem walk_up (hdirectory : tree.isDirectoryAt start = true) :
    tree.walk follow links start (.up :: rest) = tree.walk follow links start.dropLast rest := by
  rw [walk.eq_def]
  simp [hdirectory]

theorem walk_new (hdirectory : tree.isDirectoryAt start = true)
    (hshort : name.utf8ByteSize ≤ nameLimit) (hfound : tree.node? (start ++ [name]) = none) :
    tree.walk follow links start [.name name] = .ok (start ++ [name]) := by
  rw [walk.eq_def]
  simp [hdirectory, Nat.not_lt.2 hshort, hfound]

theorem walk_last {target : String} (hdirectory : tree.isDirectoryAt start = true)
    (hshort : name.utf8ByteSize ≤ nameLimit)
    (hfound : tree.node? (start ++ [name]) = some (.link target)) :
    tree.walk false links start [.name name] = .ok (start ++ [name]) := by
  rw [walk.eq_def]
  simp [hdirectory, Nat.not_lt.2 hshort, hfound]

theorem walk_link {target : String} (hdirectory : tree.isDirectoryAt start = true)
    (hshort : name.utf8ByteSize ≤ nameLimit)
    (hfound : tree.node? (start ++ [name]) = some (.link target))
    (hgoes : rest = [] → follow = true) (htarget : target ≠ "") :
    tree.walk follow (links + 1) start (.name name :: rest) =
      tree.walk follow links start (steps target ++ rest) := by
  have hon : (rest.isEmpty && !follow) = false := by
    cases rest with
    | nil => simp [hgoes rfl]
    | cons => rfl
  rw [walk.eq_def]
  simp [hdirectory, Nat.not_lt.2 hshort, hfound, htarget, hon]

theorem walk_entry {node : Node} (hdirectory : tree.isDirectoryAt start = true)
    (hshort : name.utf8ByteSize ≤ nameLimit) (hfound : tree.node? (start ++ [name]) = some node)
    (hlink : ∀ target, node ≠ .link target) :
    tree.walk follow links start (.name name :: rest) =
      tree.walk follow links (start ++ [name]) rest := by
  rw [walk.eq_def]
  simp only [hdirectory, Nat.not_lt.2 hshort, hfound]
  cases node with
  | link target => exact absurd rfl (hlink target)
  | _ => simp

theorem Walks.walk (h : Walks tree follow links start rest goal) :
    tree.walk follow links start rest = .ok goal := by
  induction h with
  | done => exact walk_nil
  | root _ ih => rw [walk_root, ih]
  | here hdirectory _ ih => rw [walk_here hdirectory, ih]
  | up hdirectory _ ih => rw [walk_up hdirectory, ih]
  | new _ hdirectory hshort hfound => exact walk_new hdirectory hshort hfound
  | last _ hdirectory hshort hfound hstays => rw [hstays, walk_last hdirectory hshort hfound]
  | link hdirectory hshort hfound hgoes htarget _ ih =>
    rw [walk_link hdirectory hshort hfound hgoes htarget, ih]
  | entry hdirectory hshort hfound hlink _ ih =>
    rw [walk_entry hdirectory hshort hfound hlink, ih]

theorem walks_of_walk (h : tree.walk follow links start rest = .ok goal) :
    Walks tree follow links start rest goal := by
  fun_induction tree.walk follow links start rest with
  | case1 => cases h; exact .done ..
  | case2 _ _ _ ih => exact .root (ih h)
  | case4 _ _ _ _ hroot => exact absurd rfl hroot
  | case5 _ _ _ hdirectory _ ih => exact .here (by simpa using hdirectory) (ih h)
  | case6 _ _ _ hdirectory _ ih => exact .up (by simpa using hdirectory) (ih h)
  | case8 _ _ _ hdirectory _ hshort hfound hrest =>
    cases h
    obtain rfl : _ = [] := List.isEmpty_iff.1 hrest
    exact .new _ (by simpa using hdirectory) (Nat.not_lt.1 hshort) hfound
  | case10 _ _ _ hdirectory _ hshort _ hfound hlast =>
    cases h
    rw [Bool.and_eq_true, List.isEmpty_iff] at hlast
    obtain ⟨rfl, hstays⟩ := hlast
    exact .last _ (by simpa using hdirectory) (Nat.not_lt.1 hshort) hfound (by simpa using hstays)
  | case13 _ _ hdirectory _ hshort _ hfound hlast _ htarget _ ih =>
    refine .link (by simpa using hdirectory) (Nat.not_lt.1 hshort) hfound ?_
      (by simpa using htarget) (ih h)
    rintro rfl
    simpa using hlast
  | case14 _ _ _ hdirectory _ hshort node hlink hfound _ ih =>
    exact .entry (by simpa using hdirectory) (Nat.not_lt.1 hshort) hfound
      (fun target heq => hlink target heq) (ih h)
  | _ => cases h

/-- The second part of a walk begins where the first part ends, though the first part may have
used up some of the symbolic links. -/
theorem walk_append (h : tree.walk true links start front = .ok goal)
    (hgoal : (tree.node? goal).isSome) :
    ∃ left, ∀ follow rest, rest ≠ [] →
      tree.walk follow links start (front ++ rest) = tree.walk follow left goal rest := by
  induction walks_of_walk h with
  | done links => exact ⟨links, fun _ _ _ => rfl⟩
  | root next ih =>
    obtain ⟨left, hleft⟩ := ih next.walk hgoal
    exact ⟨left, fun follow rest hrest => by
      rw [List.cons_append, walk_root, hleft follow rest hrest]⟩
  | here hdirectory next ih =>
    obtain ⟨left, hleft⟩ := ih next.walk hgoal
    exact ⟨left, fun follow rest hrest => by
      rw [List.cons_append, walk_here hdirectory, hleft follow rest hrest]⟩
  | up hdirectory next ih =>
    obtain ⟨left, hleft⟩ := ih next.walk hgoal
    exact ⟨left, fun follow rest hrest => by
      rw [List.cons_append, walk_up hdirectory, hleft follow rest hrest]⟩
  | new _ _ _ hfound => simp [hfound] at hgoal
  | last _ _ _ _ hstays => cases hstays
  | link hdirectory hshort hfound _ htarget next ih =>
    obtain ⟨left, hleft⟩ := ih next.walk hgoal
    refine ⟨left, fun follow rest hrest => ?_⟩
    have hgoes : ∀ front : List Component, front ++ rest = [] → follow = true :=
      fun front heq => absurd (List.append_eq_nil_iff.1 heq).2 hrest
    rw [List.cons_append, walk_link hdirectory hshort hfound (hgoes _) htarget,
      ← List.append_assoc, hleft follow rest hrest]
  | entry hdirectory hshort hfound hlink next ih =>
    obtain ⟨left, hleft⟩ := ih next.walk hgoal
    exact ⟨left, fun follow rest hrest => by
      rw [List.cons_append, walk_entry hdirectory hshort hfound hlink, hleft follow rest hrest]⟩

/-- A walk that ends somewhere ends somewhere after its first part. -/
theorem walk_of_append (h : tree.walk follow links start (front ++ rest) = .ok goal)
    (hrest : rest ≠ []) :
    ∃ middle left, tree.walk true links start front = .ok middle ∧
      tree.walk follow left middle rest = .ok goal := by
  generalize hall : front ++ rest = all at h
  induction walks_of_walk h generalizing front with
  | done => exact absurd (List.append_eq_nil_iff.1 hall).2 hrest
  | root next ih =>
    obtain ⟨rfl, rfl⟩ | ⟨front, rfl, hnext⟩ := List.append_eq_cons_iff.1 hall
    · exact ⟨_, _, walk_nil, h⟩
    · obtain ⟨middle, left, hfront, hend⟩ := ih hnext.symm next.walk
      exact ⟨middle, left, by rw [walk_root, hfront], hend⟩
  | here hdirectory next ih =>
    obtain ⟨rfl, rfl⟩ | ⟨front, rfl, hnext⟩ := List.append_eq_cons_iff.1 hall
    · exact ⟨_, _, walk_nil, h⟩
    · obtain ⟨middle, left, hfront, hend⟩ := ih hnext.symm next.walk
      exact ⟨middle, left, by rw [walk_here hdirectory, hfront], hend⟩
  | up hdirectory next ih =>
    obtain ⟨rfl, rfl⟩ | ⟨front, rfl, hnext⟩ := List.append_eq_cons_iff.1 hall
    · exact ⟨_, _, walk_nil, h⟩
    · obtain ⟨middle, left, hfront, hend⟩ := ih hnext.symm next.walk
      exact ⟨middle, left, by rw [walk_up hdirectory, hfront], hend⟩
  | new =>
    obtain ⟨rfl, rfl⟩ | ⟨front, rfl, hnext⟩ := List.append_eq_cons_iff.1 hall
    · exact ⟨_, _, walk_nil, h⟩
    · exact absurd (List.append_eq_nil_iff.1 hnext.symm).2 hrest
  | last =>
    obtain ⟨rfl, rfl⟩ | ⟨front, rfl, hnext⟩ := List.append_eq_cons_iff.1 hall
    · exact ⟨_, _, walk_nil, h⟩
    · exact absurd (List.append_eq_nil_iff.1 hnext.symm).2 hrest
  | link hdirectory hshort hfound _ htarget next ih =>
    obtain ⟨rfl, rfl⟩ | ⟨front, rfl, rfl⟩ := List.append_eq_cons_iff.1 hall
    · exact ⟨_, _, walk_nil, h⟩
    · obtain ⟨middle, left, hfront, hend⟩ := ih (List.append_assoc ..) next.walk
      exact ⟨middle, left,
        by rw [walk_link hdirectory hshort hfound (fun _ => rfl) htarget, hfront], hend⟩
  | entry hdirectory hshort hfound hlink next ih =>
    obtain ⟨rfl, rfl⟩ | ⟨front, rfl, hnext⟩ := List.append_eq_cons_iff.1 hall
    · exact ⟨_, _, walk_nil, h⟩
    · obtain ⟨middle, left, hfront, hend⟩ := ih hnext.symm next.walk
      exact ⟨middle, left, by rw [walk_entry hdirectory hshort hfound hlink, hfront], hend⟩

/-- Where something stands at the end of a path, something stands there too if a symbolic link at
the end is not followed. -/
theorem walk_nofollow (h : tree.walk true links start rest = .ok goal)
    (hgoal : (tree.node? goal).isSome) :
    ∃ stop, tree.walk false links start rest = .ok stop ∧ (tree.node? stop).isSome := by
  induction walks_of_walk h with
  | done => exact ⟨_, walk_nil, hgoal⟩
  | root next ih =>
    obtain ⟨stop, hstop, hnode⟩ := ih next.walk hgoal
    exact ⟨stop, by rw [walk_root, hstop], hnode⟩
  | here hdirectory next ih =>
    obtain ⟨stop, hstop, hnode⟩ := ih next.walk hgoal
    exact ⟨stop, by rw [walk_here hdirectory, hstop], hnode⟩
  | up hdirectory next ih =>
    obtain ⟨stop, hstop, hnode⟩ := ih next.walk hgoal
    exact ⟨stop, by rw [walk_up hdirectory, hstop], hnode⟩
  | new _ _ _ hfound => simp [hfound] at hgoal
  | last _ _ _ _ hstays => cases hstays
  | @link links start goal name target rest hdirectory hshort hfound _ htarget next ih =>
    by_cases hrest : rest = []
    · subst hrest
      exact ⟨start ++ [name], walk_last hdirectory hshort hfound, by simp [hfound]⟩
    · obtain ⟨stop, hstop, hnode⟩ := ih next.walk hgoal
      exact ⟨stop, by rw [walk_link hdirectory hshort hfound (absurd · hrest) htarget, hstop],
        hnode⟩
  | entry hdirectory hshort hfound hlink next ih =>
    obtain ⟨stop, hstop, hnode⟩ := ih next.walk hgoal
    exact ⟨stop, by rw [walk_entry hdirectory hshort hfound hlink, hstop], hnode⟩

/-- It makes no difference whether a symbolic link at the end is followed, where there is none. -/
theorem walk_follow (h : tree.walk false links start rest = .ok goal)
    (hlink : ∀ target, tree.node? goal ≠ some (.link target)) :
    tree.walk true links start rest = .ok goal := by
  induction walks_of_walk h with
  | done => exact walk_nil
  | root next ih => rw [walk_root, ih next.walk hlink]
  | here hdirectory next ih => rw [walk_here hdirectory, ih next.walk hlink]
  | up hdirectory next ih => rw [walk_up hdirectory, ih next.walk hlink]
  | new _ hdirectory hshort hfound => exact walk_new hdirectory hshort hfound
  | last _ _ _ hfound => exact absurd hfound (hlink _)
  | link hdirectory hshort hfound _ htarget next ih =>
    rw [walk_link hdirectory hshort hfound (fun _ => rfl) htarget, ih next.walk hlink]
  | entry hdirectory hshort hfound hnode next ih =>
    rw [walk_entry hdirectory hshort hfound hnode, ih next.walk hlink]

/-! ### Growing trees -/

/-- Whatever stands in one tree stands in another. -/
structure Extends (tree grown : Tree) : Prop where
  /-- Relative paths begin at the same location. -/
  here : grown.here = tree.here
  /-- What stood somewhere still stands there. -/
  keeps : ∀ location node, tree.node? location = some node → grown.node? location = some node

theorem Extends.isDirectoryAt {grown : Tree} (h : tree.Extends grown) {location : Location}
    (hdirectory : tree.isDirectoryAt location = true) : grown.isDirectoryAt location = true := by
  unfold Tree.isDirectoryAt at hdirectory ⊢
  rw [Option.any_eq_true] at hdirectory ⊢
  obtain ⟨node, hnode, hdirectory⟩ := hdirectory
  exact ⟨node, h.keeps _ _ hnode, hdirectory⟩

/-- What is added leads no path astray that led to something, nor one that does not follow a
symbolic link at its end. -/
theorem Extends.walk {grown : Tree} (hgrown : tree.Extends grown)
    (h : tree.walk follow links start rest = .ok goal)
    (hgoal : follow = true → (tree.node? goal).isSome) :
    grown.walk follow links start rest = .ok goal := by
  induction walks_of_walk h with
  | done => exact walk_nil
  | root next ih => rw [walk_root, ih next.walk hgoal]
  | here hdirectory next ih =>
    rw [walk_here (hgrown.isDirectoryAt hdirectory), ih next.walk hgoal]
  | up hdirectory next ih =>
    rw [walk_up (hgrown.isDirectoryAt hdirectory), ih next.walk hgoal]
  | @new links start name hdirectory hshort hfound =>
    have hdirectory := hgrown.isDirectoryAt hdirectory
    cases follow with
    | true => simp [hfound] at hgoal
    | false =>
      cases hnode : grown.node? (start ++ [name]) with
      | none => exact walk_new hdirectory hshort hnode
      | some node =>
        cases node with
        | link target => exact walk_last hdirectory hshort hnode
        | file | directory => rw [walk_entry hdirectory hshort hnode (by simp), walk_nil]
  | last _ hdirectory hshort hfound hstays =>
    rw [hstays, walk_last (hgrown.isDirectoryAt hdirectory) hshort (hgrown.keeps _ _ hfound)]
  | link hdirectory hshort hfound hgoes htarget next ih =>
    rw [walk_link (hgrown.isDirectoryAt hdirectory) hshort (hgrown.keeps _ _ hfound) hgoes htarget,
      ih next.walk hgoal]
  | entry hdirectory hshort hfound hlink next ih =>
    rw [walk_entry (hgrown.isDirectoryAt hdirectory) hshort (hgrown.keeps _ _ hfound) hlink,
      ih next.walk hgoal]

/-! ### Directories and their entries -/

theorem isDirectoryAt_iff {location : Location} :
    tree.isDirectoryAt location = true ↔ tree.node? location = some .directory := by
  unfold isDirectoryAt
  cases tree.node? location with
  | none => simp
  | some node => cases node <;> simp [Node.isDirectory]

/-- A directory stands at a location, and a path leads there. The empty path leads to where relative
paths begin. -/
structure IsAt (tree : Tree) (path : String) (location : Location) : Prop where
  /-- The path leads there. -/
  leads : tree.walk true linkLimit tree.here (steps path) = .ok location
  /-- A directory stands there. -/
  directory : tree.node? location = some .directory

theorem IsAt.unique (h : tree.IsAt path base) (h' : tree.IsAt path location) : base = location := by
  have := h.leads.symm.trans h'.leads
  cases this
  rfl

theorem Extends.isAt {grown : Tree} (hgrown : tree.Extends grown) (h : tree.IsAt path base) :
    grown.IsAt path base where
  leads := by
    rw [hgrown.here]
    exact hgrown.walk h.leads fun _ => by simp [h.directory]
  directory := hgrown.keeps _ _ h.directory

variable (tree) in
theorem isAt_root : tree.IsAt "/" [] where
  leads := by
    have hsteps : steps "/" = [.root, .here] := by decide +kernel
    rw [hsteps, walk_root, walk_here (isDirectoryAt_iff.2 tree.node?_nil), walk_nil]
  directory := tree.node?_nil

/-- The path of an entry ends with its name, after a way to the directory. -/
theorem IsAt.exists_front (h : tree.IsAt path base) (hname : IsPlain name) :
    ∃ front, steps (join path name) = front ++ [.name name] ∧
      tree.walk true linkLimit tree.here front = .ok base := by
  obtain ⟨front, hfront | hfront, hjoin⟩ := steps_join path hname
  · exact ⟨front, hjoin, hfront ▸ h.leads⟩
  · refine ⟨front, hjoin, ?_⟩
    obtain ⟨middle, left, hmiddle, hend⟩ := walk_of_append (hfront ▸ h.leads) (by simp)
    cases walks_of_walk hend with
    | here _ next =>
      cases next
      exact hmiddle

/-- The last step of the path of an entry, whether or not anything stands there. -/
theorem IsAt.walk_join (h : tree.IsAt path base) (hname : IsPlain name)
    (hlink : follow = true → ∀ target, tree.node? (base ++ [name]) ≠ some (.link target)) :
    tree.walk follow linkLimit tree.here (steps (join path name)) =
      if nameLimit < name.utf8ByteSize then .error .nameTooLong else .ok (base ++ [name]) := by
  obtain ⟨front, hsteps, hfront⟩ := h.exists_front hname
  have hdirectory := isDirectoryAt_iff.2 h.directory
  obtain ⟨left, hleft⟩ := walk_append hfront (by simp [h.directory])
  rw [hsteps, hleft follow [.name name] (by simp)]
  split
  · next hlong =>
    rw [walk.eq_def]
    simp [hdirectory, hlong]
  · next hshort =>
    have hshort := Nat.not_lt.1 hshort
    cases hnode : tree.node? (base ++ [name]) with
    | none => exact walk_new hdirectory hshort hnode
    | some node =>
      by_cases hislink : ∃ target, node = .link target
      · obtain ⟨target, rfl⟩ := hislink
        obtain rfl : follow = false := by
          cases follow with
          | false => rfl
          | true => exact absurd hnode (hlink rfl target)
        exact walk_last hdirectory hshort hnode
      · rw [walk_entry hdirectory hshort hnode fun target heq => hislink ⟨target, heq⟩, walk_nil]

/-- The path of an entry leads to the location of the entry. -/
theorem IsAt.locate_join (h : tree.IsAt path base) (hname : IsPlain name)
    (hlink : follow = true → ∀ target, tree.node? (base ++ [name]) ≠ some (.link target)) :
    tree.locate follow (join path name) = entryOf path name base := by
  have hempty : (join path name).isEmpty = false := by simpa using join_ne_empty path hname
  unfold locate entryOf
  rw [hempty, h.walk_join hname hlink]
  rfl

/-- What is found by the path of an entry. -/
theorem IsAt.find_join (h : tree.IsAt path base) (hname : IsPlain name)
    (hlink : follow = true → ∀ target, tree.node? (base ++ [name]) ≠ some (.link target)) :
    tree.find follow (join path name) =
      (entryOf path name base).bind fun location =>
        match tree.node? location with
        | some node => .ok (location, node)
        | none => .error .notFound := by
  unfold find
  rw [h.locate_join hname hlink]
  rfl

variable (tree) in
/-- The path of a directory is walked if that of an entry can be used. -/
theorem locate_of_entryOf (follow : Bool) (hpath : path ≠ "") (hname : IsPlain name)
    (hentry : entryOf path name base = .ok location) :
    tree.locate follow path = tree.walk follow linkLimit tree.here (steps path) := by
  obtain ⟨rest, hjoin⟩ := exists_join_eq_append path hname
  have hempty : path.isEmpty = false := by simpa using hpath
  unfold entryOf at hentry
  rw [hjoin, String.toList_append, String.utf8ByteSize_append] at hentry
  split at hentry
  · cases hentry
  · next hzero =>
    split at hentry
    · cases hentry
    · next hshort =>
      have hzero : path.toList.contains '\x00' = false := by
        rw [Bool.eq_false_iff]
        exact fun hzero' => hzero (by simp_all)
      have hshort : ¬ pathLimit < path.utf8ByteSize := by omega
      rw [locate, hzero, hempty, if_neg hshort]
      rfl

/-- A directory is found by its path if the path of an entry can be used. -/
theorem IsAt.find_of_entryOf (h : tree.IsAt path base) (hpath : path ≠ "") (hname : IsPlain name)
    (hentry : entryOf path name base = .ok location) :
    tree.find true path = .ok (base, .directory) := by
  unfold find
  rw [tree.locate_of_entryOf true hpath hname hentry, h.leads]
  simp [bind, Except.bind, h.directory, pure, Except.pure]

/-- Whether something stands where the path of an entry leads. -/
theorem IsAt.isPresent_join (h : tree.IsAt path base) (hname : IsPlain name)
    (hlink : ∀ target, tree.node? (base ++ [name]) ≠ some (.link target)) :
    tree.isPresent (join path name) =
      (entryOf path name base).map fun location => (tree.node? location).isSome := by
  unfold isPresent
  rw [h.find_join hname fun _ => hlink]
  cases hentry : entryOf path name base with
  | error e =>
    have hne := entryOf_ne_notFound path name base
    rw [hentry] at hne
    cases e <;> first | rfl | exact absurd rfl hne
  | ok location =>
    cases hnode : tree.node? location <;> simp [Except.bind, Except.map, hnode]

theorem IsAt.eq_of_find_join {node : Node} (h : tree.IsAt path base) (hname : IsPlain name)
    (hfind : tree.find false (join path name) = .ok (location, node)) :
    location = base ++ [name] := by
  rw [h.find_join hname (by simp)] at hfind
  cases hentry : entryOf path name base with
  | error e => simp [hentry, Except.bind] at hfind
  | ok found =>
    obtain rfl := eq_of_entryOf hentry
    cases hnode : tree.node? (base ++ [name]) with
    | none => simp [hentry, hnode, Except.bind] at hfind
    | some node =>
      simp only [hentry, hnode, Except.bind] at hfind
      cases hfind
      rfl

/-- Where it can be told whether something stands, a path leads. -/
theorem IsAt.entryOf_of_isPresent {present : Bool} (h : tree.IsAt path base)
    (hname : IsPlain name) (hlink : ∀ target, tree.node? (base ++ [name]) ≠ some (.link target))
    (hpresent : tree.isPresent (join path name) = .ok present) :
    entryOf path name base = .ok (base ++ [name]) ∧
      (tree.node? (base ++ [name])).isSome = present := by
  rw [h.isPresent_join hname hlink] at hpresent
  cases hentry : entryOf path name base with
  | error e => simp [hentry, Except.map] at hpresent
  | ok found =>
    obtain rfl := eq_of_entryOf hentry
    rw [hentry] at hpresent
    cases hpresent
    exact ⟨rfl, rfl⟩

/-- The path of a directory in a directory. -/
theorem IsAt.inner (h : tree.IsAt path base) (hname : IsPlain name)
    (hshort : name.utf8ByteSize ≤ nameLimit)
    (hnode : tree.node? (base ++ [name]) = some .directory) :
    tree.IsAt (join path name) (base ++ [name]) where
  leads := by
    rw [h.walk_join hname (by simp [hnode]), if_neg (Nat.not_lt.2 hshort)]
  directory := hnode

/-- No path leads to a directory that is not there. -/
theorem IsAt.not_isAt_join (h : tree.IsAt path base) (hname : IsPlain name)
    (hnode : tree.node? (base ++ [name]) = none) : ¬ tree.IsAt (join path name) location := by
  intro hat
  have hleads := hat.leads
  rw [h.walk_join hname (by simp [hnode])] at hleads
  split at hleads <;> cases hleads
  exact absurd (hat.directory.symm.trans hnode) (by simp)

end Tree

end Files

end Sandbox
