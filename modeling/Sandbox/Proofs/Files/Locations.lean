import Mathlib.Data.List.Induction
import Sandbox.Files.Unpack
import Sandbox.Proofs.Files.Homes

/-!
# Locations and their paths

All locations that walks and archives lead to consist of names of entries. Such a location has a
path, and the parent of that path is the path of the directory that it is in.

## Main definitions

* `Location.IsProper` : all names on the way are names of entries.

## Main results

* `Location.IsProper.walk` : where a walk leads.
* `isProper_of_names?` : where an entry of an archive is to be put.
* `path_concat`, `parent?_path`, `exists_of_mem_ancestors` : paths of locations.
* `Tree.eq_of_locate_join` : where the path of an entry leads, if its directory is found.
-/

namespace Sandbox

namespace Text

/-- No mark is left in a piece. -/
theorem not_mem_of_mem_splitOn {α : Type} [BEq α] [LawfulBEq α] {mark : α} {xs piece : List α}
    (h : piece ∈ splitOn mark xs) : mark ∉ piece := by
  induction xs generalizing piece with
  | nil =>
    rw [splitOn, List.mem_singleton] at h
    simp [h]
  | cons x xs ih =>
    obtain ⟨first, pieces, hxs, hall⟩ := splitOn_cons mark x xs
    rw [hxs] at ih
    rw [hall] at h
    split at h
    · obtain rfl | h := List.mem_cons.1 h
      · simp
      · exact ih h
    · next hne =>
      obtain rfl | h := List.mem_cons.1 h
      · rw [List.mem_cons, not_or]
        exact ⟨fun heq => hne (by simp [heq]), ih List.mem_cons_self⟩
      · exact ih (List.mem_cons_of_mem _ h)

end Text

namespace Files

open Sandbox.Path (Component join)

/-! ### Locations -/

/-- All names on the way to a location are names of entries. -/
def Location.IsProper (location : Location) : Prop :=
  ∀ name ∈ location, IsPlain name

/-- A name between slashes that is neither empty nor a point stands for an entry, or for the way
up. -/
theorem isPlain_of_ofName {cs : List Char} {name : String} (hslash : '/' ∉ cs) (hempty : cs ≠ [])
    (hpoint : cs ≠ ['.']) (h : Component.ofName cs = .name name) : IsPlain name := by
  unfold Component.ofName at h
  split at h
  · cases h
  · next hup =>
    cases h
    refine ⟨⟨?_, ?_, ?_⟩, by simpa using hslash⟩ <;>
      (rw [Ne, ← String.toList_inj, String.toList_ofList]; assumption)

theorem isPlain_of_mem_steps {path name : String} (h : .name name ∈ steps path) :
    IsPlain name := by
  have hstep : ∀ {piece}, piece ∈ Text.splitOn '/' path.toList → stepOf piece = .name name →
      IsPlain name := by
    intro piece hpiece hstep
    unfold stepOf at hstep
    split at hstep
    · cases hstep
    · next hne =>
      rw [Bool.or_eq_true, decide_eq_true_eq, decide_eq_true_eq, not_or] at hne
      exact isPlain_of_ofName (Text.not_mem_of_mem_splitOn hpiece) hne.1 hne.2 hstep
  unfold steps at h
  cases hpieces : Text.splitOn '/' path.toList with
  | nil => exact absurd hpieces (Text.splitOn_ne_nil _ _)
  | cons first pieces =>
    rw [hpieces] at h hstep
    obtain h | h := List.mem_cons.1 h
    · split at h
      · cases h
      · exact hstep List.mem_cons_self h.symm
    · obtain ⟨piece, hpiece, heq⟩ := List.mem_map.1 h
      exact hstep (List.mem_cons_of_mem _ hpiece) heq

/-- The way to an entry of an archive consists of names of entries. -/
theorem isProper_of_names? {entry : Entry} {names : Location} (h : entry.names? = some names) :
    names.IsProper := by
  have hcomponents : ∀ name, .name name ∈ Path.components entry.name → IsPlain name := by
    intro name hmem
    unfold Path.components at hmem
    generalize Path.splitFront entry.name.toList = split at hmem
    obtain ⟨front, body⟩ := split
    dsimp only at hmem
    obtain hfirst | hmem := List.mem_append.1 hmem
    · split at hfirst <;> simp at hfirst
    · obtain ⟨piece, hpiece, heq⟩ := List.mem_map.1 hmem
      obtain ⟨hpiece, hkept⟩ := List.mem_filter.1 hpiece
      have hkept : piece ≠ [] ∧ piece ≠ ['.'] := by simpa using hkept
      exact isPlain_of_ofName (Text.not_mem_of_mem_splitOn hpiece) hkept.1 hkept.2 heq
  unfold Entry.names? at h
  generalize Path.components entry.name = components at h hcomponents
  induction components generalizing names with
  | nil =>
    cases h
    exact fun name hname => absurd hname List.not_mem_nil
  | cons component components ih =>
    have ih {rest : Location} (h : components.foldr _ (some []) = some rest) : rest.IsProper :=
      ih h fun name hname => hcomponents name (List.mem_cons_of_mem _ hname)
    rw [List.foldr_cons] at h
    split at h
    · cases h
    · next name =>
      obtain ⟨rest, hrest, rfl⟩ := Option.map_eq_some_iff.1 h
      intro other hother
      obtain rfl | hother := List.mem_cons.1 hother
      · exact hcomponents _ List.mem_cons_self
      · exact ih hrest other hother
    · exact ih h

variable {tree : Tree} {follow : Bool} {links : Nat} {start goal location base : Location}
  {rest : List Component} {path name : String}

theorem Location.IsProper.concat (h : location.IsProper) (hname : IsPlain name) :
    Location.IsProper (location ++ [name]) := by
  intro other hother
  obtain hother | hother := List.mem_append.1 hother
  · exact h other hother
  · rw [List.mem_singleton] at hother
    exact hother ▸ hname

theorem Location.IsProper.dropLast (h : location.IsProper) : Location.IsProper location.dropLast :=
  fun name hname => h name ((List.dropLast_sublist _).subset hname)

/-- A walk leads to names of entries. -/
theorem Location.IsProper.walk (hstart : start.IsProper)
    (hrest : ∀ name, .name name ∈ rest → IsPlain name)
    (h : tree.walk follow links start rest = .ok goal) : goal.IsProper := by
  induction Tree.walks_of_walk h with
  | done => exact hstart
  | root next ih =>
    refine ih (fun name hname => absurd hname List.not_mem_nil) (fun name hname => ?_) next.walk
    exact hrest name (List.mem_cons_of_mem _ hname)
  | here _ next ih =>
    exact ih hstart (fun name hname => hrest name (List.mem_cons_of_mem _ hname)) next.walk
  | up _ next ih =>
    exact ih hstart.dropLast (fun name hname => hrest name (List.mem_cons_of_mem _ hname)) next.walk
  | new | last => exact hstart.concat (hrest _ List.mem_cons_self)
  | link _ _ _ _ _ next ih =>
    refine ih hstart (fun name hname => ?_) next.walk
    obtain hname | hname := List.mem_append.1 hname
    · exact isPlain_of_mem_steps hname
    · exact hrest name (List.mem_cons_of_mem _ hname)
  | entry _ _ _ _ next ih =>
    exact ih (hstart.concat (hrest _ List.mem_cons_self))
      (fun name hname => hrest name (List.mem_cons_of_mem _ hname)) next.walk

theorem Tree.IsAt.isProper (h : tree.IsAt path base) (hhere : tree.here.IsProper) :
    base.IsProper :=
  Location.IsProper.walk hhere (fun _ => isPlain_of_mem_steps) h.leads

/-! ### Paths of locations -/

theorem path_concat_eq (location : Location) (name : String) :
    Location.path (location ++ [name]) =
      String.join (location.map fun name => "/" ++ name) ++ "/" ++ name := by
  simp [Location.path, String.append_assoc]

theorem Location.path_ne_empty (location : Location) : location.path ≠ "" := by
  obtain rfl | ⟨front, name, rfl⟩ := location.eq_nil_or_concat
  · decide
  · rw [List.concat_eq_append, path_concat_eq]
    intro hempty
    have := congrArg String.toList hempty
    simp at this

/-- What ends with a name does not end with a slash. -/
theorem endsWith_slash_append (front : String) (hname : IsPlain name) :
    Text.endsWith (front ++ name) "/" = false := by
  rw [Bool.eq_false_iff]
  intro hend
  obtain ⟨other, hother⟩ := eq_append_slash_of_endsWith hend
  obtain hempty | ⟨cs, c, hc⟩ := name.toList.eq_nil_or_concat
  · exact hname.isEntry.1 (String.toList_inj.1 hempty)
  · have heq := congrArg String.toList hother
    rw [String.toList_append, String.toList_append, hc, List.concat_eq_append,
      ← List.append_assoc] at heq
    have hslash : c = '/' := by simpa using (List.append_inj' heq rfl).2
    exact hname.noSlash (by simp [hc, hslash])

/-- The path of an entry of a directory. -/
theorem path_concat (h : location.IsProper) (hname : '/' ∉ name.toList) :
    Location.path (location ++ [name]) = join location.path name := by
  rw [path_concat_eq, join, isAbsolute_eq_false hname]
  induction location using List.reverseRecOn with
  | nil => rfl
  | append_singleton location last _ =>
    have hlast := h last (by simp)
    rw [path_concat_eq, endsWith_slash_append _ hlast]
    simp [String.append_assoc]

/-- A name is not dropped from the end of a path. -/
theorem dropTail_reverse (hname : IsPlain name) (before : List Char) :
    Path.dropTail (name.toList.reverse ++ before) = name.toList.reverse ++ before := by
  have hpoint : name.toList.reverse ≠ ['.'] := fun heq => hname.isEntry.2.1 (by
    rw [← String.toList_inj, ← List.reverse_inj, heq]
    rfl)
  have hempty : name.toList.reverse ≠ [] := by simpa using hname.isEntry.1
  have hslash : '/' ∉ name.toList.reverse := by simpa using hname.noSlash
  generalize name.toList.reverse = cs at hpoint hempty hslash
  obtain ⟨c, cs, rfl⟩ := List.exists_cons_of_ne_nil hempty
  rw [Path.dropTail.eq_def]
  split
  · next heq =>
    rw [List.cons_append, List.cons.injEq] at heq
    simp [heq.1] at hslash
  · next heq =>
    rw [List.cons_append, List.cons.injEq] at heq
    cases cs with
    | nil => simp [heq.1] at hpoint
    | cons d cs =>
      rw [List.cons_append, List.cons.injEq] at heq
      simp [heq.2.1] at hslash
  · next heq =>
    rw [List.cons_append, List.cons.injEq, List.append_eq_nil_iff] at heq
    simp [heq.1, heq.2.1] at hpoint
  · rfl

/-- The parent of an absolute path that ends with a name. -/
theorem parent?_append (hname : IsPlain name) {before : List Char}
    (hpath : path.toList = '/' :: (before ++ name.toList))
    (hbefore : before = [] ∨ ∃ rest, before = rest ++ ['/']) :
    Path.parent? path = some (String.ofList ('/' :: (Path.dropTail before.reverse).reverse)) := by
  have hslash : ∀ c ∈ name.toList.reverse, (c != '/') = true := fun c hc => by
    simpa using fun heq : c = '/' => hname.noSlash (by simpa [heq] using hc)
  have hdrop : (name.toList.reverse ++ before.reverse).dropWhile (· != '/') = before.reverse := by
    rw [List.dropWhile_append_of_pos hslash]
    obtain rfl | ⟨rest, rfl⟩ := hbefore
    · rfl
    · simp
  have htail := dropTail_reverse hname before.reverse
  have hfront : Path.splitFront path.toList = (['/'], before ++ name.toList) := by
    rw [hpath]
    rfl
  unfold Path.parent?
  rw [hfront]
  dsimp only
  rw [List.reverse_append, htail]
  have hempty : name.toList.reverse ≠ [] := by simpa using hname.isEntry.1
  split
  · next hnil => exact absurd (List.append_eq_nil_iff.1 hnil).1 hempty
  · next hcons =>
    rw [← hcons, hdrop]
    rfl

theorem toList_join_map (location : Location) :
    (String.join (location.map fun name => "/" ++ name)).toList =
      location.flatMap fun name => '/' :: name.toList := by
  rw [String.toList_join, List.flatMap_map]
  simp

/-- The parent of an entry is the directory that it is in. -/
theorem parent?_path (h : location.IsProper) (hname : IsPlain name) :
    Path.parent? (Location.path (location ++ [name])) = some location.path := by
  have hpath : (Location.path (location ++ [name])).toList =
      (location.flatMap fun name => '/' :: name.toList) ++ '/' :: name.toList := by
    rw [path_concat_eq, String.toList_append, String.toList_append, toList_join_map]
    simp
  obtain rfl | ⟨front, last, rfl⟩ := location.eq_nil_or_concat
  · exact parent?_append hname hpath (.inl rfl)
  · rw [List.concat_eq_append] at h hpath ⊢
    have hlast := h last (by simp)
    obtain ⟨before, hbefore⟩ : ∃ before,
        ((front ++ [last]).flatMap fun name => '/' :: name.toList) =
          '/' :: (before ++ last.toList) := by
      cases front with
      | nil => exact ⟨[], by simp⟩
      | cons first front =>
        exact ⟨first.toList ++ (front.flatMap fun name => '/' :: name.toList) ++ ['/'], by simp⟩
    have hpath : (Location.path (front ++ [last] ++ [name])).toList =
        '/' :: ((before ++ last.toList ++ ['/']) ++ name.toList) := by
      rw [hpath, hbefore]
      simp
    have hdrop : Path.dropTail (before ++ last.toList ++ ['/']).reverse =
        (before ++ last.toList).reverse := by
      rw [List.reverse_append, List.reverse_singleton, List.singleton_append, Path.dropTail,
        List.reverse_append, dropTail_reverse hlast]
    rw [parent?_append hname hpath (.inr ⟨_, rfl⟩), hdrop, List.reverse_reverse, ← hbefore,
      ← toList_join_map, String.ofList_toList]
    simp [Location.path]

theorem parent?_root : Path.parent? (Location.path []) = none := by
  decide +kernel

/-- The parent of a location, the parent of that and so on are locations on the way to it. -/
theorem exists_of_mem_ancestors {parent : String} (h : location.IsProper)
    (hmem : parent ∈ Path.ancestors location.path) :
    ∃ front : Location, front.IsProper ∧ parent = front.path := by
  induction location using List.reverseRecOn with
  | nil =>
    rw [Path.ancestors] at hmem
    split at hmem
    · next hparent =>
      rw [parent?_root] at hparent
      cases hparent
    · exact ⟨[], h, List.mem_singleton.1 hmem⟩
  | append_singleton location name ih =>
    have hlocation : Location.IsProper location := fun name hname =>
      h name (List.mem_append_left _ hname)
    rw [Path.ancestors] at hmem
    obtain rfl | hmem := List.mem_cons.1 hmem
    · exact ⟨location ++ [name], h, rfl⟩
    · rw [parent?_path hlocation (h name (by simp))] at hmem
      exact ih hlocation hmem

namespace Tree

/-! ### Entries of directories that are found -/

theorem find_of_canonical (h : tree.canonical path = .ok location) :
    ∃ node, tree.find true path = .ok (location, node) := by
  unfold canonical at h
  cases hfind : tree.find true path with
  | error e => simp [hfind, Functor.map, Except.map] at h
  | ok found =>
    simp only [hfind, Functor.map, Except.map] at h
    cases h
    exact ⟨found.2, rfl⟩

theorem IsAt.of_canonical (hat : tree.IsAt path base) (h : tree.canonical path = .ok location) :
    base = location := by
  obtain ⟨node, hfind⟩ := find_of_canonical h
  have hwalk := (locate_eq_ok (find_eq_ok hfind).1).2
  rw [hat.leads] at hwalk
  cases hwalk
  rfl

/-- The path of an entry leads into the directory that is found. -/
theorem eq_of_locate_join (hname : IsPlain name) (hparent : tree.canonical path = .ok location)
    (h : tree.locate false (join path name) = .ok goal) : goal = location ++ [name] := by
  obtain ⟨base, hat⟩ := isAt_of_locate_join hname h
  obtain rfl := hat.of_canonical hparent
  rw [hat.locate_join hname (by simp)] at h
  exact eq_of_entryOf h

/-- If something is found by a path, the way to an entry below it is not missing. -/
theorem locate_join_ne_notFound (hname : IsPlain name)
    (hparent : tree.canonical path = .ok location) :
    tree.locate false (join path name) ≠ .error .notFound := by
  obtain ⟨node, hfind⟩ := find_of_canonical hparent
  obtain ⟨hlocate, hnode⟩ := find_eq_ok hfind
  have hwalk := (locate_eq_ok hlocate).2
  by_cases hdirectory : tree.isDirectoryAt location = true
  · have hat : tree.IsAt path location := ⟨hwalk, isDirectoryAt_iff.1 hdirectory⟩
    rw [hat.locate_join hname (by simp)]
    exact entryOf_ne_notFound path name location
  · -- what is found is a file, so no step can be taken from there
    obtain ⟨front, hfront | hfront, hjoin⟩ := steps_join path hname
    · rw [hfront] at hwalk
      obtain ⟨left, hleft⟩ := walk_append hwalk (by simp [hnode])
      have hempty : (join path name).isEmpty = false := by simpa using join_ne_empty path hname
      have hstep : tree.walk false left location [.name name] = .error .notADirectory := by
        rw [walk.eq_def]
        simp [hdirectory]
      unfold locate
      rw [hempty, hjoin, hleft false [.name name] (by simp), hstep]
      simp only [Bool.false_eq_true, ↓reduceIte]
      split
      · simp
      · split <;> simp
    · rw [hfront] at hwalk
      obtain ⟨middle, left, -, hend⟩ := walk_of_append hwalk (by simp)
      cases walks_of_walk hend with
      | here hhere next =>
        cases next
        exact absurd hhere hdirectory

end Tree

end Files

end Sandbox
