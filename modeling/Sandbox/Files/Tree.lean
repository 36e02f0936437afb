import Sandbox.Files.Content

/-!
# Trees of files

A tree knows what stands at each location below the root. A location is the list of names on the
way from the root. Nothing here follows symbolic links; that is the matter of paths.

## Main definitions

* `Location`, `Node`, `Tree` : the data.
* `Tree.node?` : what stands at a location.
* `Tree.put`, `Tree.remove`, `Tree.move` : trees that differ in one place.

## Main results

* `Tree.node?_put`, `Tree.node?_remove` : what stands where after a change.
-/

namespace Sandbox.Files

/-- The names on the way from the root. -/
abbrev Location : Type := List String

/-- What stands at a location. -/
inductive Node where
  /-- A file and whether it may be run. -/
  | file (content : Content) (isExecutable : Bool)
  /-- A directory. -/
  | directory
  /-- A symbolic link to a path. -/
  | link (target : String)

/-- Whether a node is a directory. -/
def Node.isDirectory : Node → Bool
  | directory => true
  | _ => false

/-- Whether a node is a file. -/
def Node.isFile : Node → Bool
  | file _ _ => true
  | _ => false

/-- What stands at the locations below the root. -/
structure Tree where
  /-- The locations in the order in which they came to be, each with what stands there. -/
  entries : List (Location × Node)
  /-- The location at which relative paths begin. -/
  here : Location := []

namespace Tree

/-- What stands at a location. The root is always a directory. -/
def node? (tree : Tree) (location : Location) : Option Node :=
  if location = [] then some .directory
  else (tree.entries.find? fun entry => entry.1 == location).map Prod.snd

/-- Whether a directory stands at a location. -/
def isDirectoryAt (tree : Tree) (location : Location) : Bool :=
  (tree.node? location).any Node.isDirectory

/-- The tree with another node at a location. -/
def put (tree : Tree) (location : Location) (node : Node) : Tree :=
  { tree with
    entries := (tree.entries.filter fun entry => entry.1 != location) ++ [(location, node)] }

/-- The tree without a location and all that is below it. -/
def remove (tree : Tree) (location : Location) : Tree :=
  { tree with entries := tree.entries.filter fun entry => !location.isPrefixOf entry.1 }

/-- A location below `source` as the one below `target`. -/
def rebase (source target location : Location) : Location :=
  match Text.stripStart? source location with
  | some rest => target ++ rest
  | none => location

/-- The tree in which what was at `source` and below is at `target`, in place of what was there. -/
def move (tree : Tree) (source target : Location) : Tree :=
  let cleared := tree.remove target
  { cleared with
    entries := cleared.entries.map fun entry => (rebase source target entry.1, entry.2) }

/-- The name that a location has right below a directory. -/
def childName? (directory location : Location) : Option String :=
  match Text.stripStart? directory location with
  | some [name] => some name
  | _ => none

/-- The names right below a directory. -/
def childrenAt (tree : Tree) (directory : Location) : List String :=
  tree.entries.filterMap fun entry => childName? directory entry.1

/-- What stands below a location, by the names on the way from there. -/
def below (tree : Tree) (location : Location) : List (Location × Node) :=
  tree.entries.filterMap fun entry =>
    match Text.stripStart? location entry.1 with
    | some (name :: names) => some (name :: names, entry.2)
    | _ => none

/-! ### What stands where after a change -/

theorem node?_nil (tree : Tree) : tree.node? [] = some .directory := by
  simp [node?]

theorem find?_filter_ne (entries : List (Location × Node)) {location other : Location}
    (h : other ≠ location) :
    (entries.filter fun entry => entry.1 != location).find? (fun entry => entry.1 == other) =
      entries.find? fun entry => entry.1 == other := by
  induction entries with
  | nil => rfl
  | cons entry entries ih =>
    rw [List.filter_cons]
    by_cases hentry : entry.1 = location
    · have hother : (entry.1 == other) = false := by
        simpa [hentry] using fun heq => h heq.symm
      simp [hentry, List.find?_cons, ih]
      rw [← hentry, hother]
    · simp only [bne_iff_ne, ne_eq, hentry, not_false_eq_true, ↓reduceIte, List.find?_cons, ih]

theorem find?_filter_self (entries : List (Location × Node)) (location : Location) :
    (entries.filter fun entry => entry.1 != location).find? (fun entry => entry.1 == location) =
      none := by
  rw [List.find?_eq_none]
  intro entry hentry
  have := (List.mem_filter.1 hentry).2
  simpa using this

theorem node?_put (tree : Tree) (location other : Location) (node : Node) (hne : location ≠ []) :
    (tree.put location node).node? other =
      if other = location then some node else tree.node? other := by
  unfold node? put
  by_cases hroot : other = []
  · subst hroot
    simp [hne.symm]
  · rw [if_neg hroot, if_neg hroot, List.find?_append]
    by_cases heq : other = location
    · subst heq
      rw [find?_filter_self, Option.none_or]
      simp
    · rw [find?_filter_ne _ heq, if_neg heq]
      have : (location == other) = false := by simpa using fun h => heq h.symm
      simp [this]

theorem node?_remove (tree : Tree) (location other : Location) (hne : other ≠ []) :
    (tree.remove location).node? other =
      if location.isPrefixOf other then none else tree.node? other := by
  unfold node? remove
  rw [if_neg hne, if_neg hne]
  induction tree.entries with
  | nil => simp
  | cons entry entries ih =>
    dsimp only at ih ⊢
    rw [List.filter_cons, List.find?_cons]
    by_cases heq : entry.1 = other
    · subst heq
      by_cases hfront : location.isPrefixOf entry.1
      · simp only [hfront, Bool.not_true, Bool.false_eq_true, ↓reduceIte] at ih ⊢
        exact ih
      · simp [hfront]
    · have hother : (entry.1 == other) = false := by simpa using heq
      simp only [hother]
      split
      · rw [List.find?_cons, hother]
        exact ih
      · exact ih

end Tree

end Sandbox.Files
