import Sandbox.Text.Search

/-!
# Paths

A path is a text of names with slashes between them. Empty names and `.` stand for nothing, except
that a relative path may begin with `.`. Nothing here looks at the file system.

## Main definitions

* `Path.join` : a path below another.
* `Path.components` : the steps of a path.
* `Path.parent?`, `Path.fileName?`, `Path.extension?` : the parts of a path.
* `Path.ancestors` : a path and its parents up to the last one.
-/

namespace Sandbox.Path

/-- Whether a path begins at the root. -/
def isAbsolute (path : String) : Bool :=
  Text.beginsWith path "/"

/-- `path` below `base`: an absolute path replaces the base. -/
def join (base path : String) : String :=
  if isAbsolute path || base.isEmpty then path
  else if Text.endsWith base "/" then base ++ path
  else base ++ "/" ++ path

/-- One step of a path. -/
inductive Component where
  /-- To the root. -/
  | root
  /-- To where one stands. -/
  | here
  /-- To the directory above. -/
  | up
  /-- To the entry of that name. -/
  | name (name : String)
  deriving DecidableEq, Repr

/-- A path as its beginning, which is the root, a first `.` or nothing, and all that follows. -/
def splitFront : List Char → List Char × List Char
  | '/' :: rest => (['/'], rest)
  | ['.'] => (['.'], [])
  | '.' :: '/' :: rest => (['.'], '/' :: rest)
  | cs => ([], cs)

/-- The step that stands for a name. -/
def Component.ofName (name : List Char) : Component :=
  if name = ['.', '.'] then .up else .name (String.ofList name)

/-- The steps of a path. -/
def components (path : String) : List Component :=
  let (front, body) := splitFront path.toList
  let first := match front with
    | ['/'] => [.root]
    | ['.'] => [.here]
    | _ => []
  let names := (Text.splitOn '/' body).filter fun name => !name.isEmpty && name != ['.']
  first ++ names.map Component.ofName

/-- The characters of a path in reverse order, without what stands for nothing at its end. -/
def dropTail : List Char → List Char
  | '/' :: before => dropTail before
  | '.' :: '/' :: before => dropTail before
  | ['.'] => []
  | before => before

/-- The path without its last step, if that is a name. The root and the empty path have no
parent. -/
def parent? (path : String) : Option String :=
  let (front, body) := splitFront path.toList
  match dropTail body.reverse with
  | [] => if front = ['.'] then some "" else none
  | c :: before =>
    some (String.ofList
      (front ++ (dropTail ((c :: before).dropWhile (· != '/'))).reverse))

/-- The last step of a path, if it is a name. -/
def fileName? (path : String) : Option String :=
  match dropTail (splitFront path.toList).2.reverse with
  | [] => none
  | c :: before =>
    let name := ((c :: before).takeWhile (· != '/')).reverse
    if name = ['.', '.'] then none else some (String.ofList name)

/-- What follows the last point of the file name, if the name has one that is not its first
character. -/
def extension? (path : String) : Option String := do
  let name := (← fileName? path).toList.reverse
  let ending := name.takeWhile (· != '.')
  if name.length ≤ ending.length + 1 then none
  else some (String.ofList ending.reverse)

theorem length_dropTail_le (cs : List Char) : (dropTail cs).length ≤ cs.length := by
  fun_induction dropTail cs <;> simp_all <;> omega

theorem length_dropWhile_le {α : Type} (p : α → Bool) (xs : List α) :
    (xs.dropWhile p).length ≤ xs.length := by
  induction xs with
  | nil => simp
  | cons x xs ih =>
    rw [List.dropWhile_cons]
    split
    · simpa using Nat.le_succ_of_le ih
    · simp

theorem length_splitFront (cs : List Char) :
    (splitFront cs).1.length + (splitFront cs).2.length = cs.length := by
  unfold splitFront
  split <;> simp <;> omega

/-- What is left of reversed characters once their last name is gone is shorter. -/
theorem length_dropTail_lt {cs : List Char} {c : Char} {before : List Char}
    (h : dropTail cs = c :: before) :
    (dropTail ((c :: before).dropWhile (· != '/'))).length < cs.length := by
  have hle := length_dropTail_le cs
  rw [h] at hle
  have hc : c ≠ '/' := by
    intro hc
    subst hc
    clear hle
    fun_induction dropTail cs <;> simp_all
  have hdrop : (c :: before).dropWhile (· != '/') = before.dropWhile (· != '/') := by
    simp [hc]
  rw [hdrop]
  calc (dropTail (before.dropWhile (· != '/'))).length
      ≤ (before.dropWhile (· != '/')).length := length_dropTail_le _
    _ ≤ before.length := length_dropWhile_le _ _
    _ < (c :: before).length := by simp
    _ ≤ cs.length := hle

/-- A parent is shorter. -/
theorem length_parent? {path parent : String} (h : parent? path = some parent) :
    parent.length < path.length := by
  have hsplit := length_splitFront path.toList
  unfold parent? at h
  split at h
  rename_i front body hfront
  rw [hfront] at hsplit
  dsimp only at hsplit
  rw [← String.length_toList, ← String.length_toList]
  split at h
  · split at h
    · next hdot =>
      cases h
      subst hdot
      simp at hsplit ⊢
      omega
    · cases h
  · next c before hbody =>
    cases h
    have hlt := length_dropTail_lt hbody
    rw [List.length_reverse] at hlt
    simp only [String.toList_ofList, List.length_append, List.length_reverse]
    omega

/-- A path, its parent, the parent of that, and so on. -/
def ancestors (path : String) : List String :=
  path :: match _h : parent? path with
    | some parent => ancestors parent
    | none => []
termination_by path.length
decreasing_by exact length_parent? _h

end Sandbox.Path
