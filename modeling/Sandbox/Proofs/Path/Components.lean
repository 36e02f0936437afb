import Sandbox.Proofs.Files.Homes

/-!
# Steps of joined paths and of parents

The steps of a path are a first step, if the path begins at the root or with a point, and one step
for each name between slashes. Joining paths puts their steps one after the other, unless the second
path is absolute, and the parent of a path has the same steps without the last one. So the paths
from a path upwards have the beginnings of its steps, from all of them down to the root or to none.

## Main definitions

* `stepsIn`, `stepsOfFront` : the steps of a path by its characters.
* `Climb` : a path, its parent, the parent of that, up to a path without parent.

## Main results

* `components_join` : the steps of joined paths.
* `exists_step_of_parent?`, `components_of_parent?_eq_none` : the steps of a parent.
* `components_getElem_ancestors`, `length_ancestors` : the steps of the paths from a path upwards.
-/

namespace Sandbox.Path

open Text (splitOn)

/-- The steps for the names between slashes. Empty names and points stand for nothing. -/
def stepsIn (cs : List Char) : List Component :=
  ((splitOn '/' cs).filter fun name => !name.isEmpty && name != ['.']).map Component.ofName

/-- The first step of a path that begins at the root or with a point. -/
def stepsOfFront (front : List Char) : List Component :=
  if front = ['/'] then [.root] else if front = ['.'] then [.here] else []

/-! ### Names between slashes -/

theorem stepsIn_nil : stepsIn [] = [] := rfl

theorem stepsIn_point : stepsIn ['.'] = [] := by
  decide +kernel

theorem stepsIn_append (cs rest : List Char) :
    stepsIn (cs ++ '/' :: rest) = stepsIn cs ++ stepsIn rest := by
  rw [stepsIn, Text.splitOn_append, List.filter_append, List.map_append]
  rfl

theorem stepsIn_slash (cs : List Char) : stepsIn ('/' :: cs) = stepsIn cs :=
  stepsIn_append [] cs

theorem stepsIn_name {name : List Char} (hslash : '/' ∉ name) (hempty : name ≠ [])
    (hpoint : name ≠ ['.']) : stepsIn name = [Component.ofName name] := by
  rw [stepsIn, Text.splitOn_of_not_mem hslash]
  simp [hempty, hpoint]

theorem ofName_ne (name : List Char) :
    Component.ofName name ≠ .root ∧ Component.ofName name ≠ .here := by
  unfold Component.ofName
  split <;> simp

theorem ofName_of_mem_stepsIn {cs : List Char} {step : Component} (h : step ∈ stepsIn cs) :
    step ≠ .root ∧ step ≠ .here := by
  obtain ⟨name, -, rfl⟩ := List.mem_map.1 h
  exact ofName_ne name

/-! ### Beginnings of paths -/

theorem components_eq (path : String) :
    components path =
      stepsOfFront (splitFront path.toList).1 ++ stepsIn (splitFront path.toList).2 := by
  unfold components stepsOfFront
  obtain ⟨front, body⟩ := splitFront path.toList
  dsimp only [stepsIn]
  split <;> simp_all

theorem front_cases (cs : List Char) :
    (splitFront cs).1 = ['/'] ∨ (splitFront cs).1 = ['.'] ∨ (splitFront cs).1 = [] := by
  unfold splitFront
  split <;> simp

/-- Nothing or a slash follows a first point. -/
theorem splitFront_point {cs : List Char} (h : (splitFront cs).1 = ['.']) :
    (splitFront cs).2 = [] ∨ ∃ rest, (splitFront cs).2 = '/' :: rest := by
  unfold splitFront at h ⊢
  split <;> simp_all

theorem isAbsolute_iff (path : String) :
    isAbsolute path = true ↔ (splitFront path.toList).1 = ['/'] := by
  unfold isAbsolute Text.beginsWith Text.hasStart splitFront
  split
  · next heq => simp [heq, Text.stripStart?]
  · next heq => simp [heq, Text.stripStart?]
  · next heq => simp [heq, Text.stripStart?]
  · next hroot _ _ =>
    cases hpath : path.toList with
    | nil => simp [Text.stripStart?]
    | cons c cs =>
      have hc : ('/' == c) = false := by
        simpa using fun heq : '/' = c => hroot cs (by rw [hpath, heq])
      simp [Text.stripStart?, hc]

/-! ### Joined paths -/

theorem splitFront_slash {cs : List Char} (hcs : cs ≠ []) (rest : List Char) :
    splitFront (cs ++ '/' :: rest) = ((splitFront cs).1, (splitFront cs).2 ++ '/' :: rest) := by
  conv => rhs; unfold splitFront
  split
  · rfl
  · rfl
  · rfl
  · next hroot hpoint hhere =>
    obtain ⟨c, cs, rfl⟩ := List.exists_cons_of_ne_nil hcs
    rw [List.cons_append, splitFront.eq_def]
    split
    · next heq => exact absurd (by rw [(List.cons.inj heq).1]) (hroot cs)
    · next heq => simp at heq
    · next heq =>
      obtain ⟨rfl, hrest⟩ := List.cons.inj heq
      cases cs with
      | nil => exact absurd rfl hpoint
      | cons d cs => exact absurd (by rw [(List.cons.inj hrest).1]) (hhere cs)
    · rfl

/-- The steps of what stands before a slash, and then those for the names behind it. -/
theorem components_slash {front : String} (hfront : front ≠ "") (rest : String) :
    components (front ++ "/" ++ rest) = components front ++ stepsIn rest.toList := by
  have hcs : front.toList ≠ [] := by simpa using hfront
  have hall : (front ++ "/" ++ rest).toList = front.toList ++ '/' :: rest.toList := by simp
  rw [components_eq, hall, splitFront_slash hcs, components_eq front, stepsIn_append,
    List.append_assoc]

theorem components_root (rest : String) :
    components ("/" ++ rest) = .root :: stepsIn rest.toList := by
  have hall : ("/" ++ rest).toList = '/' :: rest.toList := by simp
  rw [components_eq, hall]
  rfl

/-- The steps of a relative path for its names. -/
theorem filter_components {path : String} (h : isAbsolute path = false) :
    (components path).filter (· ≠ .here) = stepsIn path.toList := by
  have hnames (cs : List Char) : (stepsIn cs).filter (· ≠ .here) = stepsIn cs :=
    List.filter_eq_self.2 fun step hstep => by simpa using (ofName_of_mem_stepsIn hstep).2
  rw [components_eq, List.filter_append, hnames]
  have hsplit := splitFront_append path.toList
  obtain hroot | hpoint | hnone := front_cases path.toList
  · rw [(isAbsolute_iff path).2 hroot] at h
    cases h
  · rw [hpoint] at hsplit ⊢
    conv => rhs; rw [← hsplit]
    obtain hbody | ⟨rest, hbody⟩ := splitFront_point hpoint
    · rw [hbody, List.append_nil, stepsIn_point]
      rfl
    · rw [hbody, stepsIn_append, stepsIn_point, stepsIn_slash]
      rfl
  · rw [hnone, List.nil_append] at hsplit
    rw [hnone, hsplit]
    rfl

/-- A path below another takes the steps of both, one after the other, but for a first point. An
absolute path replaces the other. -/
theorem components_join (base path : String) :
    components (join base path) =
      if isAbsolute path || base.isEmpty then components path
      else components base ++ (components path).filter (· ≠ .here) := by
  unfold join
  by_cases halone : (isAbsolute path || base.isEmpty) = true
  · rw [if_pos halone, if_pos halone]
  rw [if_neg halone, if_neg halone]
  obtain ⟨habsolute, hbase⟩ : isAbsolute path = false ∧ base ≠ "" := by simpa using halone
  rw [filter_components habsolute]
  split
  · next hend =>
    obtain ⟨front, rfl⟩ := Files.eq_append_slash_of_endsWith hend
    by_cases hfront : front = ""
    · subst hfront
      have hroot := components_root ""
      rw [String.append_empty] at hroot
      rw [String.empty_append, components_root, hroot]
      rfl
    · have hslash := components_slash hfront ""
      rw [String.append_empty] at hslash
      rw [components_slash hfront, hslash, String.toList_empty, stepsIn_nil, List.append_nil]
  · exact components_slash hbase path

/-! ### Parents -/

theorem dropTail_dropTail (cs : List Char) : dropTail (dropTail cs) = dropTail cs := by
  fun_induction dropTail cs with
  | case1 before ih => exact ih
  | case2 before ih => exact ih
  | case3 => rfl
  | case4 before hslash hhere hpoint => exact dropTail.eq_4 before hslash hhere hpoint

/-- Dropping what stands for nothing at the end drops no steps. -/
theorem stepsIn_dropTail (cs : List Char) :
    stepsIn (dropTail cs).reverse = stepsIn cs.reverse := by
  fun_induction dropTail cs with
  | case1 before ih =>
    rw [ih, List.reverse_cons, stepsIn_append, stepsIn_nil, List.append_nil]
  | case2 before ih =>
    have hreverse : ('.' :: '/' :: before).reverse = before.reverse ++ '/' :: ['.'] := by simp
    rw [ih, hreverse, stepsIn_append, stepsIn_point, List.append_nil]
  | case3 => exact stepsIn_point.symm
  | case4 => rfl

/-- What is left begins, from the end, with a name. -/
theorem takeWhile_of_dropTail {cs before : List Char} {c : Char} (h : dropTail cs = c :: before) :
    let name := ((c :: before).takeWhile (· != '/')).reverse
    '/' ∉ name ∧ name ≠ [] ∧ name ≠ ['.'] := by
  have hfixed := dropTail_dropTail cs
  rw [h] at hfixed
  have hc : c ≠ '/' := by
    rintro rfl
    have hle := length_dropTail_le before
    rw [dropTail] at hfixed
    rw [hfixed, List.length_cons] at hle
    omega
  have htake : (c :: before).takeWhile (· != '/') = c :: before.takeWhile (· != '/') := by
    simp [hc]
  rw [htake]
  refine ⟨fun hmem => ?_, by simp, fun hpoint => ?_⟩
  · rw [← htake, List.mem_reverse] at hmem
    simpa using List.all_eq_true.1 List.all_takeWhile _ hmem
  · obtain ⟨rfl, hnone⟩ : c = '.' ∧ before.takeWhile (· != '/') = [] := by
      simpa using congrArg List.reverse hpoint
    cases before with
    | nil => simp [dropTail] at hfixed
    | cons d before =>
      obtain rfl : d = '/' := by simpa [List.takeWhile_cons] using hnone
      have hle := length_dropTail_le before
      rw [dropTail] at hfixed
      rw [hfixed, List.length_cons, List.length_cons] at hle
      omega

/-- The last name of what is left, and what stands before it. -/
theorem stepsIn_of_dropTail {cs before : List Char} {c : Char} (h : dropTail cs = c :: before) :
    stepsIn cs.reverse =
      stepsIn (dropTail ((c :: before).dropWhile (· != '/'))).reverse ++
        [Component.ofName ((c :: before).takeWhile (· != '/')).reverse] := by
  obtain ⟨hslash, hempty, hpoint⟩ := takeWhile_of_dropTail h
  have hname := stepsIn_name hslash hempty hpoint
  have hsplit := List.takeWhile_append_dropWhile (p := (· != '/')) (l := c :: before)
  have hend := List.head?_dropWhile_not (· != '/') (c :: before)
  rw [stepsIn_dropTail, ← stepsIn_dropTail cs, h]
  generalize (c :: before).takeWhile (· != '/') = name at hname hsplit ⊢
  generalize (c :: before).dropWhile (· != '/') = left at hsplit hend ⊢
  rw [← hsplit, List.reverse_append]
  cases left with
  | nil => simpa [stepsIn_nil] using hname
  | cons d left =>
    obtain rfl : d = '/' := by simpa using hend
    rw [List.reverse_cons, List.append_assoc, List.singleton_append, stepsIn_append,
      stepsIn_append, stepsIn_nil, List.append_nil, hname]

/-- What stands before a slash behind the beginning of a path has the same beginning. -/
theorem splitFront_before {cs front body left : List Char} (h : splitFront cs = (front, body))
    (hleft : left = [] ∨ ∃ rest, body = left ++ '/' :: rest) :
    splitFront (front ++ left) = (front, left) := by
  unfold splitFront at h
  split at h
  · obtain ⟨rfl, -⟩ := Prod.mk.inj h
    rfl
  · obtain ⟨rfl, rfl⟩ := Prod.mk.inj h
    obtain rfl | ⟨rest, hrest⟩ := hleft
    · rfl
    · simp at hrest
  · obtain ⟨rfl, rfl⟩ := Prod.mk.inj h
    obtain rfl | ⟨rest, hrest⟩ := hleft
    · rfl
    · cases left with
      | nil => rfl
      | cons c left =>
        obtain ⟨rfl, -⟩ := List.cons.inj hrest
        rfl
  · next hroot hpoint hhere =>
    obtain ⟨rfl, rfl⟩ := Prod.mk.inj h
    obtain rfl | ⟨rest, rfl⟩ := hleft
    · rfl
    · rw [List.nil_append, splitFront.eq_def]
      split
      · exact absurd rfl (hroot _)
      · exact absurd rfl (hhere rest)
      · exact absurd rfl (hhere _)
      · rfl

/-- A path has one step more than its parent. -/
theorem exists_step_of_parent? {path parent : String} (h : parent? path = some parent) :
    ∃ step, step ≠ .root ∧ components path = components parent ++ [step] := by
  rw [components_eq path]
  unfold parent? at h
  cases hfront : splitFront path.toList with
  | mk front body =>
    rw [hfront] at h
    dsimp only at h ⊢
    split at h
    · next hbody =>
      have hnone := stepsIn_dropTail body.reverse
      rw [hbody, List.reverse_reverse] at hnone
      split at h
      · next hpoint =>
        cases h
        refine ⟨.here, by simp, ?_⟩
        rw [hpoint, ← hnone]
        rfl
      · cases h
    · next c before hbody =>
      cases h
      have hsteps := stepsIn_of_dropTail hbody
      rw [List.reverse_reverse] at hsteps
      have hsplit : splitFront (front ++ (dropTail ((c :: before).dropWhile (· != '/'))).reverse) =
          (front, (dropTail ((c :: before).dropWhile (· != '/'))).reverse) := by
        refine splitFront_before hfront ?_
        obtain hnil | ⟨rest, hrest⟩ := dropTail_dropWhile hbody
        · exact .inl (by rw [hnil, List.reverse_nil])
        · exact .inr ⟨rest.reverse, by simpa using congrArg List.reverse hrest⟩
      refine ⟨.ofName ((c :: before).takeWhile (· != '/')).reverse, (ofName_ne _).1, ?_⟩
      rw [components_eq, String.toList_ofList, hsplit, hsteps, ← List.append_assoc]

/-- Only paths to the root and paths without steps have no parent. -/
theorem components_of_parent?_eq_none {path : String} (h : parent? path = none) :
    components path = [] ∨ components path = [.root] := by
  rw [components_eq]
  have hfronts := front_cases path.toList
  unfold parent? at h
  cases hfront : splitFront path.toList with
  | mk front body =>
    rw [hfront] at h hfronts
    dsimp only at h hfronts ⊢
    split at h
    · next hbody =>
      have hnone := stepsIn_dropTail body.reverse
      rw [hbody, List.reverse_reverse] at hnone
      split at h
      · cases h
      · next hpoint =>
        obtain rfl | hpoint' | rfl := hfronts
        · exact .inr (by rw [← hnone]; rfl)
        · exact absurd hpoint' hpoint
        · exact .inl (by rw [← hnone]; rfl)
    · cases h

/-! ### Upwards -/

/-- Paths of which each is the parent of the one before, down to one without parent. -/
inductive Climb : List String → Prop
  /-- A path without parent. -/
  | top {path : String} (alone : parent? path = none) : Climb [path]
  /-- A path and its parent. -/
  | up {path parent : String} {above : List String} (isParent : parent? path = some parent)
      (rest : Climb (parent :: above)) : Climb (path :: parent :: above)

theorem ancestors_of_some {path parent : String} (h : parent? path = some parent) :
    ancestors path = path :: ancestors parent := by
  rw [ancestors]
  split
  · next other hother =>
    cases h.symm.trans hother
    rfl
  · next hnone => exact absurd (h.symm.trans hnone) (by simp)

theorem ancestors_of_none {path : String} (h : parent? path = none) : ancestors path = [path] := by
  rw [ancestors]
  split
  · next other hother => exact absurd (h.symm.trans hother) (by simp)
  · rfl

/-- What is proved of a path by way of its parent. -/
theorem parent_induction {motive : String → Prop}
    (top : ∀ path, parent? path = none → motive path)
    (up : ∀ path parent, parent? path = some parent → motive parent → motive path)
    (path : String) : motive path := by
  induction path using ancestors.induct with
  | case1 path ih =>
    cases h : parent? path with
    | none => exact top path h
    | some parent => exact up path parent h (ih parent h)

theorem exists_ancestors_eq (path : String) : ∃ above, ancestors path = path :: above :=
  ⟨_, ancestors.eq_def path⟩

theorem climb_ancestors (path : String) : Climb (ancestors path) := by
  induction path using parent_induction with
  | top path h =>
    rw [ancestors_of_none h]
    exact .top h
  | up path parent h ih =>
    obtain ⟨above, habove⟩ := exists_ancestors_eq parent
    rw [ancestors_of_some h, habove]
    exact .up h (habove ▸ ih)

theorem root_mem_components (path : String) : .root ∈ components path ↔ isAbsolute path = true := by
  have hnames (cs : List Char) : Component.root ∉ stepsIn cs :=
    fun h => (ofName_of_mem_stepsIn h).1 rfl
  rw [isAbsolute_iff, components_eq, List.mem_append]
  obtain hfront | hfront | hfront := front_cases path.toList <;>
    simp [hfront, stepsOfFront, hnames]

/-- There are as many paths from a path upwards as it has steps, and one more for a relative path,
whose last parent has no steps. -/
theorem length_ancestors (path : String) :
    (ancestors path).length =
      (components path).length + if isAbsolute path then 0 else 1 := by
  induction path using parent_induction with
  | top path h =>
    have habsolute := root_mem_components path
    rw [ancestors_of_none h]
    obtain hsteps | hsteps := components_of_parent?_eq_none h
    · rw [hsteps] at habsolute ⊢
      simp_all
    · rw [hsteps] at habsolute ⊢
      simp_all
  | up path parent h ih =>
    obtain ⟨step, hstep, hsteps⟩ := exists_step_of_parent? h
    have hsame : isAbsolute path = isAbsolute parent := by
      rw [Bool.eq_iff_iff, ← root_mem_components, ← root_mem_components, hsteps]
      simp [hstep.symm]
    rw [ancestors_of_some h, List.length_cons, ih, hsteps, hsame, List.length_append,
      List.length_singleton]
    omega

/-- The paths from a path upwards have the beginnings of its steps. -/
theorem components_getElem_ancestors (path : String) {k : Nat}
    (hk : k < (ancestors path).length) :
    components (ancestors path)[k] = (components path).take ((components path).length - k) := by
  induction path using parent_induction generalizing k with
  | top path h =>
    have hall := ancestors_of_none h
    obtain rfl : k = 0 := by
      rw [hall, List.length_singleton] at hk
      omega
    simp [hall]
  | up path parent h ih =>
    obtain ⟨step, -, hsteps⟩ := exists_step_of_parent? h
    have hall := ancestors_of_some h
    cases k with
    | zero => simp [hall]
    | succ k =>
      have hk' : k < (ancestors parent).length := by
        rw [hall, List.length_cons] at hk
        omega
      have hget : (ancestors path)[k + 1] = (ancestors parent)[k] := by simp [hall]
      rw [hget, ih hk', hsteps, List.length_append, List.length_singleton, Nat.add_sub_add_right,
        List.take_append_of_le_length (Nat.sub_le _ _)]

end Sandbox.Path
