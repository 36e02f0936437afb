import Sandbox.Fetch.Loader
import Sandbox.Proofs.Fetch.Naming
import Sandbox.Proofs.Path.Components

/-!
# Places are right below their directories

The place of a download is an entry of the cache directory, and until it is complete it is an entry
of the staging directory: each has one step more than the path of its directory, so it is neither
the directory itself nor anything above it, and wherever the directory is found, it leads to an
entry of it. That holds of all names that are made from addresses and not refused. No such name has
the ending of a module, so no module has the place of an archive.

## Main definitions

* `IsChild` : the path of an entry of a directory.
* `Loader.Confines` : the places of a name are entries.

## Main results

* `isChild_join` : a name behind the path of a directory.
* `cacheName_places` : the names made from addresses, and the places that they give.
-/

namespace Sandbox

namespace Path

open Files (IsPlain)

/-- The path of an entry of a directory. -/
structure IsChild (directory path : String) : Prop where
  /-- It has one step more than the path of the directory, which is to a name. -/
  steps : ∃ name, components path = components directory ++ [.name name]
  /-- Its parent has the steps of the path of the directory. -/
  parent : ∃ parent, parent? path = some parent ∧ components parent = components directory
  /-- It is not a path of the directory, nor of any above it. -/
  beyond : ∀ above ∈ ancestors directory, components path ≠ components above
  /-- In all trees of files, it leads to an entry of the directory, if it leads anywhere. -/
  leads : ∀ (tree : Files.Tree) (location : Files.Location), tree.locate false path = .ok location →
    ∃ base name, tree.IsAt directory base ∧ location = base ++ [name]

variable {directory path name : String}

theorem components_plain (h : IsPlain name) : components name = [.name name] := by
  have habsolute := Files.isAbsolute_eq_false h.noSlash
  obtain ⟨hempty, hhere, hup⟩ := h.isEntry
  have hempty : name.toList ≠ [] := by simpa using hempty
  have hhere : name.toList ≠ ['.'] := fun heq => hhere (String.toList_inj.1 heq)
  have hup : name.toList ≠ ['.', '.'] := fun heq => hup (String.toList_inj.1 heq)
  have hsplit := splitFront_append name.toList
  rw [components_eq]
  obtain hroot | hpoint | hnone := front_cases name.toList
  · rw [(isAbsolute_iff name).2 hroot] at habsolute
    cases habsolute
  · exfalso
    rw [hpoint] at hsplit
    obtain hbody | ⟨rest, hbody⟩ := splitFront_point hpoint
    · exact hhere (by rw [← hsplit, hbody, List.append_nil])
    · exact h.noSlash (by rw [← hsplit, hbody]; simp)
  · rw [hnone, List.nil_append] at hsplit
    rw [hnone, hsplit, stepsIn_name h.noSlash hempty hhere, Component.ofName, if_neg hup,
      String.ofList_toList]
    rfl

/-- The steps of the path of an entry. -/
theorem components_join_plain (directory : String) (h : IsPlain name) :
    components (join directory name) = components directory ++ [.name name] := by
  rw [components_join, Files.isAbsolute_eq_false h.noSlash, components_plain h, Bool.false_or]
  split
  · next hempty =>
    obtain rfl : directory = "" := by simpa using hempty
    rfl
  · rfl

/-- The path of a directory with a name behind it is the path of an entry. -/
theorem isChild_join (directory : String) (h : IsPlain name) :
    IsChild directory (join directory name) where
  steps := ⟨name, components_join_plain directory h⟩
  parent := by
    have hsteps := components_join_plain directory h
    cases hparent : parent? (join directory name) with
    | none =>
      obtain hnone | hroot := components_of_parent?_eq_none hparent
      · rw [hnone] at hsteps
        simp at hsteps
      · rw [hroot] at hsteps
        have hlast := congrArg List.getLast? hsteps
        simp at hlast
    | some parent =>
      obtain ⟨step, -, hparent⟩ := exists_step_of_parent? hparent
      rw [hsteps] at hparent
      exact ⟨parent, rfl, (List.append_inj' hparent rfl).1.symm⟩
  beyond above habove heq := by
    obtain ⟨k, hk, rfl⟩ := List.getElem_of_mem habove
    have hlength := congrArg List.length heq
    rw [components_join_plain directory h, components_getElem_ancestors directory hk,
      List.length_take, List.length_append, List.length_singleton] at hlength
    omega
  leads tree location hlocate := by
    obtain ⟨base, hat⟩ := Files.Tree.isAt_of_locate_join h hlocate
    rw [hat.locate_join h (by simp)] at hlocate
    exact ⟨base, name, hat, Files.eq_of_entryOf hlocate⟩

/-- A relative path behind another adds nothing but steps of its own. -/
theorem exists_components_join (directory : String) (h : isAbsolute path = false) :
    ∃ rest ⊆ components path, components (join directory path) = components directory ++ rest := by
  rw [components_join, h, Bool.false_or]
  split
  · next hempty =>
    obtain rfl : directory = "" := by simpa using hempty
    exact ⟨_, List.Subset.refl _, rfl⟩
  · exact ⟨_, List.filter_sublist.subset, rfl⟩

/-- Another name behind the path of a directory gives another path, even one that stands for no
entry. -/
theorem components_join_ne (directory : String) {other : String} (h : IsPlain name)
    (hslash : '/' ∉ other.toList) (hne : other ≠ name) :
    components (join directory other) ≠ components (join directory name) := by
  rw [components_join_plain directory h]
  by_cases hway : other = "" ∨ other = "." ∨ other = ".."
  · obtain ⟨rest, hrest, hsteps⟩ :=
      exists_components_join directory (Files.isAbsolute_eq_false hslash)
    have hnone : Component.name name ∉ components other := by
      obtain rfl | rfl | rfl := hway
      · exact List.not_mem_nil
      · exact fun hmem => nomatch List.mem_singleton.1 hmem
      · exact fun hmem => nomatch List.mem_singleton.1 hmem
    rw [hsteps]
    intro heq
    rw [List.append_cancel_left heq] at hrest
    exact hnone (hrest (List.mem_singleton.2 rfl))
  · rw [not_or, not_or] at hway
    rw [components_join_plain directory ⟨hway, hslash⟩]
    simpa using hne

end Path

/-! ### Places of downloads -/

namespace Fetch

open Files (IsPlain)
open Sandbox.Path (IsChild components isChild_join)

/-- The places of a name are entries of the cache directory, and where they are until they are
complete, they are entries of the staging directory. -/
structure Loader.Confines (loader : Loader) (name : String) : Prop where
  /-- The place of a module. -/
  modulePath : IsChild loader.cacheDirectory (loader.modulePath name)
  /-- The place of an archive. -/
  archivePath : IsChild loader.cacheDirectory (loader.archivePath name)
  /-- Where a module is until it is complete. -/
  moduleDraft : IsChild loader.stagingDirectory (loader.moduleDraft name)
  /-- Where an archive is until it is unpacked. -/
  archiveDraft : IsChild loader.stagingDirectory (loader.archiveDraft name)

/-- A name that stands for an entry has its places there. -/
theorem Loader.confines (loader : Loader) {name : String} (h : IsPlain name) :
    loader.Confines name where
  modulePath := isChild_join _ (isPlain_with_ending h.noSlash (by decide) (by decide))
  archivePath := isChild_join _ h
  moduleDraft := isChild_join _ (isPlain_with_ending h.noSlash (by decide) (by decide))
  archiveDraft := isChild_join _ h

/-- A name that is made from an address has only letters, digits, points, hyphens and underscores,
and never the ending of a module. If it is not refused, its places are entries of the cache
directory, and until they are complete they are entries of the staging directory. No module has the
place of an archive. -/
theorem cacheName_places (url : String) :
    (∀ c ∈ (cacheName url).toList, c.isAlphanum = true ∨ c = '.' ∨ c = '-' ∨ c = '_') ∧
    (∀ front, cacheName url ≠ front ++ ".wasm") ∧
    ∀ loader : Loader,
      (∀ address, checkName (cacheName url) address = .ok () → loader.Confines (cacheName url)) ∧
      ∀ other, components (loader.modulePath (cacheName url)) ≠
        components (loader.archivePath (cacheName other)) := by
  refine ⟨fun c hc => ?_, cacheName_ne_append url, fun loader => ⟨fun address haccepted => ?_,
    fun other => ?_⟩⟩
  · have hkept := isNameChar_of_mem_cacheName hc
    simp only [isNameChar, Bool.or_eq_true, beq_iff_eq, or_assoc] at hkept
    exact hkept
  · exact loader.confines (isPlain_of_isUsableName (isUsableName_of_checkName haccepted))
  · exact (Path.components_join_ne _ (isPlain_append url ".wasm" (by decide) (by decide))
      (slash_not_mem_cacheName other) (cacheName_ne_append other _)).symm

/-- The ending of an archive stays before endings of modules, which all go. -/
example : cacheName "http://h/a.tgz.wasm.wasm" = "a.tgz" := by
  decide +kernel

end Fetch

end Sandbox
