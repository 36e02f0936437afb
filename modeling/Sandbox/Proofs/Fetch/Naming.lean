import Sandbox.Fetch.CacheName
import Sandbox.Proofs.Files.Walking

/-!
# Names of cache entries stand for entries

A name that is made from an address has only letters, digits, points, hyphens and underscores, and
never has the ending of a module. A name that is not refused is that of an entry of a directory, and
so is a name that is made from it with an ending.

## Main results

* `isNameChar_of_mem_cacheName`, `cacheName_ne_append` : what names are like.
* `isPlain_of_isUsableName`, `isPlain_append` : a name that is not refused stands for an entry.
-/

namespace Sandbox.Fetch

open Files (IsPlain)

theorem stripStart?_dropCopies {ending : List Char} (hending : ending ≠ []) (cs : List Char) :
    Text.stripStart? ending (dropCopies ending cs) = none := by
  fun_induction dropCopies ending cs with
  | case1 _ _ _ _ ih => exact ih
  | case2 _ _ _ hempty => exact absurd (List.length_pos_iff.2 hending) hempty
  | case3 _ hnone => exact hnone

/-- No copy is left where all copies at the end are gone. -/
theorem trimCopies_ne_append {ending : String} (hending : ending ≠ "") (cs front : List Char) :
    trimCopies ending cs ≠ front ++ ending.toList := by
  intro h
  have hreverse := congrArg List.reverse h
  unfold trimCopies at hreverse
  rw [List.reverse_reverse, List.reverse_append] at hreverse
  have hreversed : ending.toList.reverse ≠ [] := by simpa using hending
  have hnone := stripStart?_dropCopies hreversed cs.reverse
  rw [hreverse, Text.stripStart?_append] at hnone
  cases hnone

/-- A name has only characters that names keep. -/
theorem isNameChar_of_mem_cacheName {url : String} {c : Char} (h : c ∈ (cacheName url).toList) :
    isNameChar c = true := by
  unfold cacheName at h
  rw [String.toList_ofList, List.mem_map] at h
  obtain ⟨original, -, rfl⟩ := h
  split
  · next hkept => exact hkept
  · decide

/-- A name never has the ending of a module. -/
theorem cacheName_ne_append (url name : String) : cacheName url ≠ name ++ ".wasm" := by
  intro h
  have hlist := congrArg String.toList h
  unfold cacheName at hlist
  rw [String.toList_ofList, String.toList_append, List.map_eq_append_iff] at hlist
  obtain ⟨front, ending, hsplit, -, hending⟩ := hlist
  -- each character of the ending has been kept, as none of them is an underscore
  have hkept : ending.map (fun c => if isNameChar c then c else '_') = ending := by
    conv => rhs; rw [← List.map_id ending]
    refine List.map_congr_left fun c hc => ?_
    have hmem := List.mem_map_of_mem (f := fun c => if isNameChar c then c else '_') hc
    rw [hending] at hmem
    by_cases hname : isNameChar c
    · simp [hname]
    · simp [hname] at hmem
  rw [hkept] at hending
  rw [hending] at hsplit
  exact trimCopies_ne_append (by decide) _ front hsplit

theorem isUsableName_of_checkName {name url : String} (h : checkName name url = .ok ()) :
    isUsableName name = true := by
  unfold checkName at h
  split at h
  · assumption
  · cases h

theorem slash_not_mem_cacheName (url : String) : '/' ∉ (cacheName url).toList := fun h => by
  have hslash : isNameChar '/' = false := by decide
  exact absurd (isNameChar_of_mem_cacheName h) (by rw [hslash]; simp)

/-- A name without slashes that is not refused stands for an entry. -/
theorem isPlain_of_usable {name : String} (h : isUsableName name = true)
    (hslash : '/' ∉ name.toList) : IsPlain name where
  isEntry := by
    refine ⟨fun heq => ?_, fun heq => ?_, fun heq => ?_⟩ <;>
      simp [heq, isUsableName] at h
  noSlash := hslash

/-- A name without slashes stands for an entry once it has an ending. -/
theorem isPlain_with_ending {name ending : String} (hname : '/' ∉ name.toList)
    (hslash : '/' ∉ ending.toList) (hlength : 2 < ending.length) : IsPlain (name ++ ending) where
  isEntry := by
    have hlength : ∀ {text : String}, text.length ≤ 2 → name ++ ending ≠ text := by
      rintro text htext rfl
      rw [String.length_append] at htext
      omega
    exact ⟨hlength (by decide), hlength (by decide), hlength (by decide)⟩
  noSlash := by
    rw [String.toList_append, List.mem_append, not_or]
    exact ⟨hname, hslash⟩

/-- A name made from an address stands for an entry, if it is not refused. -/
theorem isPlain_of_isUsableName {url : String} (h : isUsableName (cacheName url) = true) :
    IsPlain (cacheName url) :=
  isPlain_of_usable h (slash_not_mem_cacheName url)

/-- A name made from an address stands for an entry once it has an ending. -/
theorem isPlain_append (url ending : String) (hslash : '/' ∉ ending.toList)
    (hlength : 2 < ending.length) : IsPlain (cacheName url ++ ending) :=
  isPlain_with_ending (slash_not_mem_cacheName url) hslash hlength

end Sandbox.Fetch
