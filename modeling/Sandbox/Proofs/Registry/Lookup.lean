import Sandbox.Proofs.CommandLine.Running
import Sandbox.Proofs.Registry.Loading
import Sandbox.Proofs.Text.Lowercase

/-!
# What a registry finds

A registry is built by registering backends one by one, or two at once for a compiler. It has one
language for each name that was registered, whatever the case of its letters, and finds for it the
backend that was registered last under that name, in any case again. What it lists is what it finds,
since a name in lowercase stays as it is when it is looked up.

## Main definitions

* `Registry.nameOf`, `Registry.IsLast` : the names of backends, and the last one under a name.
* `Registry.Holds` : what a registry has to do with the backends that were registered.
* `Registry.Call` : one call to the builder, for a backend or for a compiler.
* `Registry.built` : the registry after a sequence of calls.

## Main results

* `Registry.Holds.register`, `Registry.Holds.apply`, `Registry.holds_built` : one backend, one call,
  and all calls.
* `Registry.ofLoader_eq_built` : the configured registry is built like this.
* `Registry.built_finds` : what a registry lists and finds.
-/

namespace Sandbox.Registry

variable {W : Type} {registry : Registry W} {registered : List (Backend W)} {backend : Backend W}
  {language : String}

/-- The name under which a backend is registered. -/
def nameOf (backend : Backend W) : String :=
  Text.lowercase backend.language

/-- Whether a backend was registered last under the name of a language. -/
def IsLast (registered : List (Backend W)) (language : String) (backend : Backend W) : Prop :=
  ∃ front back, registered = front ++ backend :: back ∧
    nameOf backend = Text.lowercase language ∧
      ∀ later ∈ back, nameOf later ≠ Text.lowercase language

/-- What a registry has to do with the backends that were registered, in order. -/
structure Holds (registry : Registry W) (registered : List (Backend W)) : Prop where
  /-- The languages are the names, in order of first registration. -/
  languages_eq : registry.languages = (registered.map nameOf).eraseDups
  /-- No language is listed twice. -/
  nodup : registry.languages.Nodup
  /-- The last backend under a name is found. -/
  find?_eq_some_iff : ∀ language backend,
    registry.find? language = some backend ↔ IsLast registered language backend

/-! ### Registering -/

theorem find?_put {β : Type} (key other : String) (value : β) (held : List (String × β)) :
    ((put key value held).find? fun entry => entry.1 == other).map Prod.snd =
      if key = other then some value
      else (held.find? fun entry => entry.1 == other).map Prod.snd := by
  induction held with
  | nil => by_cases h : key = other <;> simp [put, h]
  | cons entry held ih =>
    obtain ⟨first, earlier⟩ := entry
    rw [put]
    split
    next hfirst =>
      obtain rfl := beq_iff_eq.mp hfirst
      by_cases h : first = other <;> simp [h]
    next hfirst =>
      by_cases h : first = other
      · subst h
        simp [Ne.symm (mt beq_iff_eq.mpr hfirst)]
      · rw [List.find?_cons_of_neg (by simpa using h), ih,
          List.find?_cons_of_neg (by simpa using h)]

/-- A backend that is registered is found under its name, and all others are as before. -/
theorem find?_register (registry : Registry W) (new : Backend W) (language : String) :
    (registry.register new).find? language =
      if nameOf new = Text.lowercase language then some new else registry.find? language :=
  find?_put _ _ _ _

/-- A new name comes last, and the others keep their places. -/
theorem languages_register (registry : Registry W) (new : Backend W) :
    (registry.register new).languages =
      if nameOf new ∈ registry.languages then registry.languages
      else registry.languages ++ [nameOf new] :=
  map_fst_put _ _ _

/-- One more backend is the last one under its name, and under all others the last one stays. -/
theorem isLast_concat_iff (registered : List (Backend W)) (new : Backend W) :
    IsLast (registered ++ [new]) language backend ↔
      if nameOf new = Text.lowercase language then new = backend
      else IsLast registered language backend := by
  constructor
  · rintro ⟨front, back, hregistered, hname, hback⟩
    rcases List.eq_nil_or_concat' back with rfl | ⟨back, later, rfl⟩
    · obtain ⟨rfl, hnew⟩ := List.append_inj' hregistered rfl
      obtain rfl := List.singleton_inj.mp hnew
      rw [if_pos hname]
    · rw [← List.cons_append, ← List.append_assoc] at hregistered
      obtain ⟨rfl, hnew⟩ := List.append_inj' hregistered rfl
      obtain rfl := List.singleton_inj.mp hnew
      rw [List.forall_mem_append, List.forall_mem_singleton] at hback
      rw [if_neg hback.2]
      exact ⟨front, back, rfl, hname, hback.1⟩
  · split
    next hname =>
      rintro rfl
      exact ⟨registered, [], rfl, hname, List.forall_mem_nil _⟩
    next hname =>
      rintro ⟨front, back, rfl, hbackend, hback⟩
      refine ⟨front, back ++ [new], by simp, hbackend, ?_⟩
      rw [List.forall_mem_append, List.forall_mem_singleton]
      exact ⟨hback, hname⟩

theorem holds_empty : Holds (empty : Registry W) [] where
  languages_eq := rfl
  nodup := List.nodup_nil
  find?_eq_some_iff language backend := by
    refine iff_of_false nofun ?_
    rintro ⟨front, back, hregistered, -⟩
    cases front <;> cases hregistered

theorem Holds.register (h : Holds registry registered) (new : Backend W) :
    Holds (registry.register new) (registered ++ [new]) where
  languages_eq := by
    rw [languages_register, h.languages_eq, List.map_append, List.eraseDups_append, List.map_cons,
      List.map_nil, Registration.removeAll_singleton]
    simp only [List.mem_eraseDups]
    split <;> simp [List.eraseDups_cons]
  nodup := by
    rw [languages_register]
    split
    · exact h.nodup
    next hnew =>
      refine List.nodup_append.mpr ⟨h.nodup, List.pairwise_singleton _ _, fun a ha b hb => ?_⟩
      rw [List.mem_singleton.mp hb]
      exact fun heq => hnew (heq ▸ ha)
  find?_eq_some_iff language backend := by
    rw [find?_register, isLast_concat_iff]
    split
    · exact Option.some_inj
    · exact h.find?_eq_some_iff language backend

/-! ### Looking up -/

theorem isSupported_iff : registry.isSupported language = true ↔
    Text.lowercase language ∈ registry.languages := by
  simp [isSupported, languages]

theorem isSome_find?_iff : (registry.find? language).isSome = true ↔
    Text.lowercase language ∈ registry.languages := by
  rw [Option.isSome_iff_ne_none, ne_eq, CommandLine.find?_eq_none_iff, not_not]

/-- A language is looked up under its own name. -/
theorem Holds.lowercase_eq (h : Holds registry registered)
    (hmem : language ∈ registry.languages) : Text.lowercase language = language := by
  rw [h.languages_eq, List.mem_eraseDups] at hmem
  obtain ⟨backend, -, rfl⟩ := List.mem_map.mp hmem
  exact Text.lowercase_lowercase _

/-- Every language is found, and so none is left out of what is listed. -/
theorem Holds.map_language_entries (h : Holds registry registered) (w : W) :
    (registry.entries w).map LanguageEntry.language = registry.languages := by
  have hshown : ∀ language ∈ registry.languages,
      ((registry.find? language).map fun backend =>
        (⟨language, backend.kind, backend.isLoaded w⟩ : LanguageEntry)).map
          LanguageEntry.language = some language := by
    intro language hmem
    obtain ⟨backend, hfind⟩ := Option.isSome_iff_exists.mp
      (isSome_find?_iff.mpr ((h.lowercase_eq hmem).symm ▸ hmem))
    rw [hfind]
    rfl
  rw [entries, List.map_filterMap, List.filterMap_congr hshown, List.filterMap_some]

/-- What is shown of a language is what its last backend says of itself. -/
theorem Holds.isLast_of_mem_entries (h : Holds registry registered) {w : W} {entry : LanguageEntry}
    (hmem : entry ∈ registry.entries w) :
    ∃ backend, IsLast registered entry.language backend ∧ entry.kind = backend.kind ∧
      entry.isLoaded = backend.isLoaded w := by
  obtain ⟨language, -, hshown⟩ := List.mem_filterMap.mp hmem
  obtain ⟨backend, hfind, rfl⟩ := Option.map_eq_some_iff.mp hshown
  exact ⟨backend, (h.find?_eq_some_iff language backend).mp hfind, rfl, rfl⟩

/-! ### Building -/

/-- A call to the builder. -/
inductive Call (W : Type) : Type 1 where
  /-- Registers a backend. -/
  | runtime (backend : Backend W)
  /-- Registers a compiler, under both of its languages. -/
  | compiled {κ : Type} (toolchain : Compiled.Toolchain W κ) (policy : Guest.ImportPolicy)

variable [Logging W]

/-- What a call registers, in order. -/
def Call.backends : Call W → List (Backend W)
  | runtime backend => [backend]
  | compiled toolchain policy =>
    [Compiled.backend toolchain policy .c, Compiled.backend toolchain policy .cpp]

/-- The registry after one more call. -/
def apply (registry : Registry W) : Call W → Registry W
  | .runtime backend => registry.register backend
  | .compiled toolchain policy =>
    (registry.register (Compiled.backend toolchain policy .c)).register
      (Compiled.backend toolchain policy .cpp)

/-- The registry after a sequence of calls. -/
def built (calls : List (Call W)) : Registry W :=
  calls.foldl apply empty

/-- The configured registry is built by three calls. -/
theorem ofLoader_eq_built (loader : Fetch.Loader) (config : Config) :
    ofLoader loader config = built [.runtime JavaScript.backend,
      .runtime (Python.backend (.ofLoader loader config.python)),
      .compiled (.ofLoader loader config.compiler) (policyOf config.compiler)] :=
  rfl

/-- A call registers its backends, in order. -/
theorem Holds.apply (h : Holds registry registered) (call : Call W) :
    Holds (registry.apply call) (registered ++ call.backends) := by
  cases call with
  | runtime backend => exact h.register backend
  | compiled toolchain policy =>
    have hboth := (h.register (Compiled.backend toolchain policy .c)).register
      (Compiled.backend toolchain policy .cpp)
    rwa [List.append_assoc] at hboth

/-- A registry that is built holds the backends of all calls. -/
theorem holds_built (calls : List (Call W)) :
    Holds (built calls) (calls.flatMap Call.backends) := by
  induction calls using List.reverseRecOn with
  | nil => exact holds_empty
  | append_singleton calls call ih =>
    rw [built, List.foldl_append, List.flatMap_append, List.flatMap_singleton]
    exact ih.apply call

/-- A registry that is built has one language for each name in lowercase, in order of first
registration. It finds the last backend under a name, for texts in any case, and supports exactly
what it finds, which is what is listed. Every language is shown, once and in that order, with what
its last backend says. -/
theorem built_finds (calls : List (Call W)) (w : W) :
    let registry := built calls
    let registered := calls.flatMap Call.backends
    registry.languages =
      (registered.map fun backend => Text.lowercase backend.language).eraseDups ∧
    registry.languages.Nodup ∧
    (∀ language ∈ registry.languages, Text.lowercase language = language) ∧
    (∀ language backend,
      registry.find? language = some backend ↔ IsLast registered language backend) ∧
    (∀ language,
      (registry.isSupported language = true ↔ (registry.find? language).isSome = true) ∧
      (registry.isSupported language = true ↔ Text.lowercase language ∈ registry.languages)) ∧
    (registry.entries w).map LanguageEntry.language = registry.languages ∧
    ∀ entry ∈ registry.entries w, ∃ backend, IsLast registered entry.language backend ∧
      entry.kind = backend.kind ∧ entry.isLoaded = backend.isLoaded w := by
  intro registry registered
  have h : Holds registry registered := holds_built calls
  refine ⟨h.languages_eq, h.nodup, fun language => h.lowercase_eq, h.find?_eq_some_iff,
    fun language => ⟨?_, isSupported_iff⟩, h.map_language_entries w,
    fun entry => h.isLast_of_mem_entries⟩
  rw [isSupported_iff, isSome_find?_iff]

/-- A name in another case is the same name, and keeps its place. -/
example :
    let named (language : String) (kind : BackendKind) : Backend Host :=
      ⟨language, kind, fun _ => true, pure (.ok ()), fun _ => pure (.passed [])⟩
    (built [.runtime (named "R" .compiled), .runtime (named "Go" .compiled),
      .runtime (named "r" .dynamic)]).entries { files := { entries := [] } } =
        [⟨"r", .dynamic, true⟩, ⟨"go", .compiled, true⟩] := by decide +kernel

end Sandbox.Registry
