import Sandbox.Backend.Basic
import Sandbox.Text.Lowercase

/-!
# Registries

A registry knows one backend for each language. Languages are looked up without regard to case and
listed in the order in which they were registered first.

## Main definitions

* `Registry` : backends by the lowercase names of their languages.
* `Registry.register` : a registry with one more backend.
* `Registry.find?` : the backend for a language.
* `Registry.languages`, `Registry.entries` : what is supported.
* `Registry.loadAll` : makes all backends ready.
-/

namespace Sandbox

/-- Backends by the lowercase names of their languages, in order of registration. -/
structure Registry (W : Type) where
  /-- The names with their backends. -/
  backends : List (String × Backend W)

/-- What is shown of a supported language. -/
structure LanguageEntry where
  /-- The name. -/
  language : String
  /-- The family of its backend. -/
  kind : BackendKind
  /-- Whether the backend is ready. -/
  isLoaded : Bool
  deriving DecidableEq, Repr

namespace Registry

variable {W : Type}

/-- The list with a value for a key: in place of the earlier one, or at the end. -/
def put {β : Type} (key : String) (value : β) : List (String × β) → List (String × β)
  | [] => [(key, value)]
  | (k, v) :: rest => if k == key then (key, value) :: rest else (k, v) :: put key value rest

/-- Without any backend. -/
def empty : Registry W :=
  ⟨[]⟩

/-- The registry with one more backend, which replaces the one for the same language. -/
def register (registry : Registry W) (backend : Backend W) : Registry W :=
  ⟨put (Text.lowercase backend.language) backend registry.backends⟩

/-- The backend for a language. -/
def find? (registry : Registry W) (language : String) : Option (Backend W) :=
  (registry.backends.find? fun entry => entry.1 == Text.lowercase language).map Prod.snd

/-- Whether there is a backend for a language. -/
def isSupported (registry : Registry W) (language : String) : Bool :=
  registry.backends.any fun entry => entry.1 == Text.lowercase language

/-- The supported languages, in order of registration. -/
def languages (registry : Registry W) : List String :=
  registry.backends.map Prod.fst

/-- What is shown of the supported languages. -/
def entries (registry : Registry W) (w : W) : List LanguageEntry :=
  registry.languages.filterMap fun language =>
    (registry.find? language).map fun backend => ⟨language, backend.kind, backend.isLoaded w⟩

/-- The part of the sandbox that speaks in this module. -/
def target : String := "polyrun_runtime::registry"

/-- Makes backends ready, one after another. -/
def loadEach [Logging W] :
    List (String × Backend W) → StateM W (List (String × Except LoadError Unit))
  | [] => return []
  | (language, backend) :: backends => do
    let outcome ← backend.load
    match outcome with
    | .ok _ => say .info target ("Loaded " ++ language ++ " backend")
    | .error e => say .warn target ("Failed to load " ++ language ++ " backend: " ++ e.message)
    let outcomes ← loadEach backends
    return (language, outcome) :: outcomes

/-- Makes all backends ready and reports how that went for each language. -/
def loadAll [Logging W] (registry : Registry W) :
    StateM W (List (String × Except LoadError Unit)) :=
  loadEach registry.backends

end Registry

end Sandbox
