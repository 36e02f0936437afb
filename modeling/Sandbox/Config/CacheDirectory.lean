import Sandbox.Config.Basic
import Sandbox.LoadError
import Sandbox.Path

/-!
# The cache directory

## Main definitions

* `Environment` : what the surroundings of the program say about directories.
* `Cache.resolve` : the directory in which downloads are kept.
-/

namespace Sandbox.Config

/-- What the surroundings of the program say about directories. -/
structure Environment where
  /-- The directory of the user. -/
  home : Option String
  /-- The directory for data that can be made again. -/
  cacheHome : Option String
  deriving DecidableEq, Repr

/-- The directory for data that can be made again: the one that is set, if it is absolute, or else
one in the directory of the user. -/
def Environment.cacheDirectory? (environment : Environment) : Option String :=
  match environment.cacheHome.filter Path.isAbsolute with
  | some directory => some directory
  | none => (environment.home.filter (!·.isEmpty)).map fun home => Path.join home ".cache"

/-- The directory in which downloads are kept: the configured one, or one of its own in the
directory for data that can be made again. -/
def Cache.resolve (cache : Cache) (environment : Environment) : Except SetupError String :=
  match cache.directory, environment.cacheDirectory? with
  | some directory, _ => .ok directory
  | none, some base => .ok (Path.join base "polyrun")
  | none, none => .error (.configuration "Could not determine cache directory")

end Sandbox.Config
