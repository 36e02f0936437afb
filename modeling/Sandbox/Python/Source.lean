import Sandbox.Config.Basic
import Sandbox.Fetch.Loader
import Sandbox.Python.Basic

/-!
# Where the interpreter comes from

## Main definitions

* `modulePath` : the place of the interpreter, after a download if none is configured.
* `fetch` : the interpreter.
-/

namespace Sandbox.Python

/-- The place of the interpreter, after a download if none is configured. -/
def modulePath (loader : Fetch.Loader) (config : Config.Python) :
    StateM Host (Except LoadError String) :=
  match config.path with
  | some path => (Fetch.Loader.loadFromPath path).run.perform
  | none => (loader.fetchModule (Fetch.cacheName config.url) config.url).run.perform

/-- The interpreter. -/
def fetch (loader : Fetch.Loader) (config : Config.Python) :
    StateM Host (Except LoadError Files.Content) := do
  match ← modulePath loader config with
  | .error e => return .error e
  | .ok path =>
    let content ← Host.look (·.read path)
    return content.mapError LoadError.file

/-- Why a directory cannot be exposed to the interpreter, if it cannot. -/
def exposure (host : Host) (directory : String) : Except FileError Unit := do
  let (_, node) ← host.files.find true directory
  unless node.isDirectory do throw .notADirectory

end Sandbox.Python
