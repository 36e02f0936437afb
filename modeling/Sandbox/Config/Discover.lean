import Sandbox.Config.Schema
import Sandbox.Host.Basic
import Sandbox.Text.Quoted

/-!
# Configuration files

## Main definitions

* `Config.load` : the configuration in a file.
* `Config.discoverPath?` : the nearest configuration file.
* `Config.discover` : the configuration in the nearest file, or the default one.
-/

namespace Sandbox.Config

/-- The name of a configuration file. -/
def fileName : String := "polyrun.toml"

/-- The configuration in a file. -/
def load (files : Files.Tree) (path : String) : Except SetupError Config := do
  let text ← (files.readText path).mapError SetupError.file
  (Config.ofToml text).mapError fun e => .toml e.message

/-- The configuration file in a directory or in the nearest one above that has one. -/
def discoverPath? (files : Files.Tree) (directory : String) : Option String :=
  ((Path.ancestors directory).map fun above => Path.join above fileName).find? files.isFile

/-- The part of the sandbox that speaks in this module. -/
def logTarget : String := "polyrun_runtime::config"

/-- The configuration in the nearest file, or the default one if there is no file. -/
def discover (directory : String) : StateM Host (Except SetupError Config) := do
  match ← Host.look fun files => discoverPath? files directory with
  | none => return .ok {}
  | some path =>
    say .debug logTarget ("Using configuration at " ++ Text.quotedPath path)
    Host.look fun files => load files path

end Sandbox.Config
