import Sandbox.Compiled.Sdk
import Sandbox.JavaScript.Basic
import Sandbox.Python.Source
import Sandbox.Registry.Basic

/-!
# Sessions

A session is what one process has to do with: the host, and the compiler and the interpreter that it
keeps once they are ready. A new process starts with neither.

## Main definitions

* `Session` : a host, and what a process keeps.
* `Session.onHost` : work on the host alone.
* `Registry.ofLoader`, `Registry.ofConfig` : the configured backends.
-/

namespace Sandbox

/-- A host, and what a process keeps. -/
structure Session where
  /-- The host. -/
  host : Host
  /-- The compiler, once it is ready. -/
  compiler : Option Compiled.Sdk := none
  /-- The interpreter, once it is ready. -/
  interpreter : Option Guest.Module := none

namespace Session

instance : Logging Session :=
  ⟨fun events session => { session with host := Logging.add events session.host }⟩

/-- Works on the host alone. -/
def onHost {α : Type} (work : StateM Host α) : StateM Session α := do
  let (result, host) := work.run (← get).host
  modify fun session => { session with host := host }
  return result

/-- Where the compiler is kept. -/
def compilerSlot : Slot Session Compiled.Sdk :=
  ⟨compiler, fun sdk session => { session with compiler := some sdk }⟩

/-- Where the interpreter is kept. -/
def interpreterSlot : Slot Session Guest.Module :=
  ⟨interpreter, fun m session => { session with interpreter := some m }⟩

end Session

/-- The configured compiler. -/
def Compiled.Toolchain.ofLoader (loader : Fetch.Loader) (config : Config.Compiler) :
    Compiled.Toolchain Session Compiled.Sdk where
  slot := Session.compilerSlot
  provide := Session.onHost (Compiled.Sdk.provide loader config)
  compile sdk request := Session.onHost (sdk.compile request)

/-- The configured interpreter. -/
def Python.Source.ofLoader (loader : Fetch.Loader) (config : Config.Python) :
    Python.Source Session where
  slot := Session.interpreterSlot
  fetch := Session.onHost (Python.fetch loader config)
  preload := config.preload
  libraryDirectory := config.libraryDirectory
  exposure session := Python.exposure session.host

namespace Registry

/-- The policy that a configuration asks for. -/
def policyOf (config : Config.Compiler) : Guest.ImportPolicy :=
  if config.strictImports then .strict else .trapOnCall

/-- The configured backends, whose downloads are made by a loader. -/
def ofLoader (loader : Fetch.Loader) (config : Config) : Registry Session :=
  let compiled := Compiled.backend (.ofLoader loader config.compiler) (policyOf config.compiler)
  [JavaScript.backend, Python.backend (.ofLoader loader config.python), compiled .c, compiled .cpp]
    |>.foldl register empty

/-- The configured backends. -/
def ofConfig (config : Config) (environment : Config.Environment) :
    Except SetupError (Registry Session) := do
  return ofLoader (← Fetch.Loader.ofConfig config environment) config

end Registry

end Sandbox
