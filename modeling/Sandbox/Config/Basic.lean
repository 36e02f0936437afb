/-!
# Configuration

Every part of the configuration has a default, so that an empty configuration is a working one.

## Main definitions

* `Config` : the configuration, in four sections.
* `Config.Cache`, `Config.Network`, `Config.Compiler`, `Config.Python` : the sections.
-/

namespace Sandbox

namespace Config

/-- Where modules and compilers are kept once they are downloaded. -/
structure Cache where
  /-- The directory; if there is none, the one that the system provides. -/
  directory : Option String := none
  deriving DecidableEq, Repr

/-- How downloads are made. -/
structure Network where
  /-- After how many seconds a download fails. -/
  timeout : Nat := 300
  /-- How many redirects are followed. -/
  maxRedirects : Nat := 10
  /-- How the sandbox introduces itself to servers. -/
  userAgent : Option String := none
  deriving DecidableEq, Repr

/-- The release of the compiler that is downloaded if no other is configured. -/
def defaultCompilerUrl : String :=
  "https://github.com/WebAssembly/wasi-sdk/releases/download/wasi-sdk-24/" ++
    "wasi-sdk-24.0-x86_64-linux.tar.gz"

/-- The interpreter that is downloaded if no other is configured. -/
def defaultPythonUrl : String :=
  "https://github.com/vmware-labs/webassembly-language-runtimes/releases/download/" ++
    "python%2F3.12.0%2B20231211-040d5a6/python-3.12.0.wasm"

/-- The compiler for C and C++. -/
structure Compiler where
  /-- Where it is installed. If this is given, nothing is downloaded. -/
  path : Option String := none
  /-- Where its archive is downloaded. -/
  url : String := defaultCompilerUrl
  /-- The machine for which it compiles. -/
  target : String := "wasm32-wasip1"
  /-- How much it optimises. -/
  optimization : String := "-O2"
  /-- Whether programs that import calls that are not served are refused. -/
  strictImports : Bool := false
  deriving DecidableEq, Repr

/-- The interpreter for Python. -/
structure Python where
  /-- Its module. If this is given, nothing is downloaded. -/
  path : Option String := none
  /-- Where its module is downloaded. -/
  url : String := defaultPythonUrl
  /-- What has to be importable before the interpreter counts as ready. -/
  preload : List String := []
  /-- The directory with the standard library, if the interpreter does not bring its own. -/
  libraryDirectory : Option String := none
  deriving DecidableEq, Repr

end Config

/-- The configuration. -/
structure Config where
  /-- Where downloads are kept. -/
  cache : Config.Cache := {}
  /-- How downloads are made. -/
  network : Config.Network := {}
  /-- The compiler for C and C++. -/
  compiler : Config.Compiler := {}
  /-- The interpreter for Python. -/
  python : Config.Python := {}
  deriving DecidableEq, Repr

end Sandbox
