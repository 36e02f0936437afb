import Sandbox.Compiled.Basic
import Sandbox.Config.Basic
import Sandbox.Fetch.Loader

/-!
# Installed compilers

The compiler is a program in an installation directory, which is configured or downloaded. It is
started in an empty directory that holds only the source, and leaves the module there.

## Main definitions

* `Sdk` : an installation with its settings.
* `Sdk.locate` : the installation at or right below a directory.
* `Sdk.compile` : compiles a program.
* `Sdk.provide` : an installation, after a download if none is configured.
-/

namespace Sandbox.Compiled

/-- An installation of the compiler with its settings. -/
structure Sdk where
  /-- The directory of the installation. -/
  root : String
  /-- The machine for which it compiles. -/
  target : String
  /-- How much it optimises. -/
  optimization : String
  deriving DecidableEq, Repr

/-- What a compiler leaves behind. -/
structure Answer where
  /-- What it wrote to its error stream. -/
  diagnostics : List UInt8
  /-- The module. -/
  made : Option Files.Content
  /-- The exit code. -/
  exitCode : Nat

/-- The answer of a program that stands in for a compiler, by its own name, its arguments and the
source file. -/
def answerOf (name : String) (arguments : List String) (fileName source : String) :
    Files.CompilerScript → Answer
  | .mk showArguments showSources diagnostics made exitCode =>
    let lines := if showArguments then
        arguments.map (fun a => "arg " ++ a ++ "\n") ++ ["driver " ++ name ++ "\n"]
      else []
    let sources := if showSources then ["file " ++ fileName ++ "\n" ++ source] else []
    ⟨Text.Utf8.encode (String.join (lines ++ sources)) ++ diagnostics, made, exitCode % 256⟩

/-- The program that is named on the first line of an interpreted program. -/
def interpreterOf? (data : List UInt8) : Option String :=
  (Text.stripStart? (Text.Utf8.encode "#!") data).map fun rest =>
    Text.trim (Text.Utf8.decodeLossy (rest.takeWhile (· != 10)))

/-- The program at a path that stands in for a compiler, if it can be started. Relative paths lead
nowhere, as the compiler is started elsewhere. -/
def compilerAt (files : Files.Tree) (path : String) : Except FileError Files.CompilerScript := do
  unless Path.isAbsolute path do throw .notFound
  match (← files.find true path).2 with
  | .file content isExecutable =>
    unless isExecutable do throw .permissionDenied
    match content with
    | .compiler script => return script
    | .bytes data =>
      match interpreterOf? data with
      | some interpreter =>
        discard (files.find true interpreter)
        throw .permissionDenied
      | none => throw .notExecutable
    | _ => throw .notExecutable
  | _ => throw .permissionDenied

namespace Sdk

/-- The installation with the settings of a configuration. -/
def ofConfig (root : String) (config : Config.Compiler) : Sdk :=
  ⟨root, config.target, config.optimization⟩

/-- The program for a dialect. -/
def driver (root : String) (dialect : Dialect) : String :=
  Path.join (Path.join root "bin") dialect.driver

/-- The installation at a directory, or else the first one right below it. -/
def locate (files : Files.Tree) (directory : String) : Option String :=
  if files.isFile (driver directory .c) then some directory
  else
    match files.list directory with
    | .ok names => (names.map (Path.join directory)).find? fun root => files.isFile (driver root .c)
    | .error _ => none

/-- The file in which the compiler leaves the module. -/
def moduleFile : String := "main.wasm"

/-- The arguments for a dialect. -/
def arguments (sdk : Sdk) (dialect : Dialect) : List String :=
  ["--target=" ++ sdk.target,
    "--sysroot=" ++ Path.join (Path.join sdk.root "share") "wasi-sysroot",
    sdk.optimization] ++ dialect.extraFlags ++ ["-o", moduleFile, dialect.fileName]

/-- The part of the sandbox that speaks in this module. -/
def logTarget : String := "polyrun_runtime::compiled::toolchain"

/-- What an answer of the compiler means. -/
def compilationOf (answer : Answer) : Except RunError Compilation :=
  let diagnostics := Text.trimEnd (Text.Utf8.decodeLossy answer.diagnostics)
  if answer.exitCode ≠ 0 then .ok ⟨none, diagnostics⟩
  else
    match answer.made with
    | some made => .ok ⟨some made, diagnostics⟩
    | none => .error (.trap ("Compiler produced no module: " ++ FileError.notFound.message))

/-- Compiles a program. -/
def compile (sdk : Sdk) (request : Request) : StateM Host (Except RunError Compilation) := do
  let path := driver sdk.root request.dialect
  say .debug logTarget
    ("Compiling " ++ request.dialect.language ++ " with " ++ Text.quotedPath path)
  match ← Host.look fun files => compilerAt files path with
  | .error e => return .error (.trap ("Failed to invoke " ++ path ++ ": " ++ e.message))
  | .ok script =>
    let answer := answerOf ((Path.fileName? path).getD "") (sdk.arguments request.dialect)
      request.dialect.fileName request.source script
    if answer.exitCode ≠ 0 then
      say .debug logTarget ("Compiler exited with exit status: " ++ toString answer.exitCode)
    return compilationOf answer

/-- The directory in which an installation is looked for. -/
def directory (loader : Fetch.Loader) (config : Config.Compiler) :
    StateM Host (Except LoadError String) :=
  match config.path with
  | some path => return .ok path
  | none => (loader.fetchArchive (Fetch.cacheName config.url) config.url).run.perform

/-- An installation, after a download if none is configured. -/
def provide (loader : Fetch.Loader) (config : Config.Compiler) :
    StateM Host (Except LoadError Sdk) := do
  match ← directory loader config with
  | .error e => return .error e
  | .ok directory =>
    match ← Host.look fun files => locate files directory with
    | none =>
      return .error (.toolchain ("No wasi-sdk clang found under " ++ Text.quotedPath directory))
    | some root =>
      say .info logTarget ("Using wasi-sdk at " ++ Text.quotedPath root)
      return .ok (ofConfig root config)

end Sdk

end Sandbox.Compiled
