import Sandbox.Config.CacheDirectory
import Sandbox.Fetch.CacheName
import Sandbox.Fetch.Program

/-!
# The cache of downloads

Modules and archives are downloaded once and kept below the cache directory. A download is first put
into a staging directory and gets its place in the cache by one renaming, so that what has a place
is complete.

## Main definitions

* `Loader` : who downloads, and where downloads are kept.
* `Loader.modulePath`, `Loader.archivePath` : the places in the cache.
* `Loader.fetchModule`, `Loader.fetchArchive` : a place, after a download if it was empty.
* `Loader.loadFromPath` : a module that is not in the cache.
* `Loader.clearCache` : empties the cache.
-/

namespace Sandbox.Fetch

/-- Who downloads, and where downloads are kept. -/
structure Loader where
  /-- Where downloads are kept. -/
  cacheDirectory : String
  /-- Who asks the servers. -/
  client : Http.Client

namespace Loader

/-- The loader for a configuration. -/
def ofConfig (config : Config) (environment : Config.Environment) : Except SetupError Loader := do
  let directory ← config.cache.resolve environment
  let client ← (Http.Client.ofConfig config.network).mapError SetupError.load
  return ⟨directory, client⟩

variable (loader : Loader)

/-! ### Places -/

/-- Where downloads are until they are complete. -/
def stagingDirectory : String :=
  Path.join loader.cacheDirectory "temp"

/-- The place of a module. -/
def modulePath (name : String) : String :=
  Path.join loader.cacheDirectory (name ++ ".wasm")

/-- The place of an unpacked archive. -/
def archivePath (name : String) : String :=
  Path.join loader.cacheDirectory name

/-- Where a module is until it is complete. -/
def moduleDraft (name : String) : String :=
  Path.join loader.stagingDirectory (name ++ ".wasm.tmp")

/-- Where an archive is until it is unpacked. -/
def archiveDraft (name : String) : String :=
  Path.join loader.stagingDirectory name

/-! ### Downloads -/

/-- The part of the sandbox that speaks in this module. -/
def target : String := "polyrun_runtime::loader"

/-- Whether an address is one of an archive that can be unpacked. -/
def isArchiveUrl (url : String) : Bool :=
  Text.endsWith url ".tar.gz" || Text.endsWith url ".tgz"

/-- Makes the directories of the cache. -/
def makeDirectories : ExceptT LoadError Program Unit := do
  Program.onFiles (.makeDirectories loader.cacheDirectory)
  Program.onFiles (.makeDirectories loader.stagingDirectory)

/-- Downloads a module and puts it into its place. -/
def downloadModule (name url : String) : ExceptT LoadError Program Unit := do
  let content ← Program.onLoading (.download loader.client url)
  unless content.isModule do
    throw (.invalidModule (url ++ " is not a WebAssembly module"))
  loader.makeDirectories
  Program.onFiles (.write (loader.moduleDraft name) content)
  Program.onFiles (.rename (loader.moduleDraft name) (loader.modulePath name))

/-- The place of a module, after a download if the place was empty. -/
def fetchModule (name url : String) : ExceptT LoadError Program String := do
  ExceptT.mk (pure (checkName name url))
  let path := loader.modulePath name
  if ← Program.onFiles (.isPresent path) then
    Program.say .debug target ("Using cached module: " ++ Text.quotedPath path)
  else
    Program.say .info target ("Downloading module " ++ name ++ " from: " ++ url)
    loader.downloadModule name url
    Program.say .info target ("Module cached at: " ++ Text.quotedPath path)
  return path

/-- Downloads an archive, unpacks it and puts it into its place. What an earlier download left
behind is removed first. -/
def downloadArchive (name url : String) : ExceptT LoadError Program Unit := do
  let content ← Program.onLoading (.download loader.client url)
  loader.makeDirectories
  let draft := loader.archiveDraft name
  if ← Program.onFiles (.isPresent draft) then Program.onFiles (.removeTree draft)
  Program.onLoading (.unpack content draft)
  Program.onFiles (.rename draft (loader.archivePath name))

/-- The place of an unpacked archive, after a download if the place was empty. -/
def fetchArchive (name url : String) : ExceptT LoadError Program String := do
  ExceptT.mk (pure (checkName name url))
  let path := loader.archivePath name
  if ← Program.onFiles (.isPresent path) then
    Program.say .debug target ("Using cached archive: " ++ Text.quotedPath path)
  else
    unless isArchiveUrl url do throw (.archive ("Unknown archive format: " ++ url))
    Program.say .info target ("Downloading archive " ++ name ++ " from: " ++ url)
    loader.downloadArchive name url
    Program.say .info target ("Archive unpacked at: " ++ Text.quotedPath path)
  return path

/-- A module that is not in the cache. -/
def loadFromPath (path : String) : ExceptT LoadError Program String := do
  unless ← Program.onFiles (.isPresent path) do
    throw (.invalidModule ("Module file not found: " ++ Text.quotedPath path))
  unless Path.extension? path = some "wasm" do
    throw (.invalidModule ("Expected .wasm file, got: " ++ Text.quotedPath path))
  Program.say .debug target ("Loading module from path: " ++ Text.quotedPath path)
  return path

/-- Empties the cache. -/
def clearCache : ExceptT LoadError Program Unit := do
  if ← Program.onFiles (.isPresent loader.cacheDirectory) then
    Program.onFiles (.removeTree loader.cacheDirectory)

end Loader

end Sandbox.Fetch
