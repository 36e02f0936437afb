import Sandbox.Calendar
import Sandbox.CommandLine.Execute
import Std.Time

/-!
# The executable

Reads the files at and below the working directory and the configuration files above it, carries
the command line out, and writes back the files that are new.

## Main definitions

* `main` : the entry point.
-/

namespace Sandbox.Main

/-- The day on which the program was built. -/
def buildDay : String := "2026-01-01"

/-- A tree with what is in a directory too. What cannot be read is left out. -/
partial def readBelow (directory : Files.Location) (entries : Array IO.FS.DirEntry)
    (files : Files.Tree) : IO Files.Tree := do
  let mut files := files
  for entry in entries do
    let location := directory ++ [entry.fileName]
    try
      if ← entry.path.isDir then
        files ← readBelow location (← entry.path.readDir) (files.put location .directory)
      else
        let bytes ← IO.FS.readBinFile entry.path
        files := files.put location (.file (.bytes bytes.toList) false)
    catch _ => pure ()
  return files

/-- A tree with the configuration files in some directories too. -/
def readConfigurations (directories : List String) (files : Files.Tree) : IO Files.Tree := do
  let mut files := files
  for directory in directories do
    try
      let bytes ← IO.FS.readBinFile (Path.join directory Config.fileName)
      let written := (files.makeDirectories directory).bind fun files =>
        files.write (Path.join directory Config.fileName) (.bytes bytes.toList)
      if let .ok written := written then files := written
    catch _ => pure ()
  return files

/-- The files that a process sees. -/
def readFiles : IO Files.Tree := do
  let directory ← IO.currentDir
  let empty : Files.Tree := ⟨[], []⟩
  let files := match empty.makeDirectories directory.toString with
    | .ok files => files
    | .error _ => empty
  let here := (files.canonical directory.toString).toOption.getD []
  let files ← readConfigurations ((Path.ancestors directory.toString).drop 1) files
  readBelow here (← directory.readDir) { files with here := here }

/-- Writes the files of one tree that another one has not. -/
def writeFiles (before after : Files.Tree) : IO Unit := do
  for (location, node) in after.entries do
    match node, before.node? location with
    | .directory, none => IO.FS.createDirAll (Files.Location.path location)
    | .file (.bytes bytes) _, none =>
      IO.FS.writeBinFile (Files.Location.path location) ⟨bytes.toArray⟩
    | .file (.bytes bytes) _, some (.file (.bytes old) _) =>
      unless bytes == old do
        IO.FS.writeBinFile (Files.Location.path location) ⟨bytes.toArray⟩
    | _, _ => pure ()

end Sandbox.Main

/-- Carries out a command line. -/
def main (arguments : List String) : IO UInt32 := do
  let microseconds := (← Std.Time.Timestamp.now).toNanosecondsSinceUnixEpoch.toInt / 1000
  let today := Sandbox.Calendar.day (microseconds / 1000)
  let launch : Sandbox.CommandLine.Launch :=
    { arguments := "polyrun" :: arguments
      environment := ⟨← IO.getEnv "HOME", ← IO.getEnv "XDG_CACHE_HOME"⟩
      filter := ← IO.getEnv "POLYRUN_LOG"
      built := Sandbox.Main.buildDay
      today := today
      time := Sandbox.Calendar.stamp microseconds }
  let files ← Sandbox.Main.readFiles
  let (ended, host) := (Sandbox.CommandLine.execute launch).run { files := files }
  (← IO.getStdout).putStr ended.stdout
  (← IO.getStderr).putStr ended.stderr
  Sandbox.Main.writeFiles files host.files
  return UInt32.ofNat ended.exitCode
