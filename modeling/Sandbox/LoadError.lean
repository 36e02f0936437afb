/-!
# Failures before a run

What can go wrong while a backend is made ready, or while the sandbox is set up.

## Main definitions

* `FileError` : failures of the file system.
* `LoadError` : failures of making a backend ready.
* `SetupError` : failures of setting the sandbox up.
-/

namespace Sandbox

/-- A failure of the file system. -/
inductive FileError where
  /-- Nothing has that name. -/
  | notFound
  /-- Access is not allowed. -/
  | permissionDenied
  /-- Something has that name already. -/
  | alreadyExists
  /-- A part of the path before the last is no directory. -/
  | notADirectory
  /-- A directory stands where a file should. -/
  | isADirectory
  /-- The directory is not empty. -/
  | notEmpty
  /-- The file is no program. -/
  | notExecutable
  /-- Symbolic links lead in a circle. -/
  | linkLoop
  /-- A name is longer than the system allows. -/
  | nameTooLong
  /-- A path holds the character that ends paths for the system. -/
  | pathCutShort
  /-- The operation is not defined for that kind of entry. -/
  | invalidArgument
  /-- The content is not well-formed text. -/
  | notText
  /-- A failure that is described by its message. -/
  | other (message : String)
  deriving DecidableEq, Repr

/-- The wording of a failure of the file system. -/
def FileError.message : FileError → String
  | notFound => "No such file or directory (os error 2)"
  | permissionDenied => "Permission denied (os error 13)"
  | alreadyExists => "File exists (os error 17)"
  | notADirectory => "Not a directory (os error 20)"
  | isADirectory => "Is a directory (os error 21)"
  | invalidArgument => "Invalid argument (os error 22)"
  | nameTooLong => "File name too long (os error 36)"
  | notEmpty => "Directory not empty (os error 39)"
  | linkLoop => "Too many levels of symbolic links (os error 40)"
  | notExecutable => "Exec format error (os error 8)"
  | pathCutShort => "file name contained an unexpected NUL byte"
  | notText => "stream did not contain valid UTF-8"
  | other message => message

/-- Why a backend could not be made ready. A failed load leaves the backend as it was, so that it
can be tried again. -/
inductive LoadError where
  /-- The network failed. -/
  | fetch (url message : String)
  /-- The server answered with a status that is no success. -/
  | http (url : String) (status : Nat)
  /-- A downloaded archive could not be unpacked. -/
  | archive (message : String)
  /-- The compiler is missing or incomplete. -/
  | toolchain (message : String)
  /-- The bytes are no usable module. -/
  | invalidModule (message : String)
  /-- The interpreter did not pass its first test. -/
  | probe (message : String)
  /-- The file system failed. -/
  | file (error : FileError)
  deriving DecidableEq, Repr

/-- The wording of a load failure. -/
def LoadError.message : LoadError → String
  | fetch url message => "Failed to fetch " ++ url ++ ": " ++ message
  | http url status => "HTTP " ++ toString status ++ " fetching " ++ url
  | archive message => "Failed to extract archive: " ++ message
  | toolchain message => "Toolchain unavailable: " ++ message
  | invalidModule message => "Invalid module: " ++ message
  | probe message => "Interpreter probe failed: " ++ message
  | file error => "IO error: " ++ error.message

/-- Why the sandbox could not be set up. -/
inductive SetupError where
  /-- The configuration does not determine something that is needed. -/
  | configuration (message : String)
  /-- The configuration file is not well-formed. -/
  | toml (message : String)
  /-- The file system failed. -/
  | file (error : FileError)
  /-- A backend could not be prepared. -/
  | load (error : LoadError)
  deriving DecidableEq, Repr

/-- The wording of a setup failure. -/
def SetupError.message : SetupError → String
  | configuration message => "Configuration error: " ++ message
  | toml message => "TOML error: " ++ message
  | file error => "IO error: " ++ error.message
  | load error => error.message

end Sandbox
