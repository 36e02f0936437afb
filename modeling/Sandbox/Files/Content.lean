import Sandbox.Guest.Text

/-!
# Contents of files

A file holds bytes. Some contents are kept by what they describe and not byte by byte: guest
modules, packed archives, and programs that stand in for a compiler.

## Main definitions

* `Content` : what a file holds.
* `Archive`, `Entry` : packed directory trees.
* `CompilerScript` : a program that answers like a compiler.
* `Content.guestModule?` : the module that a content is.
-/

namespace Sandbox.Files

/-- What an entry of an archive is, apart from the content of files. -/
inductive EntryKind where
  /-- A regular file. -/
  | file
  /-- A directory. -/
  | directory
  /-- A symbolic link to a path. -/
  | symlink (target : String)
  /-- Another name for the file at a path. -/
  | hardlink (target : String)
  deriving DecidableEq, Repr

mutual

/-- What a file holds. -/
inductive Content where
  /-- Bytes. -/
  | bytes (data : List UInt8)
  /-- A guest module. -/
  | guest (m : Guest.Module)
  /-- A packed archive; a truncated one has lost its end. -/
  | archive (entries : List Entry) (truncated : Bool)
  /-- A program that answers like a compiler. -/
  | compiler (script : CompilerScript)

/-- An entry of an archive. -/
inductive Entry where
  /-- The name, the kind, what a file holds, and the permissions. -/
  | mk (name : String) (kind : EntryKind) (content : Content) (mode : Nat)

/-- A program that answers like a compiler. -/
inductive CompilerScript where
  /-- Whether it shows its arguments and the sources, what it writes to its error stream, the module
  that it makes, and its exit code. -/
  | mk (showArguments showSources : Bool) (diagnostics : List UInt8) (made : Option Content)
    (exitCode : Nat)

end

instance : Inhabited Content := ⟨.bytes []⟩

instance : Inhabited Entry := ⟨.mk "" .file default 0⟩

namespace Content

/-- The content that is a text. -/
def ofText (text : String) : Content :=
  .bytes (Text.Utf8.encode text)

/-- The bytes of a content that is kept byte by byte. -/
def bytes? : Content → Option (List UInt8)
  | .bytes data => some data
  | _ => none

/-- The first bytes of a module in binary form. -/
def isModule : Content → Bool
  | .bytes data => Text.hasStart Guest.magic data
  | .guest _ => true
  | _ => false

/-- Whether nothing is held. -/
def isEmpty : Content → Bool
  | .bytes data => data.isEmpty
  | _ => false

/-- The module that a content is, or why it is none. A module with code is one that is held as such:
of what is held as bytes, only modules without code, imports and data are read. -/
def guestModule? : Content → Except String Guest.Module
  | .bytes data => Guest.Module.ofBytes data
  | .guest m => .ok m
  | .archive .. => Guest.Module.ofBytes [0x1F, 0x8B]
  | .compiler _ => Guest.Module.ofBytes (Text.Utf8.encode "#!/bin/sh\n")

/-- The text of a content, with U+FFFD for each ill-formed part. -/
def text (content : Content) : String :=
  Text.Utf8.decodeLossy (content.bytes?.getD [])

/-- The text of a content that is well-formed. -/
def text? (content : Content) : Option String :=
  content.bytes?.bind Text.Utf8.decode?

end Content

end Sandbox.Files
