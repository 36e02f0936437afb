import Sandbox.LoadError
import Sandbox.Text.Quoted
import Sandbox.Text.Search

/-!
# Names of cache entries

A download is kept under a name that is made from its address: the last part of the address,
without the endings that say what the file is, and with all but a few characters replaced.

## Main definitions

* `cacheName` : the name for an address.
* `isUsableName`, `checkName` : whether a name stands for an entry of a directory.
-/

namespace Sandbox.Fetch

/-- The characters in reverse order without all copies of `ending`, given in reverse order too, at
their front. -/
def dropCopies (ending : List Char) (cs : List Char) : List Char :=
  match _h : Text.stripStart? ending cs with
  | some rest => if 0 < ending.length then dropCopies ending rest else cs
  | none => cs
termination_by cs.length
decreasing_by
  have := Text.eq_append_of_stripStart? _h
  simp [this]
  omega

/-- The characters without all copies of `ending` at their end. -/
def trimCopies (ending : String) (cs : List Char) : List Char :=
  (dropCopies ending.toList.reverse cs.reverse).reverse

/-- Characters that names keep. -/
def isNameChar (c : Char) : Bool :=
  c.isAlphanum || c == '.' || c == '-' || c == '_'

/-- The characters after the last slash. -/
def lastPart (cs : List Char) : List Char :=
  (cs.reverse.takeWhile (· != '/')).reverse

/-- The name under which the download from an address is kept. -/
def cacheName (url : String) : String :=
  let part := trimCopies ".wasm" (trimCopies ".tgz" (trimCopies ".tar.gz" (lastPart url.toList)))
  String.ofList (part.map fun c => if isNameChar c then c else '_')

/-- Whether a name stands for an entry of a directory, and not for the directory or its parent. -/
def isUsableName (name : String) : Bool :=
  !name.toList.all (· == '.')

/-- Refuses names that stand for no entry. -/
def checkName (name url : String) : Except LoadError Unit :=
  if isUsableName name then .ok ()
  else .error (.invalidModule ("Cannot derive a cache name from " ++ Text.quoted url))

end Sandbox.Fetch
