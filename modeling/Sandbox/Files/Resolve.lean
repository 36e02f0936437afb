import Sandbox.Files.Tree
import Sandbox.LoadError
import Sandbox.Path

/-!
# From paths to locations

A path is walked step by step from the root or from where one stands. Symbolic links on the way are
replaced by their targets, up to a limit; one at the end of the path only if the caller asks for
that. All but the last name has to exist.

## Main definitions

* `steps` : the steps of a path as the file system takes them.
* `Tree.walk` : the location at which steps end.
* `Tree.locate` : the location that a path stands for.
* `Tree.find` : a location with what stands there.
-/

namespace Sandbox.Files

open Sandbox.Path (Component)

/-- How many symbolic links may be followed for one path. -/
def linkLimit : Nat := 40

/-- How many bytes a name may have. -/
def nameLimit : Nat := 255

/-- How many bytes a path may have. -/
def pathLimit : Nat := 4095

/-- The step that stands for a name between slashes. -/
def stepOf (name : List Char) : Component :=
  if name = [] || name = ['.'] then .here else Component.ofName name

/-- The steps of a path. A slash at the end asks for a directory, as a point would. -/
def steps (path : String) : List Component :=
  match Text.splitOn '/' path.toList with
  | [] => []
  | first :: rest =>
    (if first = [] && !rest.isEmpty then .root else stepOf first) :: rest.map stepOf

namespace Tree

/-- The location at which the steps end that begin at `start`, if at most `links` symbolic links
are on the way. A link at the end is followed only if `follow` holds. The last name need not
exist. -/
def walk (tree : Tree) (follow : Bool) (links : Nat) (start : Location) :
    List Component → Except FileError Location
  | [] => .ok start
  | .root :: rest => tree.walk follow links [] rest
  | step :: rest =>
    if !tree.isDirectoryAt start then .error .notADirectory
    else
      match step with
      | .root | .here => tree.walk follow links start rest
      | .up => tree.walk follow links start.dropLast rest
      | .name name =>
        if nameLimit < name.utf8ByteSize then .error .nameTooLong
        else
          match tree.node? (start ++ [name]) with
          | none => if rest.isEmpty then .ok (start ++ [name]) else .error .notFound
          | some (.link target) =>
            if rest.isEmpty && !follow then .ok (start ++ [name])
            else
              match links with
              | 0 => .error .linkLoop
              | links + 1 =>
                if target.isEmpty then .error .notFound
                else tree.walk follow links start (steps target ++ rest)
          | some _ => tree.walk follow links (start ++ [name]) rest
termination_by todo => (links, todo.length)

/-- The location that a path stands for. Its last name need not exist. -/
def locate (tree : Tree) (follow : Bool) (path : String) : Except FileError Location :=
  if path.toList.contains '\x00' then .error .pathCutShort
  else if path.isEmpty then .error .notFound
  else if pathLimit < path.utf8ByteSize then .error .nameTooLong
  else tree.walk follow linkLimit tree.here (steps path)

/-- The location that a path stands for, with what stands there. -/
def find (tree : Tree) (follow : Bool) (path : String) : Except FileError (Location × Node) := do
  let location ← tree.locate follow path
  match tree.node? location with
  | some node => return (location, node)
  | none => throw .notFound

end Tree

/-- The absolute path of a location. -/
def Location.path (location : Location) : String :=
  if location.isEmpty then "/" else String.join (location.map fun name => "/" ++ name)

end Sandbox.Files
