import Sandbox.Files.Resolve

/-!
# Access to files by paths

What a program can ask of the file system, and what it can change. A request that fails changes
nothing.

## Main definitions

* `Tree.isPresent`, `Tree.isFile`, `Tree.isDirectory` : what a path stands for.
* `Tree.read`, `Tree.readText`, `Tree.list` : what is to be found there.
* `Tree.write`, `Tree.makeDirectory`, `Tree.makeDirectories`, `Tree.rename`, `Tree.removeTree`,
  `Tree.makeLink`, `Tree.makeHardLink` : changes.
-/

namespace Sandbox.Files.Tree

variable (tree : Tree)

/-! ### Looking -/

/-- Whether a path stands for something. That can fail if the way there cannot be walked. -/
def isPresent (path : String) : Except FileError Bool :=
  match tree.find true path with
  | .ok _ => .ok true
  | .error .notFound => .ok false
  | .error e => .error e

/-- Whether a path stands for a file. -/
def isFile (path : String) : Bool :=
  match tree.find true path with
  | .ok (_, node) => node.isFile
  | .error _ => false

/-- Whether a path stands for a directory. -/
def isDirectory (path : String) : Bool :=
  match tree.find true path with
  | .ok (_, node) => node.isDirectory
  | .error _ => false

/-- The content of a file. -/
def read (path : String) : Except FileError Content := do
  match (← tree.find true path).2 with
  | .file content _ => return content
  | .directory => throw .isADirectory
  | .link _ => throw .notFound

/-- The content of a file that holds text. -/
def readText (path : String) : Except FileError String := do
  match (← tree.read path).text? with
  | some text => return text
  | none => throw .notText

/-- The names in a directory. -/
def list (path : String) : Except FileError (List String) := do
  let (location, node) ← tree.find true path
  if node.isDirectory then return tree.childrenAt location
  else throw .notADirectory

/-! ### Changing -/

/-- The tree in which a file holds the content. A new file cannot be run. -/
def write (path : String) (content : Content) : Except FileError Tree := do
  let location ← tree.locate true path
  match tree.node? location with
  | some .directory => throw .isADirectory
  | some (.file _ isExecutable) => return tree.put location (.file content isExecutable)
  | _ => return tree.put location (.file content false)

/-- A path without the slashes at its end. -/
def withoutSlashes (path : String) : String :=
  let cs := (path.toList.reverse.dropWhile (· == '/')).reverse
  if cs.isEmpty then path else String.ofList cs

/-- The tree with something new at a path. -/
def create (path : String) (node : Node) : Except FileError Tree := do
  let location ← tree.locate false path
  match tree.node? location with
  | some _ => throw .alreadyExists
  | none => return tree.put location node

/-- The tree with a new directory. -/
def makeDirectory (path : String) : Except FileError Tree :=
  tree.create (withoutSlashes path) .directory

/-- The tree with a directory at the first of some paths, each the parent of the one before. A
parent is made only if it is missing. -/
def makeDirectoriesFrom : List String → Except FileError Tree
  | [] => .error (.other "failed to create whole tree")
  | path :: parents =>
    if path.isEmpty then .ok tree
    else
      match tree.makeDirectory path with
      | .ok made => .ok made
      | .error .notFound => do
        let made ← makeDirectoriesFrom parents
        match made.makeDirectory path with
        | .ok whole => return whole
        | .error e => if made.isDirectory path then return made else throw e
      | .error e => if tree.isDirectory path then .ok tree else .error e

/-- The tree with a directory at a path and at all of its parents. -/
def makeDirectories (path : String) : Except FileError Tree :=
  tree.makeDirectoriesFrom (Path.ancestors path)

/-- The tree in which what was at `source` is at `target`. A file replaces a file, and a directory
an empty directory. -/
def rename (source target : String) : Except FileError Tree := do
  let (origin, moved) ← tree.find false source
  let goal ← tree.locate false target
  if goal = origin then return tree
  if origin.isPrefixOf goal then throw .invalidArgument
  match tree.node? goal with
  | none => return tree.move origin goal
  | some replaced =>
    if moved.isDirectory then
      if !replaced.isDirectory then throw .notADirectory
      if !(tree.childrenAt goal).isEmpty then throw .notEmpty
      return tree.move origin goal
    else if replaced.isDirectory then throw .isADirectory
    else return tree.move origin goal

/-- The tree without a directory and all that is in it. Of a symbolic link only the link goes. -/
def removeTree (path : String) : Except FileError Tree := do
  let (location, node) ← tree.find false path
  match node with
  | .file .. => throw .notADirectory
  | _ => return tree.remove location

/-- The tree without a file or a symbolic link. -/
def removeFile (path : String) : Except FileError Tree := do
  let (location, node) ← tree.find false path
  if node.isDirectory then throw .isADirectory
  return tree.remove location

/-- The tree with a new symbolic link. -/
def makeLink (target path : String) : Except FileError Tree :=
  tree.create path (.link target)

/-- The tree in which a file or a symbolic link has another name too. -/
def makeHardLink (source path : String) : Except FileError Tree := do
  let node := (← tree.find false source).2
  if node.isDirectory then throw .permissionDenied
  tree.create path node

/-- The location that a path stands for, if something stands there. -/
def canonical (path : String) : Except FileError Location :=
  Prod.fst <$> tree.find true path

end Sandbox.Files.Tree
