import Sandbox.Files.Access

/-!
# Unpacking archives

The entries of an archive are put below a directory, one after another, directories last. Nothing is
put elsewhere: entries that go up are left out, and a symbolic link that leads out of the directory
stops the work. What was unpacked before a failure stays.

## Main definitions

* `Unpacking` : work on a tree that may stop with a message.
* `unpackEntry` : puts one entry in its place.
* `unpack` : unpacks an archive below a directory.
-/

namespace Sandbox.Files

/-- Work on a tree that may stop with a message. What was done before stays done. -/
abbrev Unpacking : Type → Type := ExceptT String (StateM Tree)

namespace Unpacking

/-- Changes the tree. -/
def change (f : Tree → Except FileError Tree) (explain : FileError → String) : Unpacking Unit := do
  match f (← get) with
  | .ok tree => set tree
  | .error e => throw (explain e)

end Unpacking

namespace Entry

/-- The name of an entry. -/
def name : Entry → String
  | .mk name .. => name

/-- What an entry is. -/
def kind : Entry → EntryKind
  | .mk _ kind .. => kind

/-- What a file in an archive holds. -/
def content : Entry → Content
  | .mk _ _ content _ => content

/-- Whether a file in an archive may be run. -/
def isExecutable : Entry → Bool
  | .mk _ _ _ mode => mode &&& 0o111 != 0

/-- The names on the way to an entry, unless that way goes up. -/
def names? (entry : Entry) : Option (List String) :=
  (Path.components entry.name).foldr (fun component names? =>
    match component with
    | .up => none
    | .name name => names?.map (name :: ·)
    | _ => names?) (some [])

end Entry

/-- Stops unless a path leads to something at or below a directory. -/
def checkInside (base : Location) (path : String) : Unpacking Unit := do
  match (← get).canonical path with
  | .error e => throw (e.message ++ " while canonicalizing " ++ path)
  | .ok location =>
    unless base.isPrefixOf location do
      throw ("trying to unpack outside of destination path: " ++ base.path)

/-- Makes the missing ones among some directories, each the parent of the one before. -/
def makeMissing (base : Location) (directories : List String) : Unpacking Unit := do
  let tree ← get
  let missing := directories.takeWhile fun path => !(tree.find false path).isOk
  for path in missing.reverse do
    if let some parent := Path.parent? path then checkInside base parent
    Unpacking.change (·.makeDirectories path) FileError.message

/-- Puts something at a path, in place of a file that is there. -/
def replaceFile (path : String) (put : Tree → Except FileError Tree) : Unpacking Unit := do
  let tree ← get
  let outcome := match put tree with
    | .error .alreadyExists => tree.removeFile path >>= put
    | outcome => outcome
  Unpacking.change (fun _ => outcome) FileError.message

/-- Puts what an entry stands for at a path. A file whose name ends in a slash is a directory. -/
def putEntry (base : Location) (entry : Entry) (path : String) : Unpacking Unit := do
  let makeDirectory : Unpacking Unit := Unpacking.change (fun tree =>
    match tree.makeDirectory path with
    | .error .alreadyExists => if tree.isDirectory path then .ok tree else .error .alreadyExists
    | outcome => outcome) FileError.message
  match entry.kind with
  | .directory => makeDirectory
  | .symlink target => replaceFile path (·.makeLink target path)
  | .hardlink target =>
    let source := Path.join base.path target
    checkInside base source
    Unpacking.change (·.makeHardLink source path) FileError.message
  | .file =>
    if Text.endsWith entry.name "/" then makeDirectory
    else replaceFile path (·.create path (.file entry.content entry.isExecutable))

/-- Does some work; if it stops, the message is another one. -/
def explaining (message : String) (work : Unpacking Unit) : Unpacking Unit :=
  tryCatch work fun _ => throw message

/-- Puts one entry in its place below a directory. -/
def unpackEntry (base : Location) (entry : Entry) : Unpacking Unit := do
  match entry.names? with
  | none | some [] => return
  | some names =>
    let parents := (base ++ names.dropLast).path
    let path := (base ++ names).path
    explaining ("failed to create \x60" ++ parents ++ "\x60")
      (makeMissing base (Path.ancestors parents))
    checkInside base parents
    explaining ("failed to unpack \x60" ++ path ++ "\x60") (putEntry base entry path)

/-- Puts the entries of an archive below a directory: the directories last, and of those the later
names first. -/
def unpackEntries (base : Location) (entries : List Entry) : Unpacking Unit := do
  let (directories, others) := entries.partition fun entry => entry.kind == .directory
  others.forM (unpackEntry base)
  (directories.mergeSort fun a b => decide (b.name ≤ a.name)).forM (unpackEntry base)

/-- Unpacks an archive below a directory, which is made if it is missing. -/
def unpack (archive : Content) (directory : String) (tree : Tree) : Except LoadError Unit × Tree :=
  match tree.makeDirectories directory with
  | .error e => (.error (.file e), tree)
  | .ok tree =>
    let work : Unpacking Unit := do
      match archive, tree.canonical directory with
      | .archive entries false, .ok base => unpackEntries base entries
      | _, _ => throw "failed to iterate over archive"
    match work.run.run tree with
    | (.ok _, tree) => (.ok (), tree)
    | (.error message, tree) => (.error (.archive ("Failed to extract tar.gz: " ++ message)), tree)

end Sandbox.Files
