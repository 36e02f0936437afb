import Sandbox.Config.Discover
import Sandbox.Proofs.Path.Components

/-!
# The nearest configuration file

The search for a configuration file climbs from a directory to its parent, to the parent of that,
and so on, and ends at the root or, for a relative path, at the empty one. It looks at no more
directories than the path has steps, and one more, and it takes the first that has a regular file of
the right name, also by way of symbolic links; a directory of that name does not count. What that
file holds decides everything: if it cannot be read or is no configuration, this is the answer, and
files farther up are not looked at.

## Main definitions

* `HasFile` : directories that have a configuration file.
* `IsNearest` : the configuration file of the first directory upwards that has one.

## Main results

* `discoverPath?_step` : one turn of the search.
* `discoverPath?_eq_some_iff`, `discoverPath?_eq_none_iff` : what the search finds.
* `discover_eq` : what is made of it.
-/

namespace Sandbox.Config

open Sandbox.Path (ancestors join components parent?)

variable {files : Files.Tree} {directory path : String} {host : Host}

/-- A regular file has the name of a configuration file in a directory. -/
def HasFile (files : Files.Tree) (directory : String) : Prop :=
  ∃ location content isExecutable,
    files.find true (join directory fileName) = .ok (location, .file content isExecutable)

/-- The path of the configuration file in the first directory upwards that has one. -/
def IsNearest (files : Files.Tree) (directory path : String) : Prop :=
  ∃ below nearest above, ancestors directory = below ++ nearest :: above ∧
    (∀ other ∈ below, ¬ HasFile files other) ∧ HasFile files nearest ∧
      path = join nearest fileName

/-! ### The search -/

theorem isFile_iff : files.isFile (join directory fileName) = true ↔ HasFile files directory := by
  unfold Files.Tree.isFile HasFile
  cases files.find true (join directory fileName) with
  | error e => simp
  | ok found =>
    obtain ⟨location, node⟩ := found
    cases node <;> simp [Files.Node.isFile]

theorem not_hasFile_of_isDirectory
    (h : files.isDirectory (join directory fileName) = true) : ¬ HasFile files directory := by
  rintro ⟨location, content, isExecutable, hfind⟩
  rw [Files.Tree.isDirectory, hfind] at h
  cases h

/-- One turn of the search: the directory itself, or else its parent. -/
theorem discoverPath?_step (files : Files.Tree) (directory : String) :
    discoverPath? files directory =
      if files.isFile (join directory fileName) then some (join directory fileName)
      else (parent? directory).bind (discoverPath? files) := by
  cases h : parent? directory with
  | none =>
    rw [discoverPath?, Path.ancestors_of_none h, List.map_singleton, List.find?_singleton]
    rfl
  | some parent =>
    rw [discoverPath?, Path.ancestors_of_some h, List.map_cons, List.find?_cons]
    split <;> simp_all [discoverPath?]

theorem discoverPath?_eq_some_iff :
    discoverPath? files directory = some path ↔ IsNearest files directory path := by
  unfold discoverPath? IsNearest
  rw [List.find?_map, Option.map_eq_some_iff]
  constructor
  · rintro ⟨nearest, hfound, rfl⟩
    obtain ⟨hfile, below, above, hall, hbelow⟩ := List.find?_eq_some_iff_append.1 hfound
    refine ⟨below, nearest, above, hall, fun other hother => ?_, isFile_iff.1 hfile, rfl⟩
    rw [← isFile_iff]
    simpa using hbelow other hother
  · rintro ⟨below, nearest, above, hall, hbelow, hfile, rfl⟩
    refine ⟨nearest, List.find?_eq_some_iff_append.2
      ⟨isFile_iff.2 hfile, below, above, hall, fun other hother => ?_⟩, rfl⟩
    simpa using mt isFile_iff.1 (hbelow other hother)

theorem discoverPath?_eq_none_iff :
    discoverPath? files directory = none ↔
      ∀ above ∈ ancestors directory, ¬ HasFile files above := by
  unfold discoverPath?
  rw [List.find?_eq_none, List.forall_mem_map]
  simp only [isFile_iff]

/-! ### What is made of it -/

/-- The event that names the file that is used. -/
def found (path : String) : Log.Event :=
  ⟨.debug, logTarget, "Using configuration at " ++ Text.quotedPath path⟩

theorem discover_eq (host : Host) (directory : String) :
    (discover directory).run host =
      match discoverPath? host.files directory with
      | none => (.ok {}, host)
      | some path => (load host.files path, { host with log := host.log ++ [found path] }) := by
  have hlook : (Host.look fun files => discoverPath? files directory).run host =
      (discoverPath? host.files directory, host) := rfl
  rw [discover, StateT.run_bind, hlook]
  cases discoverPath? host.files directory <;> rfl

theorem load_of_unreadable {e : FileError} (h : files.readText path = .error e) :
    load files path = .error (.file e) := by
  rw [load, h]
  rfl

/-- What is made of a file with a text. -/
theorem load_of_text {text : String} (h : files.readText path = .ok text) :
    load files path = (ofToml text).mapError fun e => .toml e.message := by
  rw [load, h]
  rfl

theorem load_of_malformed {text : String} {e : Toml.Fault} (h : files.readText path = .ok text)
    (htoml : ofToml text = .error e) : load files path = .error (.toml e.message) := by
  rw [load_of_text h, htoml]
  rfl

theorem load_of_ok {text : String} {config : Config} (h : files.readText path = .ok text)
    (htoml : ofToml text = .ok config) : load files path = .ok config := by
  rw [load_of_text h, htoml]
  rfl

/-- The directories from a path upwards are the path, its parent, the parent of that, and so on to
the last one without parent; they have the beginnings of its steps, so there are at most as many as
it has steps, and one more. The search finds the configuration file of the first of them that has
one, and nothing exactly if none has one. What is found is read, logged and decides the answer,
whatever is in the directories farther up: its configuration, or why it cannot be read, or why it is
none. The default is taken without a look at any file exactly if none of the directories has one. -/
theorem discover_nearest (host : Host) (directory : String) :
    let above := ancestors directory
    let (answer, after) := (discover directory).run host
    (above.head? = some directory ∧ Path.Climb above ∧
      above.length = (components directory).length + (if Path.isAbsolute directory then 0 else 1) ∧
      ∀ k, ∀ hk : k < above.length,
        components above[k] = (components directory).take ((components directory).length - k)) ∧
    (∀ path, discoverPath? host.files directory = some path ↔
      IsNearest host.files directory path) ∧
    (discoverPath? host.files directory = none ↔ ∀ other ∈ above, ¬ HasFile host.files other) ∧
    (∀ other, host.files.isDirectory (join other fileName) = true → ¬ HasFile host.files other) ∧
    (∀ path, IsNearest host.files directory path →
      after = { host with log := host.log ++ [found path] } ∧
      (∀ e, host.files.readText path = .error e → answer = .error (.file e)) ∧
      ∀ text, host.files.readText path = .ok text →
        (∀ e, ofToml text = .error e → answer = .error (.toml e.message)) ∧
        ∀ config, ofToml text = .ok config → answer = .ok config) ∧
    ((∀ other ∈ above, ¬ HasFile host.files other) ↔ answer = .ok {} ∧ after = host) := by
  intro above
  rw [discover_eq]
  refine ⟨⟨?_, Path.climb_ancestors directory, Path.length_ancestors directory,
    fun k hk => Path.components_getElem_ancestors directory hk⟩,
    fun path => discoverPath?_eq_some_iff, discoverPath?_eq_none_iff,
    fun other => not_hasFile_of_isDirectory, fun path hnearest => ?_, ?_⟩
  · obtain ⟨rest, hrest⟩ := Path.exists_ancestors_eq directory
    exact congrArg List.head? hrest
  · rw [discoverPath?_eq_some_iff.2 hnearest]
    exact ⟨rfl, fun e => load_of_unreadable, fun text hread =>
      ⟨fun e => load_of_malformed hread, fun config => load_of_ok hread⟩⟩
  · rw [← discoverPath?_eq_none_iff]
    cases discoverPath? host.files directory with
    | none => simp
    | some path =>
      refine iff_of_false (by simp) fun ⟨_, hafter⟩ => ?_
      have hlog := congrArg Host.log hafter
      simp at hlog

end Sandbox.Config
