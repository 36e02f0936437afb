import Sandbox.Files.Unpack
import Sandbox.Host.Basic

/-!
# Programs of storage actions

Whatever keeps downloads is written as a program of single actions on files and servers. A program
can be performed as a whole, or be interrupted between two of its actions, so that it can be said
what an interrupted download leaves behind.

## Main definitions

* `Action` : one action, by the type of its answer.
* `Program` : actions in a row, each depending on the answers so far.
* `Program.perform` : performs all actions.
* `Program.performUpTo` : performs actions until there is an interruption.

## Main results

* `Program.perform_bind` : a program after another one.
-/

namespace Sandbox.Fetch

/-- One action on files and servers, by the type of its answer. -/
inductive Action : Type → Type 1 where
  /-- Whether something has that path. -/
  | isPresent (path : String) : Action (Except FileError Bool)
  /-- Downloads what is at an address. -/
  | download (client : Http.Client) (url : String) : Action (Except LoadError Files.Content)
  /-- Makes a directory and its parents. -/
  | makeDirectories (path : String) : Action (Except FileError Unit)
  /-- Writes a file. -/
  | write (path : String) (content : Files.Content) : Action (Except FileError Unit)
  /-- Gives another path to a file or a directory. -/
  | rename (source target : String) : Action (Except FileError Unit)
  /-- Removes a directory and all that is in it. -/
  | removeTree (path : String) : Action (Except FileError Unit)
  /-- Unpacks an archive below a directory. -/
  | unpack (archive : Files.Content) (directory : String) : Action (Except LoadError Unit)
  /-- Logs an event. -/
  | log (event : Log.Event) : Action Unit

/-- Performs an action. -/
def Action.perform : {α : Type} → Action α → StateM Host α
  | _, .isPresent path => Host.look (·.isPresent path)
  | _, .download client url => Host.ask (client.download url)
  | _, .makeDirectories path => Host.edit (·.makeDirectories path)
  | _, .write path content => Host.edit (·.write path content)
  | _, .rename source target => Host.edit (·.rename source target)
  | _, .removeTree path => Host.edit (·.removeTree path)
  | _, .unpack archive directory => do
    let (outcome, files) := Files.unpack archive directory (← get).files
    modify fun host => { host with files := files }
    return outcome
  | _, .log event => record [event]

/-- Actions in a row, each depending on the answers so far. -/
inductive Program (α : Type) : Type 1 where
  /-- Nothing more to do. -/
  | done (result : α)
  /-- An action, and what follows for its answer. -/
  | act {β : Type} (action : Action β) (next : β → Program α)

namespace Program

variable {α β : Type}

/-- A program, and what follows for its result. -/
def bind : Program α → (α → Program β) → Program β
  | done result, next => next result
  | act action rest, next => act action fun answer => (rest answer).bind next

instance : Monad Program where
  pure := done
  bind := bind

/-- The program of one action. -/
def ofAction (action : Action α) : Program α :=
  act action done

/-- The program of one action on files, whose failure is a failure of loading. -/
def onFiles (action : Action (Except FileError α)) : ExceptT LoadError Program α :=
  ExceptT.mk (act action fun
    | .ok answer => done (.ok answer)
    | .error e => done (.error (.file e)))

/-- The program of one action that can fail to load. -/
def onLoading (action : Action (Except LoadError α)) : ExceptT LoadError Program α :=
  ExceptT.mk (ofAction action)

/-- The program that logs an event. -/
def say (level : Log.Level) (target message : String) : ExceptT LoadError Program Unit :=
  ExceptT.mk (act (.log ⟨level, target, message⟩) fun _ => done (.ok ()))

/-- Performs all actions. -/
def perform : Program α → StateM Host α
  | done result => pure result
  | act action next => do
    let answer ← action.perform
    (next answer).perform

/-- Performs at most so many actions. There is no result if that is not all of them. -/
def performUpTo : (limit : Nat) → Program α → StateM Host (Option α)
  | _, done result => pure (some result)
  | 0, act _ _ => pure none
  | limit + 1, act action next => do
    let answer ← action.perform
    performUpTo limit (next answer)

theorem perform_bind (program : Program α) (next : α → Program β) :
    (program.bind next).perform = program.perform >>= fun result => (next result).perform := by
  induction program with
  | done result => simp [bind, perform]
  | act action rest ih => simp [bind, perform, ih]

end Program

end Sandbox.Fetch
