import Sandbox.Fetch.Program
import Sandbox.Proofs.Files.Changing
import Sandbox.Proofs.Http.Delivery

/-!
# Programs that fail or are interrupted

An action on files or servers is performed, or it fails and leaves behind what can be left behind:
a download may have asked servers, a file may be written in part, a directory may be removed or
unpacked in part. Between two actions, a program may be interrupted. Looking at files and logging
never fail by themselves.

Renaming is done or not done, and so is making a directory with its parents. Unpacking is taken to
change nothing but what is at and below its destination, whether or not it comes to its end.

## Main definitions

* `Action.Goes` : what may come of an action.
* `Program.Runs` : what may come of a program.
* `Attains` : what holds whatever comes of a program, and what holds if it succeeds.
* `performed` : what a program does that is neither interrupted nor made to fail.

## Main results

* `Program.runs_performUpTo` : programs that are performed, also those that are interrupted.
* `Attains.bind`, `Attains.onFiles`, `Attains.onLoading` : one action after another.
-/

namespace Sandbox

namespace Fetch

/-! ### Actions -/

/-- Whether what an action changes is where it should be, which is in doubt only for unpacking. -/
def Action.IsConfined {α : Type} : Action α → Host → Prop
  | .unpack archive directory, host =>
    ∀ location, host.files.locate true directory = .ok location →
      host.files.Disturbs location (Files.unpack archive directory host.files).2
  | _, _ => True

/-- What may come of an action that fails by itself. -/
def Action.Fails {α : Type} : Action α → Host → α → Host → Prop
  | .isPresent _, _, _, _ => False
  | .download .., host, answer, later =>
    (∃ e, answer = .error e) ∧ ∃ requests,
      later = { host with traffic := { host.traffic with sent := host.traffic.sent ++ requests } }
  | .makeDirectories _, host, answer, later => (∃ e, answer = .error e) ∧ later = host
  | .write path _, host, answer, later =>
    (∃ e, answer = .error e) ∧ (later = host ∨ ∃ location part isExecutable,
      host.files.locate true path = .ok location ∧ host.files.node? location ≠ some .directory ∧
        later = { host with files := host.files.put location (.file part isExecutable) })
  | .rename .., host, answer, later => (∃ e, answer = .error e) ∧ later = host
  | .removeTree path, host, answer, later =>
    (∃ e, answer = .error e) ∧ (later = host ∨ ∃ location node files,
      host.files.find false path = .ok (location, node) ∧ host.files.Disturbs location files ∧
        later = { host with files := files })
  | .unpack _ directory, host, answer, later =>
    (∃ e, answer = .error e) ∧ (later = host ∨ ∃ location files,
      host.files.locate true directory = .ok location ∧ host.files.Disturbs location files ∧
        later = { host with files := files })
  | .log _, _, _, _ => False

/-- What may come of an action: it is performed, or it fails by itself. -/
def Action.Goes {α : Type} (action : Action α) (host : Host) (answer : α) (later : Host) : Prop :=
  (action.IsConfined host ∧ action.perform.run host = (answer, later)) ∨
    action.Fails host answer later

/-! ### Programs -/

namespace Program

variable {α β : Type} {host later : Host}

/-- What may come of a program: a result, or none if it is interrupted. -/
inductive Runs : Program α → Host → Option α → Host → Prop
  /-- The program is interrupted. -/
  | stopped (program : Program α) (host : Host) : Runs program host none host
  /-- Nothing is left to do. -/
  | done (result : α) (host : Host) : Runs (done result) host (some result) host
  /-- One more action. -/
  | act {β : Type} {action : Action β} {next : β → Program α} {host middle later : Host}
      {answer : β} {result : Option α} (goes : action.Goes host answer middle)
      (rest : Runs (next answer) middle result later) : Runs (act action next) host result later

/-- Whether all actions change only what they should when the program is performed. -/
def IsConfined : Program α → Host → Prop
  | done _, _ => True
  | act action next, host =>
    action.IsConfined host ∧
      (next (action.perform.run host).1).IsConfined (action.perform.run host).2

/-- A program that is performed, though it may be interrupted. -/
theorem runs_performUpTo {program : Program α} (h : program.IsConfined host) (limit : Nat) :
    program.Runs host ((program.performUpTo limit).run host).1
      ((program.performUpTo limit).run host).2 := by
  induction limit generalizing program host with
  | zero =>
    cases program with
    | done result => exact .done result host
    | act action next => exact .stopped _ host
  | succ limit ih =>
    cases program with
    | done result => exact .done result host
    | act action next =>
      exact .act (.inl ⟨h.1, rfl⟩) (ih h.2)

/-- A program that is performed. -/
theorem runs_perform {program : Program α} (h : program.IsConfined host) :
    program.Runs host (some (program.perform.run host).1) (program.perform.run host).2 := by
  induction program generalizing host with
  | done result => exact .done result host
  | act action next ih => exact .act (.inl ⟨h.1, rfl⟩) (ih _ h.2)

/-- A program that is performed begins with its first action. -/
theorem perform_act {action : Action β} {next : β → Program α} {answer : β}
    (h : action.perform.run host = (answer, later)) :
    (perform (act action next)).run host = ((next answer).perform).run later := by
  rw [perform, StateT.run_bind, h]
  rfl

/-- What holds of all that may come of a program. -/
def Ensures (program : Program α) (host : Host) (post : Option α → Host → Prop) : Prop :=
  ∀ result later, program.Runs host result later → post result later

variable {post : Option α → Host → Prop}

theorem ensures_done {result : α} (hstopped : post none host) (hdone : post (some result) host) :
    (done result).Ensures host post := by
  intro outcome later hruns
  cases hruns with
  | stopped => exact hstopped
  | done => exact hdone

theorem ensures_act {action : Action β} {next : β → Program α} (hstopped : post none host)
    (hnext : ∀ answer middle, action.Goes host answer middle →
      (next answer).Ensures middle post) : (act action next).Ensures host post := by
  intro outcome later hruns
  cases hruns with
  | stopped => exact hstopped
  | act goes rest => exact hnext _ _ goes _ _ rest

theorem ensures_bind {program : Program β} {next : β → Program α}
    (h : program.Ensures host fun
      | none, middle => post none middle
      | some result, middle => (next result).Ensures middle post) :
    (program.bind next).Ensures host post := by
  induction program generalizing host with
  | done result => exact h _ _ (.done result host)
  | act action rest ih =>
    refine ensures_act (h _ _ (.stopped _ host)) fun answer middle goes => ih answer ?_
    exact fun result later hruns => h _ _ (.act goes hruns)

end Program

/-! ### Loading -/

variable {α β : Type} {host : Host} {always : Host → Prop} {result : α → Host → Prop}

/-- What holds whatever comes of a program that loads something, and what holds of its result if it
succeeds. -/
def Attains (loading : ExceptT LoadError Program α) (host : Host) (always : Host → Prop)
    (result : α → Host → Prop) : Prop :=
  Program.Ensures loading host fun outcome later =>
    always later ∧ ∀ answer, outcome = some (.ok answer) → result answer later

namespace Attains

theorem pure {answer : α} (halways : always host) (hresult : result answer host) :
    Attains (Pure.pure answer) host always result :=
  Program.ensures_done ⟨halways, by simp⟩ ⟨halways, fun _ heq => by cases heq; exact hresult⟩

theorem throw {e : LoadError} (halways : always host) :
    Attains (MonadExcept.throw e) host always result :=
  Program.ensures_done ⟨halways, by simp⟩ ⟨halways, fun _ heq => by cases heq⟩

/-- A check that looks at nothing. -/
theorem check {checked : Except LoadError α} (halways : always host)
    (hresult : ∀ answer, checked = .ok answer → result answer host) :
    Attains (ExceptT.mk (Pure.pure checked)) host always result :=
  Program.ensures_done ⟨halways, by simp⟩ ⟨halways, fun answer heq =>
    hresult answer (by cases heq; rfl)⟩

/-- A program and what follows for its result. -/
theorem bind {first : ExceptT LoadError Program β} {next : β → ExceptT LoadError Program α}
    (h : Attains first host always fun answer later => Attains (next answer) later always result) :
    Attains (first >>= next) host always result := by
  refine Program.ensures_bind fun outcome later hruns => ?_
  obtain ⟨halways, hnext⟩ := h outcome later hruns
  cases outcome with
  | none => exact ⟨halways, by simp⟩
  | some outcome =>
    cases outcome with
    | error e => exact throw halways
    | ok answer => exact hnext answer rfl

/-- More may be known of the result than is asked. -/
theorem mono {loading : ExceptT LoadError Program α} {result' : α → Host → Prop}
    (h : Attains loading host always result)
    (hresult : ∀ answer later, always later → result answer later → result' answer later) :
    Attains loading host always result' := fun outcome later hruns =>
  have ⟨halways, hanswer⟩ := h outcome later hruns
  ⟨halways, fun answer heq => hresult answer later halways (hanswer answer heq)⟩

/-- An action on files. -/
theorem onFiles {action : Action (Except FileError α)} (halways : always host)
    (hgoes : ∀ answer later, action.Goes host answer later →
      always later ∧ ∀ a, answer = .ok a → result a later) :
    Attains (Program.onFiles action) host always result := by
  refine Program.ensures_act ⟨halways, by simp⟩ fun answer later goes => ?_
  obtain ⟨hlater, hresult⟩ := hgoes answer later goes
  cases answer with
  | error e => exact throw hlater
  | ok a => exact pure hlater (hresult a rfl)

/-- An action that can fail to load. -/
theorem onLoading {action : Action (Except LoadError α)} (halways : always host)
    (hgoes : ∀ answer later, action.Goes host answer later →
      always later ∧ ∀ a, answer = .ok a → result a later) :
    Attains (Program.onLoading action) host always result := by
  refine Program.ensures_act ⟨halways, by simp⟩ fun answer later goes => ?_
  obtain ⟨hlater, hresult⟩ := hgoes answer later goes
  exact Program.ensures_done ⟨hlater, by simp⟩ ⟨hlater, fun a heq =>
    hresult a (by cases heq; rfl)⟩

/-- An event that is logged. -/
theorem say {level : Log.Level} {target message : String} {result : Unit → Host → Prop}
    (halways : always host)
    (hlater : ∀ log, always { host with log := log } ∧ result () { host with log := log }) :
    Attains (Program.say level target message) host always result := by
  refine Program.ensures_act ⟨halways, by simp⟩ fun answer later goes => ?_
  obtain ⟨-, heq⟩ | hfails := goes
  · cases heq
    exact pure (hlater _).1 (hlater _).2
  · exact hfails.elim

end Attains

/-! ### Without interruption -/

/-- What a program that loads something does when it is performed. -/
def performed (loading : ExceptT LoadError Program α) (host : Host) : Except LoadError α × Host :=
  (Program.perform loading).run host

theorem performed_check (checked : Except LoadError α) (host : Host) :
    performed (ExceptT.mk (pure checked)) host = (checked, host) :=
  rfl

theorem performed_bind (first : ExceptT LoadError Program β)
    (next : β → ExceptT LoadError Program α) (host : Host) :
    performed (first >>= next) host =
      match performed first host with
      | (.ok answer, later) => performed (next answer) later
      | (.error e, later) => (.error e, later) := by
  have hbind := Program.perform_bind (α := Except LoadError β) first (ExceptT.bindCont next)
  unfold performed
  change (Program.perform (Program.bind first (ExceptT.bindCont next))).run host = _
  rw [hbind, StateT.run_bind]
  obtain ⟨answer, later⟩ := (Program.perform first).run host
  cases answer <;> rfl

theorem performed_onFiles (action : Action (Except FileError α)) (host : Host) :
    performed (Program.onFiles action) host =
      ((action.perform.run host).1.mapError LoadError.file, (action.perform.run host).2) := by
  unfold performed Program.onFiles
  change (Program.perform (Program.act action _)).run host = _
  simp only [Program.perform, StateT.run_bind]
  obtain ⟨answer, later⟩ := action.perform.run host
  cases answer <;> rfl

theorem performed_onLoading (action : Action (Except LoadError α)) (host : Host) :
    performed (Program.onLoading action) host = action.perform.run host := by
  rfl

theorem performed_say (level : Log.Level) (target message : String) (host : Host) :
    performed (Program.say level target message) host =
      (.ok (), { host with log := host.log ++ [⟨level, target, message⟩] }) :=
  rfl

/-- A program is confined if its first part is, and what follows whatever comes of that. -/
theorem isConfined_bind_of {first : ExceptT LoadError Program β}
    {next : β → ExceptT LoadError Program α} (hfirst : Program.IsConfined first host)
    (hnext : ∀ answer later, Program.Runs first host (some (.ok answer)) later →
      Program.IsConfined (next answer) later) :
    Program.IsConfined (first >>= next : ExceptT LoadError Program α) host := by
  have hbind : ∀ (program : Program (Except LoadError β)) (host : Host), program.IsConfined host →
      (∀ answer later, program.Runs host (some (.ok answer)) later →
        Program.IsConfined (next answer) later) →
      (program.bind (ExceptT.bindCont next)).IsConfined host := by
    intro program
    induction program with
    | done outcome =>
      intro host _ hnext
      cases outcome with
      | ok answer => exact hnext answer host (.done _ host)
      | error e => trivial
    | act action rest ih =>
      exact fun host h hnext => ⟨h.1, ih _ _ h.2 fun answer later hruns =>
        hnext answer later (.act (.inl ⟨h.1, rfl⟩) hruns)⟩
  exact hbind first host hfirst hnext

/-- A program is confined if all its parts are, whatever they find. -/
theorem isConfined_bind {first : ExceptT LoadError Program β}
    {next : β → ExceptT LoadError Program α} (hfirst : Program.IsConfined first host)
    (hnext : ∀ answer later, Program.IsConfined (next answer) later) :
    Program.IsConfined (first >>= next : ExceptT LoadError Program α) host :=
  isConfined_bind_of hfirst fun answer later _ => hnext answer later

theorem isConfined_onFiles {action : Action (Except FileError α)} (h : action.IsConfined host) :
    Program.IsConfined (Program.onFiles action) host := by
  refine ⟨h, ?_⟩
  cases (action.perform.run host).1 <;> trivial

theorem isConfined_say (level : Log.Level) (target message : String) (host : Host) :
    Program.IsConfined (Program.say level target message) host :=
  ⟨trivial, trivial⟩

/-- An action that changes files. -/
theorem performed_edit {action : Action (Except FileError Unit)}
    (change : Files.Tree → Except FileError Files.Tree) (h : action.perform = Host.edit change)
    (host : Host) :
    performed (Program.onFiles action) host =
      match change host.files with
      | .ok files => (.ok (), { host with files := files })
      | .error e => (.error (.file e), host) := by
  rw [performed_onFiles, h]
  unfold Host.edit
  simp only [StateT.run_bind, StateT.run_get, pure_bind]
  cases change host.files <;> rfl

theorem performed_makeDirectories (path : String) (host : Host) :
    performed (Program.onFiles (.makeDirectories path)) host =
      match host.files.makeDirectories path with
      | .ok files => (.ok (), { host with files := files })
      | .error e => (.error (.file e), host) :=
  performed_edit (·.makeDirectories path) rfl host

theorem performed_write (path : String) (content : Files.Content) (host : Host) :
    performed (Program.onFiles (.write path content)) host =
      match host.files.write path content with
      | .ok files => (.ok (), { host with files := files })
      | .error e => (.error (.file e), host) :=
  performed_edit (·.write path content) rfl host

theorem performed_rename (source target : String) (host : Host) :
    performed (Program.onFiles (.rename source target)) host =
      match host.files.rename source target with
      | .ok files => (.ok (), { host with files := files })
      | .error e => (.error (.file e), host) :=
  performed_edit (·.rename source target) rfl host

theorem performed_removeTree (path : String) (host : Host) :
    performed (Program.onFiles (.removeTree path)) host =
      match host.files.removeTree path with
      | .ok files => (.ok (), { host with files := files })
      | .error e => (.error (.file e), host) :=
  performed_edit (·.removeTree path) rfl host

theorem performed_isPresent {path : String} {host : Host} {present : Bool}
    (h : host.files.isPresent path = .ok present) :
    performed (Program.onFiles (.isPresent path)) host = (.ok present, host) := by
  rw [performed_onFiles]
  change ((host.files.isPresent path).mapError LoadError.file, host) = _
  rw [h]
  rfl

theorem performed_isPresent_error {path : String} {host : Host} {e : FileError}
    (h : host.files.isPresent path = .error e) :
    performed (Program.onFiles (.isPresent path)) host = (.error (.file e), host) := by
  rw [performed_onFiles]
  change ((host.files.isPresent path).mapError LoadError.file, host) = _
  rw [h]
  rfl

theorem performed_download {client : Http.Client} {url : String} (host : Host)
    {answer : Except LoadError Files.Content} {traffic : Http.Traffic}
    (h : (client.download url).run host.traffic = (answer, traffic)) :
    performed (Program.onLoading (.download client url)) host =
      (answer, { host with traffic := traffic }) := by
  rw [performed_onLoading]
  change (Host.ask (client.download url)).run host = _
  unfold Host.ask
  simp only [StateT.run_bind, StateT.run_get, pure_bind, h]
  rfl

/-! ### What may come of each action -/

namespace Action.Goes

variable {later : Host} {path : String} {answer : Except FileError Unit}

private theorem edit_eq (change : Files.Tree → Except FileError Files.Tree)
    (h : (Host.edit change).run host = (answer, later)) :
    (∃ e, answer = .error e) ∧ later = host ∨
      ∃ files, change host.files = .ok files ∧ later = { host with files := files } := by
  unfold Host.edit at h
  simp only [StateT.run_bind, StateT.run_get, pure_bind] at h
  split at h
  · next files hfiles =>
    cases h
    exact .inr ⟨files, hfiles, rfl⟩
  · cases h
    exact .inl ⟨⟨_, rfl⟩, rfl⟩

/-- Looking whether something is there changes nothing. -/
theorem isPresent {answer : Except FileError Bool}
    (h : (Action.isPresent path).Goes host answer later) :
    answer = host.files.isPresent path ∧ later = host := by
  obtain ⟨-, heq⟩ | hfails := h
  · cases heq
    exact ⟨rfl, rfl⟩
  · exact hfails.elim

/-- A download changes no files. -/
theorem download {client : Http.Client} {url : String} {answer : Except LoadError Files.Content}
    (h : (Action.download client url).Goes host answer later) :
    host.traffic.Grows later.traffic ∧ later.files = host.files ∧
      ∀ body, answer = .ok body → later.traffic.Delivered host.traffic.sent.length body := by
  obtain ⟨-, heq⟩ | ⟨⟨e, rfl⟩, requests, rfl⟩ := h
  · generalize hrun : (client.download url).run host.traffic = found at heq
    obtain ⟨found, traffic⟩ := found
    have hperform : (Action.download client url).perform.run host =
        (found, { host with traffic := traffic }) := by
      change (Host.ask (client.download url)).run host = _
      unfold Host.ask
      simp only [StateT.run_bind, StateT.run_get, pure_bind, hrun]
      rfl
    rw [hperform] at heq
    cases heq
    obtain ⟨hgrows, hdelivered⟩ := client.download_delivered hrun
    exact ⟨hgrows, rfl, hdelivered⟩
  · exact ⟨.sent_append _ _, rfl, by simp⟩

/-- Making directories changes nothing if it fails. -/
theorem makeDirectories (h : (Action.makeDirectories path).Goes host answer later) :
    (∃ e, answer = .error e) ∧ later = host ∨
      ∃ made, host.files.makeDirectories path = .ok made ∧
        later = { host with files := made } := by
  obtain ⟨-, heq⟩ | hfails := h
  · exact edit_eq (·.makeDirectories path) heq
  · exact .inl hfails

/-- Writing a file may be cut short. -/
theorem write {content : Files.Content} (h : (Action.write path content).Goes host answer later) :
    (∃ e, answer = .error e) ∧ later = host ∨
      (∃ e, answer = .error e) ∧ (∃ location part isExecutable,
        host.files.locate true path = .ok location ∧
          host.files.node? location ≠ some .directory ∧
            later = { host with files := host.files.put location (.file part isExecutable) }) ∨
      ∃ files, host.files.write path content = .ok files ∧
        later = { host with files := files } := by
  obtain ⟨-, heq⟩ | ⟨herror, hsame | hpart⟩ := h
  · exact (edit_eq (·.write path content) heq).imp_right .inr
  · exact .inl ⟨herror, hsame⟩
  · exact .inr (.inl ⟨herror, hpart⟩)

/-- Renaming changes nothing if it fails. -/
theorem rename {target : String} (h : (Action.rename path target).Goes host answer later) :
    (∃ e, answer = .error e) ∧ later = host ∨
      ∃ files, host.files.rename path target = .ok files ∧
        later = { host with files := files } := by
  obtain ⟨-, heq⟩ | hfails := h
  · exact edit_eq (·.rename path target) heq
  · exact .inl hfails

/-- Removing a directory may be cut short. -/
theorem removeTree (h : (Action.removeTree path).Goes host answer later) :
    (∃ e, answer = .error e) ∧ later = host ∨
      (∃ e, answer = .error e) ∧ (∃ location node files,
        host.files.find false path = .ok (location, node) ∧
          host.files.Disturbs location files ∧ later = { host with files := files }) ∨
      ∃ files, host.files.removeTree path = .ok files ∧
        later = { host with files := files } := by
  obtain ⟨-, heq⟩ | ⟨herror, hsame | hpart⟩ := h
  · exact (edit_eq (·.removeTree path) heq).imp_right .inr
  · exact .inl ⟨herror, hsame⟩
  · exact .inr (.inl ⟨herror, hpart⟩)

/-- Unpacking may be cut short. -/
theorem unpack {archive : Files.Content} {answer : Except LoadError Unit}
    {location : Files.Location} (h : (Action.unpack archive path).Goes host answer later)
    (hlocation : host.files.locate true path = .ok location) :
    (∃ e, answer = .error e) ∧ later = host ∨
      ∃ files, host.files.Disturbs location files ∧ later = { host with files := files } ∧
        (answer = .ok () → Files.unpack archive path host.files = (.ok (), files)) := by
  obtain ⟨hconfined, heq⟩ | ⟨herror, hsame | ⟨other, files, hother, hdisturbs, hlater⟩⟩ := h
  · cases heq
    exact .inr ⟨_, hconfined location hlocation, rfl, fun hanswer => Prod.ext hanswer rfl⟩
  · exact .inl ⟨herror, hsame⟩
  · rw [hlocation] at hother
    cases hother
    obtain ⟨e, rfl⟩ := herror
    exact .inr ⟨files, hdisturbs, hlater, by simp⟩

end Action.Goes

end Fetch

end Sandbox
