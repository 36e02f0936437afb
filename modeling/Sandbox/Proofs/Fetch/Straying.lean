import Sandbox.Proofs.Fetch.Succeeding
import Sandbox.Proofs.Fetch.Places

/-!
# Names that lead away

A fetch can be asked for with any name, not only with one that is made from an address. It refuses
the names that have nothing but points, before it does anything. With all others it looks at the
place of the name and at no other, downloads into the draft of the name, and renames that to the
place. The check does not look at slashes: a name without slashes has its place in the cache
directory, but an absolute name is a path of its own, and a name with steps upwards leads out of the
cache directory.

## Main definitions

* `Program.Uses` : what a program may do, and what it may end with, whatever it finds.
* `Loader.Allows` : the actions at a place and its draft.

## Main results

* `checkName_eq_ok_iff` : the names that are not refused.
* `Loader.uses_fetchModule`, `Loader.uses_fetchArchive` : what a fetch may do with a name.
* `Loader.performed_of_present` : what it does if the place is taken.
* `Loader.fetch_places` : what becomes of each name.
-/

namespace Sandbox

/-! ### Ways of joined paths -/

namespace Path

/-- The steps of a path that lead from one place to another. -/
def way (path : String) : List Component :=
  (components path).filter (· ≠ .here)

theorem way_join_of_relative (base : String) {path : String} (h : isAbsolute path = false) :
    way (join base path) = way base ++ way path := by
  unfold way
  rw [components_join, h, Bool.false_or]
  split
  · next hempty =>
    obtain rfl : base = "" := by simpa using hempty
    rfl
  · rw [List.filter_append, List.filter_filter]
    simp

theorem join_of_absolute (base : String) {path : String} (h : isAbsolute path = true) :
    join base path = path := by
  rw [join, h, Bool.true_or, if_pos rfl]

theorem isAbsolute_append {path : String} (h : path ≠ "") (ending : String) :
    isAbsolute (path ++ ending) = isAbsolute path := by
  unfold isAbsolute Text.beginsWith Text.hasStart
  rw [String.toList_append]
  cases hpath : path.toList with
  | nil => exact absurd (by simpa using hpath) h
  | cons c cs =>
    by_cases hc : c = '/'
    · simp [Text.stripStart?, hc]
    · simp [Text.stripStart?, Ne.symm hc]

end Path

namespace Fetch

/-! ### What a program may do -/

namespace Program

variable {α β : Type}

/-- All actions of a program are allowed and all its results are right, whatever the actions
find. -/
def Uses (allowed : {β : Type} → Action β → Prop) (right : α → Prop) : Program α → Prop
  | done result => right result
  | act action next => allowed action ∧ ∀ answer, (next answer).Uses allowed right

variable {allowed : {β : Type} → Action β → Prop}

theorem Uses.bind {program : Program β} {next : β → Program α} {middle : β → Prop}
    {right : α → Prop} (h : program.Uses allowed middle)
    (hnext : ∀ result, middle result → (next result).Uses allowed right) :
    (program.bind next).Uses allowed right := by
  induction program with
  | done result => exact hnext result h
  | act action rest ih => exact ⟨h.1, fun answer => ih answer (h.2 answer)⟩

end Program

variable {α β : Type} {allowed : {β : Type} → Action β → Prop} {right : α → Prop}

variable (allowed right) in
/-- All actions of a program that loads something are allowed, and what it loads is right. -/
def Keeps (loading : ExceptT LoadError Program α) : Prop :=
  Program.Uses allowed (fun outcome => ∀ answer, outcome = .ok answer → right answer) loading

namespace Keeps

theorem pure {answer : α} (h : right answer) : Keeps allowed right (Pure.pure answer) :=
  fun _ heq => by cases heq; exact h

theorem throw (e : LoadError) : Keeps allowed right (MonadExcept.throw e) :=
  fun _ heq => nomatch heq

theorem check {checked : Except LoadError α} (h : ∀ answer, checked = .ok answer → right answer) :
    Keeps allowed right (ExceptT.mk (Pure.pure checked)) :=
  h

theorem bind {first : ExceptT LoadError Program β} {next : β → ExceptT LoadError Program α}
    {middle : β → Prop} (h : Keeps allowed middle first)
    (hnext : ∀ answer, middle answer → Keeps allowed right (next answer)) :
    Keeps allowed right (first >>= next) := by
  refine Program.Uses.bind h fun outcome hmiddle => ?_
  cases outcome with
  | error e => exact throw e
  | ok answer => exact hnext answer (hmiddle answer rfl)

theorem onFiles {action : Action (Except FileError β)} (h : allowed action) :
    Keeps allowed (fun _ => True) (Program.onFiles action) :=
  ⟨h, fun answer => by cases answer <;> exact fun _ _ => trivial⟩

theorem onLoading {action : Action (Except LoadError β)} (h : allowed action) :
    Keeps allowed (fun _ => True) (Program.onLoading action) :=
  ⟨h, fun _ _ _ => trivial⟩

theorem say {level : Log.Level} {target message : String}
    (h : allowed (.log ⟨level, target, message⟩)) :
    Keeps allowed (fun _ => True) (Program.say level target message) :=
  ⟨h, fun _ _ _ => trivial⟩

end Keeps

/-! ### What a fetch does -/

theorem isUsableName_iff (name : String) :
    isUsableName name = true ↔ ∃ c ∈ name.toList, c ≠ '.' := by
  simp [isUsableName]

theorem checkName_eq_ok_iff (name url : String) :
    checkName name url = .ok () ↔ ∃ c ∈ name.toList, c ≠ '.' := by
  rw [← isUsableName_iff, checkName]
  split <;> simp_all

namespace Loader

variable (loader : Loader) (name url : String)

/-- The actions at a place and at its draft. The directories of the cache may be made, and an
address may be asked. -/
def Allows (place draft url : String) : {β : Type} → Action β → Prop
  | _, .isPresent path => path = place ∨ path = draft
  | _, .download client address => client = loader.client ∧ address = url
  | _, .makeDirectories path => path = loader.cacheDirectory ∨ path = loader.stagingDirectory
  | _, .write path _ => path = draft
  | _, .rename source target => source = draft ∧ target = place
  | _, .removeTree path => path = draft
  | _, .unpack _ directory => directory = draft
  | _, .log _ => True

variable {loader url} in
theorem keeps_makeDirectories {place draft : String} :
    Keeps (loader.Allows place draft url) (fun _ => True) loader.makeDirectories :=
  .bind (.onFiles (.inl rfl)) fun _ _ => .onFiles (.inr rfl)

theorem keeps_downloadModule :
    Keeps (loader.Allows (loader.modulePath name) (loader.moduleDraft name) url) (fun _ => True)
      (loader.downloadModule name url) := by
  refine .bind (.onLoading ⟨rfl, rfl⟩) fun content _ => ?_
  dsimp only
  split
  · exact .bind keeps_makeDirectories fun _ _ =>
      .bind (.onFiles rfl) fun _ _ => .onFiles ⟨rfl, rfl⟩
  · exact .bind (.throw _) fun _ (_ : True) => .bind keeps_makeDirectories fun _ _ =>
      .bind (.onFiles rfl) fun _ _ => .onFiles ⟨rfl, rfl⟩

theorem uses_fetchModule :
    Keeps (loader.Allows (loader.modulePath name) (loader.moduleDraft name) url)
      (· = loader.modulePath name) (loader.fetchModule name url) := by
  refine .bind (.check fun _ _ => trivial) fun _ (_ : True) =>
    .bind (.onFiles (.inl rfl)) fun present _ => ?_
  dsimp only
  split
  · exact .bind (.say trivial) fun _ _ => .pure rfl
  · exact .bind (.say trivial) fun _ _ => .bind (loader.keeps_downloadModule name url) fun _ _ =>
      .bind (.say trivial) fun _ _ => .pure rfl

theorem keeps_downloadArchive :
    Keeps (loader.Allows (loader.archivePath name) (loader.archiveDraft name) url) (fun _ => True)
      (loader.downloadArchive name url) := by
  refine .bind (.onLoading ⟨rfl, rfl⟩) fun content _ => .bind keeps_makeDirectories fun _ _ =>
    .bind (.onFiles (.inr rfl)) fun present _ => ?_
  have hunpack : Keeps (loader.Allows (loader.archivePath name) (loader.archiveDraft name) url)
      (fun _ => True) (do
        Program.onLoading (.unpack content (loader.archiveDraft name))
        Program.onFiles (.rename (loader.archiveDraft name) (loader.archivePath name))) :=
    .bind (.onLoading rfl) fun _ _ => .onFiles ⟨rfl, rfl⟩
  dsimp only
  split
  · exact .bind (.onFiles rfl) fun _ _ => hunpack
  · exact hunpack

theorem uses_fetchArchive :
    Keeps (loader.Allows (loader.archivePath name) (loader.archiveDraft name) url)
      (· = loader.archivePath name) (loader.fetchArchive name url) := by
  refine .bind (.check fun _ _ => trivial) fun _ (_ : True) =>
    .bind (.onFiles (.inl rfl)) fun present _ => ?_
  have hfetch : Keeps (loader.Allows (loader.archivePath name) (loader.archiveDraft name) url)
      (· = loader.archivePath name) (do
        Program.say .info target ("Downloading archive " ++ name ++ " from: " ++ url)
        loader.downloadArchive name url
        Program.say .info target
          ("Archive unpacked at: " ++ Text.quotedPath (loader.archivePath name))
        return loader.archivePath name) :=
    .bind (.say trivial) fun _ _ => .bind (loader.keeps_downloadArchive name url) fun _ _ =>
      .bind (.say trivial) fun _ _ => .pure rfl
  dsimp only
  split
  · exact .bind (.say trivial) fun _ _ => .pure rfl
  · split
    · exact hfetch
    · exact .bind (.throw _) fun _ (_ : True) => hfetch

/-- The program that does nothing but say that no name can be made of an address. -/
def refusal (url : String) : ExceptT LoadError Program String :=
  ExceptT.mk (.done (.error (.invalidModule
    ("Cannot derive a cache name from " ++ Text.quoted url))))

/-- Nothing is done for a name that is refused. -/
theorem fetch_of_not_checked (h : checkName name url ≠ .ok ()) :
    loader.fetchModule name url = refusal url ∧ loader.fetchArchive name url = refusal url := by
  have hrefused : checkName name url =
      .error (.invalidModule ("Cannot derive a cache name from " ++ Text.quoted url)) := by
    rw [checkName] at h ⊢
    split <;> simp_all
  rw [fetchModule, fetchArchive, hrefused]
  exact ⟨rfl, rfl⟩

/-- Whatever has the place of a name that is not refused is returned. -/
theorem performed_of_present (h : checkName name url = .ok ()) (host : Host) :
    (host.files.isPresent (loader.modulePath name) = .ok true →
      (performed (loader.fetchModule name url) host).1 = .ok (loader.modulePath name)) ∧
    (host.files.isPresent (loader.archivePath name) = .ok true →
      (performed (loader.fetchArchive name url) host).1 = .ok (loader.archivePath name)) := by
  refine ⟨fun hpresent => ?_, fun hpresent => ?_⟩
  · rw [fetchModule, performed_bind, performed_check, h]
    dsimp only
    rw [performed_bind, performed_isPresent hpresent]
    rfl
  · rw [fetchArchive, performed_bind, performed_check, h]
    dsimp only
    rw [performed_bind, performed_isPresent hpresent]
    rfl

open Sandbox.Path (IsChild isAbsolute way)

/-- A name is refused exactly if it has nothing but points, and then nothing is done. With all
others, the actions of a fetch are at the place of the name and at its draft, and it returns the
place, at once if something is there. For a name without slashes they are entries of the cache
directory and of the staging directory. A relative name leads on from these directories, upwards
too, and an absolute name leads to where it leads without them. -/
theorem fetch_places (loader : Loader) (name url : String) :
    (checkName name url = .ok () ↔ ∃ c ∈ name.toList, c ≠ '.') ∧
    (checkName name url ≠ .ok () →
      loader.fetchModule name url = refusal url ∧ loader.fetchArchive name url = refusal url) ∧
    (checkName name url = .ok () →
      Keeps (loader.Allows (loader.modulePath name) (loader.moduleDraft name) url)
        (· = loader.modulePath name) (loader.fetchModule name url) ∧
      Keeps (loader.Allows (loader.archivePath name) (loader.archiveDraft name) url)
        (· = loader.archivePath name) (loader.fetchArchive name url) ∧
      (∀ host : Host,
        (host.files.isPresent (loader.modulePath name) = .ok true →
          (performed (loader.fetchModule name url) host).1 = .ok (loader.modulePath name)) ∧
        (host.files.isPresent (loader.archivePath name) = .ok true →
          (performed (loader.fetchArchive name url) host).1 = .ok (loader.archivePath name))) ∧
      ('/' ∉ name.toList → loader.Confines name) ∧
      (isAbsolute name = false →
        way (loader.modulePath name) = way loader.cacheDirectory ++ way (name ++ ".wasm") ∧
        way (loader.archivePath name) = way loader.cacheDirectory ++ way name ∧
        way (loader.moduleDraft name) = way loader.stagingDirectory ++ way (name ++ ".wasm.tmp") ∧
        way (loader.archiveDraft name) = way loader.stagingDirectory ++ way name) ∧
      (isAbsolute name = true →
        loader.modulePath name = name ++ ".wasm" ∧ loader.archivePath name = name ∧
        loader.moduleDraft name = name ++ ".wasm.tmp" ∧ loader.archiveDraft name = name)) := by
  refine ⟨checkName_eq_ok_iff name url, loader.fetch_of_not_checked name url, fun haccepted => ?_⟩
  have hempty : name ≠ "" := by
    rintro rfl
    simpa using (checkName_eq_ok_iff "" url).1 haccepted
  have hsame := Path.isAbsolute_append hempty
  refine ⟨loader.uses_fetchModule name url, loader.uses_fetchArchive name url,
    loader.performed_of_present name url haccepted, fun hslash => ?_, fun hrelative => ?_,
    fun habsolute => ?_⟩
  · exact loader.confines (isPlain_of_usable (isUsableName_of_checkName haccepted) hslash)
  · exact ⟨Path.way_join_of_relative _ ((hsame _).trans hrelative),
      Path.way_join_of_relative _ hrelative,
      Path.way_join_of_relative _ ((hsame _).trans hrelative),
      Path.way_join_of_relative _ hrelative⟩
  · exact ⟨Path.join_of_absolute _ ((hsame _).trans habsolute),
      Path.join_of_absolute _ habsolute, Path.join_of_absolute _ ((hsame _).trans habsolute),
      Path.join_of_absolute _ habsolute⟩

/-! ### A name that leads out of the cache -/

section Sample

/-- An empty cache directory, and a module beside it. -/
def outsideFiles : Files.Tree :=
  ⟨[(["cache"], .directory), (["outside.wasm"], .file sampleBody false)], []⟩

/-- The way to the module beside the cache directory, through it. -/
theorem locate_outsideFiles :
    outsideFiles.locate true "/cache/../outside.wasm" = .ok ["outside.wasm"] := by
  have hsteps : Files.steps "/cache/../outside.wasm" =
      [.root, .name "cache", .up, .name "outside.wasm"] := by decide +kernel
  have hcache : outsideFiles.node? ([] ++ ["cache"]) = some .directory := rfl
  have hfile : outsideFiles.node? (([] ++ ["cache"]).dropLast ++ ["outside.wasm"]) =
      some (.file sampleBody false) := rfl
  have hwalk : Files.Tree.Walks outsideFiles true Files.linkLimit []
      [.root, .name "cache", .up, .name "outside.wasm"] ["outside.wasm"] :=
    .root (.entry rfl (by decide) hcache nofun (.up rfl
      (.entry rfl (by decide) hfile nofun (.done _ _))))
  rw [Files.Tree.locate, if_neg (by decide), if_neg (by decide), if_neg (by decide +kernel), hsteps]
  exact hwalk.walk

/-- The name is not refused, and what is returned for it is the module beside the cache. -/
theorem fetch_outside :
    let name := "../outside"
    let place := "/cache/../outside.wasm"
    let fetch := sampleLoader.fetchModule name "http://h/outside.wasm"
    checkName name "http://h/outside.wasm" = .ok () ∧
    sampleLoader.modulePath name = place ∧
    (performed fetch { files := outsideFiles }).1 = .ok place ∧
    outsideFiles.IsAt sampleLoader.cacheDirectory ["cache"] ∧
    outsideFiles.locate true place = .ok ["outside.wasm"] ∧
    ¬ IsChild sampleLoader.cacheDirectory place := by
  intro name place fetch
  have hchecked : checkName name "http://h/outside.wasm" = .ok () :=
    (checkName_eq_ok_iff _ _).2 ⟨'o', by decide, by decide⟩
  have hplace : sampleLoader.modulePath name = place := by decide +kernel
  have hpresent : outsideFiles.isPresent place = .ok true := by
    rw [Files.Tree.isPresent, Files.Tree.find, locate_outsideFiles]
    rfl
  refine ⟨hchecked, hplace, ?_, ?_, locate_outsideFiles, fun hchild => ?_⟩
  · rw [← hplace] at hpresent ⊢
    exact (performed_of_present sampleLoader name _ hchecked { files := outsideFiles }).1 hpresent
  · have hplain : Files.IsPlain "cache" := ⟨by decide, by decide⟩
    exact (Files.Tree.isAt_root outsideFiles).inner hplain (by decide) rfl
  · have hcache : (Path.components sampleLoader.cacheDirectory).length = 2 := by decide +kernel
    have hlong : (Path.components place).length = 4 := by decide +kernel
    obtain ⟨entry, hsteps⟩ := hchild.steps
    rw [hsteps, List.length_append, hcache] at hlong
    cases hlong

end Sample

end Loader

end Fetch

end Sandbox
