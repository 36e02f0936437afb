import Sandbox.CommandLine.Banner
import Sandbox.CommandLine.Parse

/-!
# Arguments that ask for help

The words that ask for help or the version are looked for among all arguments before these are read.
A command line that is read as a call has such a word in one place only: it may name the file with
the code, after the two dashes that end the options.

## Main definitions

* `helpWords` : the words that ask for help or the version.
* `Reading.value?` : the value of an option or operand among what was read.
* `Job.isForPrograms` : whether a report is asked for that is meant for programs.

## Main results

* `readArgument_value` : what one argument does to the value of an operand.
* `readArguments_value` : what all of them do.
* `helpWord_mem_iff` : where a call has a word that asks for help.
* `shouldShowBanner_iff` : when the banner is shown before a report that is meant for programs.
-/

namespace Sandbox.CommandLine

/-- The words that ask for help or the version. -/
def helpWords : List String :=
  ["--help", "-h", "--version", "-V"]

/-- Whether a report is asked for that is meant for programs. -/
def Job.isForPrograms : Job → Bool
  | run options => options.json
  | languages json => json
  | fetch _ => false

namespace Reading

/-- The value of an option or operand among what was taken over and what is pending. -/
def value? (reading : Reading) (name : Name) : Option String :=
  (reading.found.lookup name).or
    (match reading.pending with
    | some (parameter, value) => if parameter.name == name then value else none
    | none => none)

/-- If the next argument is a value, it is that of what is pending. -/
def IsProper (reading : Reading) : Prop :=
  reading.expectsValue = true → ∃ parameter, reading.pending = some (parameter, none)

end Reading

variable {command : Command} {reading after : Reading} {parameter : Parameter} {name : Name}
  {argument : String} {rest arguments : List String} {call : Call}

/-- Peels one part off a reading that does not stop. -/
theorem bind_eq_ok {α β : Type} {x : Outcome α} {f : α → Outcome β} {b : β} :
    (x >>= f) = .ok b ↔ ∃ a, x = .ok a ∧ f a = .ok b := by
  cases x with
  | error stop => exact ⟨fun h => (by cases h), fun ⟨a, h, _⟩ => (by cases h)⟩
  | ok a => exact ⟨fun h => ⟨a, rfl, h⟩, fun ⟨_, h, hf⟩ => Except.ok.inj h ▸ hf⟩

theorem fail_ne_ok {α : Type} {fault : Fault} {tips : List String} {used : Option (List Name)}
    {a : α} : fail command fault tips used ≠ .ok a := by
  intro h
  cases h

/-! ### Taking over -/

namespace Reading

theorem add_eq_ok {value : String} (h : reading.add command parameter value = .ok after) :
    parameter.name ∉ reading.names ∧
      after = { reading with found := reading.found ++ [(parameter.name, value)] } := by
  unfold add at h
  split at h
  · exact absurd h fail_ne_ok
  · rename_i hnew
    exact ⟨by simpa using hnew, (Except.ok.inj h).symm⟩

/-- What is pending is taken over, if anything is. -/
theorem settle_eq_ok (h : reading.settle command = .ok after) :
    (reading.pending = none ∧ after = reading) ∨
      ∃ parameter value, reading.pending = some (parameter, some value) ∧
        after = { reading with
          pending := none
          found := reading.found ++ [(parameter.name, value)] } := by
  unfold settle at h
  split at h
  · rename_i hpending
    exact .inl ⟨hpending, (Except.ok.inj h).symm⟩
  · rename_i parameter value hpending
    dsimp only at h
    split at h
    · exact absurd h fail_ne_ok
    · rename_i value
      obtain ⟨added, hadd, hrest⟩ := bind_eq_ok.mp h
      obtain ⟨-, rfl⟩ := add_eq_ok hadd
      refine .inr ⟨parameter, value, hpending, ?_⟩
      split at hrest
      · split at hrest
        · exact absurd hrest fail_ne_ok
        · exact (Except.ok.inj hrest).symm
      · exact (Except.ok.inj hrest).symm

/-- Taking over changes no value, and leaves nothing pending. -/
theorem settle_value (h : reading.settle command = .ok after) :
    after.pending = none ∧ ∀ name, after.found.lookup name = reading.value? name := by
  obtain ⟨hpending, rfl⟩ | ⟨parameter, value, hpending, rfl⟩ := settle_eq_ok h
  · exact ⟨hpending, fun name => by simp [value?, hpending]⟩
  · refine ⟨rfl, fun name => ?_⟩
    simp only [value?, hpending, List.lookup_append]
    refine congrArg _ ?_
    rw [List.lookup_cons, List.lookup_nil, BEq.comm]
    cases parameter.name == name <;> rfl

/-- Nothing is taken over while a value is expected. -/
theorem expectsValue_of_settle (hproper : reading.IsProper)
    (h : reading.settle command = .ok after) : after.expectsValue = false := by
  have hexpects (hsome : ∀ parameter, reading.pending ≠ some (parameter, none)) :
      reading.expectsValue = false := by
    refine Bool.eq_false_iff.mpr fun hexpects => ?_
    obtain ⟨parameter, hpending⟩ := hproper hexpects
    exact hsome parameter hpending
  obtain ⟨hpending, rfl⟩ | ⟨parameter, value, hpending, rfl⟩ := settle_eq_ok h
  · exact hexpects fun parameter => by simp [hpending]
  · exact hexpects fun parameter => by simp [hpending]

/-- A reading goes on properly and keeps the values of a name. -/
structure Keeps (name : Name) (before after : Reading) : Prop where
  /-- The next argument is expected as before. -/
  isProper : before.IsProper → after.IsProper
  /-- The value is as before. -/
  value : after.value? name = before.value? name

theorem Keeps.refl (name : Name) (reading : Reading) : reading.Keeps name reading :=
  ⟨id, rfl⟩

theorem Keeps.trans {between : Reading} (h : reading.Keeps name between)
    (h' : between.Keeps name after) : reading.Keeps name after :=
  ⟨fun hproper => h'.isProper (h.isProper hproper), h'.value.trans h.value⟩

theorem keeps_settle (h : reading.settle command = .ok after) : reading.Keeps name after := by
  obtain ⟨hpending, hvalue⟩ := settle_value h
  refine ⟨fun hproper hexpects => ?_, ?_⟩
  · rw [expectsValue_of_settle hproper h] at hexpects
    cases hexpects
  · rw [value?, hpending, hvalue]
    simp

theorem suspend_value {value : Option String} (name : Name)
    (h : reading.suspend command parameter value = .ok after) :
    after.IsProper ∧ after.value? name =
      (reading.value? name).or (if parameter.name == name then value else none) := by
  obtain ⟨settled, hsettle, hafter⟩ := bind_eq_ok.mp h
  obtain rfl := Except.ok.inj hafter
  refine ⟨fun hexpects => ⟨parameter, ?_⟩, ?_⟩
  · rw [Option.isNone_iff_eq_none.mp hexpects]
  · rw [value?, (settle_value hsettle).2]

theorem keeps_suspend {value : Option String} (hname : parameter.name ≠ name)
    (h : reading.suspend command parameter value = .ok after) : reading.Keeps name after := by
  obtain ⟨hproper, hvalue⟩ := suspend_value name h
  exact ⟨fun _ => hproper, by simpa [hname] using hvalue⟩

theorem keeps_addAttached {value : String} (hname : parameter.name ≠ name)
    (h : reading.addAttached command parameter value = .ok after) : reading.Keeps name after := by
  obtain ⟨suspended, hsuspend, hsettle⟩ := bind_eq_ok.mp h
  exact (keeps_suspend hname hsuspend).trans (keeps_settle hsettle)

theorem addFlag_eq_ok (h : reading.addFlag command parameter = .ok after) :
    parameter.name ≠ .help ∧ parameter.name ≠ .version ∧
      ∃ settled, reading.settle command = .ok settled ∧ after = { settled with
        found := settled.found ++ [(parameter.name, "")]
        expectsValue := false } := by
  obtain ⟨settled, hsettle, hrest⟩ := bind_eq_ok.mp h
  split at hrest
  · cases hrest
  · cases hrest
  · rename_i hhelp hversion
    obtain ⟨added, hadd, hafter⟩ := bind_eq_ok.mp hrest
    obtain ⟨-, rfl⟩ := add_eq_ok hadd
    exact ⟨hhelp, hversion, settled, hsettle, (Except.ok.inj hafter).symm⟩

theorem keeps_addFlag (hname : parameter.name ≠ name)
    (h : reading.addFlag command parameter = .ok after) : reading.Keeps name after := by
  obtain ⟨-, -, settled, hsettle, rfl⟩ := addFlag_eq_ok h
  refine (keeps_settle hsettle).trans ⟨fun _ hexpects => (by cases hexpects), ?_⟩
  have hother : (name == parameter.name) = false := by simpa using hname.symm
  simp [value?, List.lookup_append, List.lookup_cons, hother]

end Reading

/-! ### Options -/

theorem unknownLong_ne_ok {long : String} : unknownLong command reading long rest ≠ .ok after := by
  unfold unknownLong
  dsimp only
  split
  · exact fail_ne_ok
  · exact fail_ne_ok

/-- Options leave the values of operands alone. -/
theorem keeps_readLong (hoptions : ∀ option ∈ command.options, option.name ≠ name) {body : String}
    (h : readLong command reading body rest = .ok after) : reading.Keeps name after := by
  unfold readLong at h
  dsimp only at h
  split at h
  · exact absurd h unknownLong_ne_ok
  · rename_i option value hfind _
    have hname := hoptions option (List.mem_of_find?_eq_some hfind)
    split at h
    · exact Reading.keeps_addAttached hname h
    · exact absurd h fail_ne_ok
  · rename_i option hfind _
    have hname := hoptions option (List.mem_of_find?_eq_some hfind)
    split at h
    · exact Reading.keeps_suspend hname h
    · exact Reading.keeps_addFlag hname h

theorem keeps_readShort (hoptions : ∀ option ∈ command.options, option.name ≠ name)
    {cs : List Char} (h : readShort command reading cs = .ok after) :
    reading.Keeps name after := by
  induction cs generalizing reading with
  | nil =>
    obtain rfl := Except.ok.inj h
    exact .refl name reading
  | cons c cs ih =>
    rw [readShort] at h
    split at h
    · exact absurd h fail_ne_ok
    · rename_i option hfind
      have hname := hoptions option (List.mem_of_find?_eq_some hfind)
      split at h
      · split at h
        · exact Reading.keeps_suspend hname h
        · exact Reading.keeps_addAttached hname h
        · exact Reading.keeps_addAttached hname h
      · obtain ⟨added, hadd, hrest⟩ := bind_eq_ok.mp h
        exact (Reading.keeps_addFlag hname hadd).trans (ih hrest)

/-! ### Operands -/

theorem unexpectedOperand_ne_ok : unexpectedOperand command reading argument ≠ .ok after := by
  unfold unexpectedOperand
  split
  · exact fail_ne_ok
  split
  · exact fail_ne_ok
  split <;> exact fail_ne_ok

/-- An operand is read whole, and has not been read before. -/
theorem readOperand_eq_ok (h : readOperand command reading argument = .ok after) :
    ∃ operand ∈ command.operands, reading.value? operand.name = none ∧
      reading.suspend command operand (some argument) = .ok after := by
  unfold readOperand at h
  dsimp only at h
  split at h
  · rename_i operand hfind
    refine ⟨operand, List.mem_of_find?_eq_some hfind, ?_, h⟩
    have hunseen := List.find?_some hfind
    simp only [Reading.names, Bool.not_eq_true', List.contains_eq_mem, List.mem_append,
      decide_eq_false_iff_not, not_or, Option.mem_toList, Option.map_eq_some_iff] at hunseen
    have hfound : reading.found.lookup operand.name = none := by
      refine List.lookup_eq_none_iff.mpr fun entry hentry => ?_
      have hne : operand.name ≠ entry.1 := fun hsame =>
        hunseen.1 (hsame ▸ List.mem_map_of_mem hentry)
      simpa using hne
    rw [Reading.value?, hfound, Option.none_or]
    split
    · rename_i parameter value hpending
      rw [if_neg fun hsame => hunseen.2 ⟨(parameter, value), hpending, eq_of_beq hsame⟩]
    · rfl
  · exact absurd h unexpectedOperand_ne_ok

/-! ### Arguments -/

/-- The value of a name is kept, or there was none and it is the whole argument. -/
def Reading.Gains (name : Name) (argument : String) (before after : Reading) : Prop :=
  after.value? name = before.value? name ∨
    before.value? name = none ∧ after.value? name = some argument

theorem Reading.gains_of_value (parameter : Parameter) (hvalue : after.value? name =
    (reading.value? name).or (if parameter.name == name then some argument else none)) :
    reading.Gains name argument after := by
  rw [Reading.Gains, hvalue]
  cases reading.value? name <;> cases parameter.name == name <;> simp

/-- One argument keeps the value of an operand, or is the value. -/
theorem readArgument_value (hoptions : ∀ option ∈ command.options, option.name ≠ name)
    (h : readArgument command reading argument rest = .ok after) (hproper : reading.IsProper) :
    after.IsProper ∧ reading.Gains name argument after := by
  have hkeeps (h : reading.Keeps name after) : after.IsProper ∧ reading.Gains name argument after :=
    ⟨h.isProper hproper, .inl h.value⟩
  have hoperand (h : readOperand command reading argument = .ok after) :
      after.IsProper ∧ reading.Gains name argument after := by
    obtain ⟨operand, -, -, hsuspend⟩ := readOperand_eq_ok h
    obtain ⟨hafter, hvalue⟩ := Reading.suspend_value name hsuspend
    exact ⟨hafter, Reading.gains_of_value operand hvalue⟩
  unfold readArgument at h
  split at h
  · exact hoperand h
  split at h
  · obtain rfl := Except.ok.inj h
    exact ⟨hproper, .inl rfl⟩
  · exact hkeeps (keeps_readLong hoptions h)
  · exact hkeeps (keeps_readShort hoptions h)
  split at h
  · -- The argument is the value of what is pending, which had none.
    rename_i parameter value hexpects hpending
    obtain ⟨_, hsome⟩ := hproper hexpects
    obtain ⟨rfl, rfl⟩ := Prod.mk.inj (Option.some.inj (hpending.symm.trans hsome))
    obtain rfl := Except.ok.inj h
    refine ⟨fun hexpects => (by cases hexpects), Reading.gains_of_value parameter ?_⟩
    simp [Reading.value?, hpending]
  · exact hoperand h

/-! ### Words that ask for help -/

/-- The options that are called by such a word ask for help or the version. -/
theorem option_of_helpWord : ∀ command ∈ program :: commands, ∀ option ∈ command.options,
    option.long ∈ [some "help", some "version"] ∨ option.short ∈ [some 'h', some 'V'] →
      option.takesValue = false ∧ (option.name = .help ∨ option.name = .version) := by
  decide

theorem addFlag_ne_ok (hname : parameter.name = .help ∨ parameter.name = .version) :
    reading.addFlag command parameter ≠ .ok after := by
  intro h
  obtain ⟨hhelp, hversion, -⟩ := Reading.addFlag_eq_ok h
  exact hname.elim hhelp hversion

theorem readLong_ne_ok (hcommand : command ∈ program :: commands) {body : String}
    (hbody : body ∈ ["help", "version"]) : readLong command reading body rest ≠ .ok after := by
  intro h
  have hlong : String.ofList (body.toList.takeWhile (· != '=')) = body ∧
      body.toList.drop body.length = [] :=
    (by decide : ∀ body ∈ ["help", "version"],
      String.ofList (body.toList.takeWhile (· != '=')) = body ∧
        body.toList.drop body.length = []) body hbody
  unfold readLong at h
  dsimp only at h
  rw [hlong.1, hlong.2] at h
  split at h
  · exact unknownLong_ne_ok h
  · rename_i hvalue
    cases hvalue
  · rename_i option hfind _
    have hform := List.find?_some (p := fun option : Parameter => option.long == some body) hfind
    obtain ⟨hflag, hname⟩ := option_of_helpWord command hcommand option
      (List.mem_of_find?_eq_some hfind) (.inl (by simpa [eq_of_beq hform] using hbody))
    rw [hflag, if_neg Bool.false_ne_true] at h
    exact addFlag_ne_ok hname h

theorem readShort_ne_ok (hcommand : command ∈ program :: commands) {c : Char}
    (hc : c ∈ ['h', 'V']) (cs : List Char) : readShort command reading (c :: cs) ≠ .ok after := by
  intro h
  rw [readShort] at h
  split at h
  · exact fail_ne_ok h
  · rename_i option hfind
    have hform := List.find?_some (p := fun option : Parameter => option.short == some c) hfind
    obtain ⟨hflag, hname⟩ := option_of_helpWord command hcommand option
      (List.mem_of_find?_eq_some hfind) (.inr (by simpa [eq_of_beq hform] using hc))
    rw [hflag, if_neg Bool.false_ne_true] at h
    obtain ⟨added, hadd, -⟩ := bind_eq_ok.mp h
    exact addFlag_ne_ok hname hadd

/-- A word that asks for help is read only as an operand, after the two dashes. -/
theorem readArgument_helpWord (hcommand : command ∈ program :: commands)
    (hargument : argument ∈ helpWords)
    (h : readArgument command reading argument rest = .ok after) :
    readOperand command reading argument = .ok after := by
  unfold readArgument at h
  split at h
  · exact h
  simp only [helpWords, List.mem_cons, List.not_mem_nil, or_false] at hargument
  rcases hargument with rfl | rfl | rfl | rfl
  · exact absurd h (readLong_ne_ok hcommand (by decide))
  · exact absurd h (readShort_ne_ok hcommand (by decide) _)
  · exact absurd h (readLong_ne_ok hcommand (by decide))
  · exact absurd h (readShort_ne_ok hcommand (by decide) _)

/-! ### All arguments -/

/-- The arguments of a subcommand, one after another. -/
theorem readArguments_cons (hcommand : command.isProgram = false)
    {sub : Option (Command × List String)}
    (h : readArguments command reading (argument :: rest) = .ok (after, sub)) :
    ∃ between, readArgument command reading argument rest = .ok between ∧
      readArguments command between rest = .ok (after, sub) := by
  rw [readArguments] at h
  simp only [hcommand, Bool.false_and, Bool.false_eq_true, if_false] at h
  exact bind_eq_ok.mp h

/-- All arguments of a subcommand keep the value of an operand, or one of them is the value. -/
theorem readArguments_value (hcommand : command.isProgram = false)
    (hoptions : ∀ option ∈ command.options, option.name ≠ name)
    {sub : Option (Command × List String)}
    (h : readArguments command reading arguments = .ok (after, sub)) (hproper : reading.IsProper) :
    after.value? name = reading.value? name ∨
      reading.value? name = none ∧ ∃ argument ∈ arguments, after.value? name = some argument := by
  induction arguments generalizing reading with
  | nil =>
    obtain ⟨rfl, -⟩ := Prod.mk.inj (Except.ok.inj h)
    exact .inl rfl
  | cons argument rest ih =>
    obtain ⟨between, hfirst, hrest⟩ := readArguments_cons hcommand h
    obtain ⟨hbetween, hgains⟩ := readArgument_value hoptions hfirst hproper
    rcases ih hrest hbetween with hkept | ⟨hnone, value, hmem, hvalue⟩
    · rcases hgains with hsame | ⟨hnone, hvalue⟩
      · exact .inl (hkept.trans hsame)
      · exact .inr ⟨hnone, argument, List.mem_cons_self, hkept.trans hvalue⟩
    · rcases hgains with hsame | ⟨-, hsome⟩
      · exact .inr ⟨hsame ▸ hnone, value, List.mem_cons_of_mem _ hmem, hvalue⟩
      · rw [hsome] at hnone
        cases hnone

/-- No option is named as the file with the code is. -/
theorem name_ne_codeFile : ∀ command ∈ program :: commands, ∀ option ∈ command.options,
    option.name ≠ .codeFile := by
  decide

/-- A word that asks for help is the file with the code, if it does not stop the reading. -/
theorem readArguments_helpWord (hcommand : command ∈ program :: commands)
    (hsub : command.isProgram = false)
    (hoperands : ∀ operand ∈ command.operands, operand.name = .codeFile)
    {sub : Option (Command × List String)}
    (h : readArguments command reading arguments = .ok (after, sub)) (hproper : reading.IsProper)
    (hargument : argument ∈ helpWords) (hmem : argument ∈ arguments) :
    command.operands ≠ [] ∧ after.value? .codeFile = some argument := by
  have hoptions := name_ne_codeFile command hcommand
  induction arguments generalizing reading with
  | nil => cases hmem
  | cons first rest ih =>
    obtain ⟨between, hfirst, hrest⟩ := readArguments_cons hsub h
    obtain ⟨hbetween, -⟩ := readArgument_value hoptions hfirst hproper
    rcases List.mem_cons.mp hmem with rfl | hmem
    · obtain ⟨operand, hoperand, hunread, hsuspend⟩ :=
        readOperand_eq_ok (readArgument_helpWord hcommand hargument hfirst)
      obtain ⟨-, hvalue⟩ := Reading.suspend_value operand.name hsuspend
      rw [hunread, beq_self_eq_true, if_pos rfl, Option.none_or, hoperands operand hoperand]
        at hvalue
      refine ⟨List.ne_nil_of_mem hoperand, ?_⟩
      rcases readArguments_value hsub hoptions hrest hbetween with hkept | ⟨hnone, -⟩
      · exact hkept.trans hvalue
      · rw [hvalue] at hnone
        cases hnone
    · exact ih hrest hbetween hmem

theorem command?_eq_some (h : command? argument = some command) :
    command ∈ commands ∧ command.name = argument := by
  have hname := List.find?_some (p := fun command : Command => command.name == argument) h
  exact ⟨List.mem_of_find?_eq_some h, eq_of_beq hname⟩

/-- The arguments before a subcommand have no such word. -/
theorem readArguments_program {sub : Command} {rest : List String}
    (h : readArguments program reading arguments = .ok (after, some (sub, rest))) :
    ∃ front, arguments = front ++ sub.name :: rest ∧ sub ∈ commands ∧
      ∀ argument ∈ helpWords, argument ∉ front := by
  induction arguments generalizing reading with
  | nil => cases h
  | cons first later ih =>
    rw [readArguments] at h
    split at h
    · rename_i found hfound
      obtain ⟨rfl, rfl⟩ := Prod.mk.inj (Option.some.inj (Prod.mk.inj (Except.ok.inj h)).2)
      split at hfound
      · obtain ⟨hsub, rfl⟩ := command?_eq_some hfound
        exact ⟨[], rfl, hsub, fun _ _ => List.not_mem_nil⟩
      · cases hfound
    · obtain ⟨between, hfirst, hrest⟩ := bind_eq_ok.mp h
      obtain ⟨front, rfl, hsub, hfront⟩ := ih hrest
      refine ⟨first :: front, rfl, hsub, fun argument hargument hmem => ?_⟩
      rcases List.mem_cons.mp hmem with rfl | hmem
      · obtain ⟨other, hother, -⟩ :=
          readOperand_eq_ok (readArgument_helpWord List.mem_cons_self hargument hfirst)
        cases hother
      · exact hfront argument hargument hmem

/-! ### Calls -/

/-- A call comes from the arguments of a subcommand, which begin behind its name. -/
theorem parse_eq_ok (hparse : parse arguments = .ok call) :
    ∃ front command rest inner settled, arguments = front ++ command.name :: rest ∧
      command ∈ [runCommand, languagesCommand, fetchCommand] ∧
      (∀ argument ∈ helpWords, argument ∉ front) ∧
      (∃ sub, readArguments command {} rest = .ok (inner, sub)) ∧
      inner.settle command = .ok settled ∧ jobOf command settled.found = some call.job := by
  obtain ⟨⟨outer, sub⟩, houter, h⟩ := bind_eq_ok.mp hparse
  dsimp only at h
  split at h
  · obtain ⟨_, -, h⟩ := bind_eq_ok.mp h
    split at h
    · cases h
    · exact absurd h fail_ne_ok
  · rename_i command rest
    obtain ⟨front, rfl, hcommand, hfront⟩ := readArguments_program houter
    split at h
    · cases h
    · rename_i hhelp
      obtain ⟨⟨inner, sub⟩, hinner, h⟩ := bind_eq_ok.mp h
      obtain ⟨settled, hsettled, h⟩ := bind_eq_ok.mp h
      obtain ⟨-, -, h⟩ := bind_eq_ok.mp h
      obtain ⟨_, -, h⟩ := bind_eq_ok.mp h
      split at h
      · cases h
      · rename_i job hjob
        obtain rfl := Except.ok.inj h
        have hother : ∀ command ∈ commands, ¬(command.name == helpCommand.name) = true →
            command ∈ [runCommand, languagesCommand, fetchCommand] := by
          decide
        exact ⟨front, command, rest, inner, settled, rfl, hother command hcommand hhelp, hfront,
          ⟨sub, hinner⟩, hsettled, hjob⟩

theorem jobOf_runCommand {found : Found} {job : Job} (h : jobOf runCommand found = some job) :
    ∃ language codeFile, found.lookup .codeFile = some codeFile ∧
      job = .run ⟨language, codeFile, found.lookup .validation, (found.lookup .json).isSome⟩ := by
  obtain ⟨language, -, h⟩ := Option.bind_eq_some_iff.mp h
  obtain ⟨codeFile, hcode, h⟩ := Option.bind_eq_some_iff.mp h
  exact ⟨language, codeFile, hcode, (Option.some.inj h).symm⟩

theorem isProper_start : Reading.IsProper {} :=
  fun hexpects => Bool.noConfusion hexpects

/-- The file with the code is one of the arguments, and the word that asks for help among them, if
there is one. -/
theorem codeFile_of_readArguments {inner settled : Reading} {sub : Option (Command × List String)}
    (hread : readArguments runCommand {} arguments = .ok (inner, sub))
    (hsettle : inner.settle runCommand = .ok settled) {codeFile : String}
    (hcode : settled.found.lookup .codeFile = some codeFile) :
    codeFile ∈ arguments ∧ ∀ argument ∈ helpWords, argument ∈ arguments → argument = codeFile := by
  have hcommand : runCommand ∈ program :: commands := by decide
  rw [(Reading.settle_value hsettle).2] at hcode
  refine ⟨?_, fun argument hargument hmem => ?_⟩
  · rcases readArguments_value rfl (name_ne_codeFile runCommand hcommand) hread isProper_start with
      hkept | ⟨-, argument, hmem, hvalue⟩
    · rw [hcode] at hkept
      cases hkept
    · obtain rfl := Option.some.inj (hcode.symm.trans hvalue)
      exact hmem
  · obtain ⟨-, hvalue⟩ := readArguments_helpWord hcommand rfl (by decide) hread isProper_start
      hargument hmem
    exact Option.some.inj (hvalue.symm.trans hcode)

/-- A call has a word that asks for help only where the file with the code is named. -/
theorem helpWord_mem_iff (h : parse arguments = .ok call) (hargument : argument ∈ helpWords) :
    argument ∈ arguments ↔ ∃ options, call.job = .run options ∧ options.codeFile = argument := by
  obtain ⟨front, command, rest, inner, settled, rfl, hcommand, hfront, ⟨sub, hread⟩, hsettle,
    hjob⟩ := parse_eq_ok h
  have hcommands : ∀ command ∈ [runCommand, languagesCommand, fetchCommand],
      command ∈ program :: commands := by
    decide
  have hname : argument ≠ command.name :=
    (by decide : ∀ argument ∈ helpWords, ∀ command ∈ [runCommand, languagesCommand, fetchCommand],
      argument ≠ command.name) argument hargument command hcommand
  have hmem : argument ∈ front ++ command.name :: rest ↔ argument ∈ rest := by
    simp [hfront argument hargument, hname]
  rw [hmem]
  have hnone (hsub : command.isProgram = false) (hoperands : command.operands = [])
      (hother : ∀ options, jobOf command settled.found ≠ some (.run options)) :
      argument ∈ rest ↔ ∃ options, call.job = .run options ∧ options.codeFile = argument := by
    refine iff_of_false (fun hmem => ?_) ?_
    · obtain ⟨hsome, -⟩ := readArguments_helpWord (hcommands command hcommand) hsub
        (by simp [hoperands]) hread isProper_start hargument hmem
      exact hsome hoperands
    · rintro ⟨options, hoptions, -⟩
      exact hother options (hoptions ▸ hjob)
  simp only [List.mem_cons, List.not_mem_nil, or_false] at hcommand
  rcases hcommand with rfl | rfl | rfl
  · obtain ⟨language, codeFile, hcode, hrun⟩ := jobOf_runCommand hjob
    obtain ⟨hcodeFile, honly⟩ := codeFile_of_readArguments hread hsettle hcode
    rw [hrun]
    constructor
    · exact fun hmem => ⟨_, rfl, (honly argument hargument hmem).symm⟩
    · rintro ⟨options, hoptions, rfl⟩
      rw [← Job.run.inj hoptions]
      exact hcodeFile
  · exact hnone rfl rfl fun options hrun => (by cases hrun)
  · exact hnone rfl rfl fun options hrun => (by cases hrun)

/-- A call for a report that is meant for programs has two arguments at least. -/
theorem two_le_length (h : parse arguments = .ok call) (hjson : call.job.isForPrograms = true) :
    2 ≤ arguments.length := by
  obtain ⟨front, command, rest, inner, settled, rfl, hcommand, -, ⟨sub, hread⟩, hsettle, hjob⟩ :=
    parse_eq_ok h
  cases rest with
  | cons first rest =>
    simp only [List.length_append, List.length_cons]
    omega
  | nil =>
    -- Without any argument nothing was read that asks for such a report.
    obtain ⟨rfl, -⟩ := Prod.mk.inj (Except.ok.inj hread)
    obtain rfl := Except.ok.inj hsettle
    simp only [List.mem_cons, List.not_mem_nil, or_false] at hcommand
    rcases hcommand with rfl | rfl | rfl
    · cases hjob
    · rw [← Option.some.inj hjob] at hjson
      cases hjson
    · rw [← Option.some.inj hjob] at hjson
      cases hjson

/-- Before a report that is meant for programs, the banner is shown exactly if the program is
called by a word that asks for help, or the file with the code is. -/
theorem shouldShowBanner_iff (h : parse arguments = .ok call)
    (hjson : call.job.isForPrograms = true) (programName : String) :
    shouldShowBanner (programName :: arguments) = true ↔ programName ∈ helpWords ∨
      ∃ options, call.job = .run options ∧ options.codeFile ∈ helpWords := by
  have hlength := two_le_length h hjson
  have hone : (programName :: arguments).length ≠ 1 := by
    simp only [List.length_cons]
    omega
  have htwo : (programName :: arguments).length ≠ 2 := by
    simp only [List.length_cons]
    omega
  have hany : shouldShowBanner (programName :: arguments) = true ↔
      ∃ argument ∈ helpWords, argument ∈ programName :: arguments := by
    simp only [shouldShowBanner, beq_eq_false_iff_ne.mpr hone, beq_eq_false_iff_ne.mpr htwo,
      Bool.false_or, Bool.false_and, Bool.or_false, Bool.or_eq_true, List.any_eq_true, helpWords,
      beq_iff_eq]
    grind
  rw [hany]
  constructor
  · rintro ⟨argument, hargument, hmem⟩
    rcases List.mem_cons.mp hmem with rfl | hmem
    · exact .inl hargument
    · obtain ⟨options, hjob, rfl⟩ := (helpWord_mem_iff h hargument).mp hmem
      exact .inr ⟨options, hjob, hargument⟩
  · rintro (hname | ⟨options, hjob, hcode⟩)
    · exact ⟨programName, hname, List.mem_cons_self⟩
    · exact ⟨options.codeFile, hcode, List.mem_cons_of_mem _
        ((helpWord_mem_iff h hcode).mpr ⟨options, hjob, rfl⟩)⟩

end Sandbox.CommandLine
