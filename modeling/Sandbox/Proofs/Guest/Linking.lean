import Sandbox.Proofs.Guest.Assembly
import Sandbox.Proofs.Guest.Calls

/-!
# Linking and running under both policies

The first import that a policy does not accept decides what is wrong with a guest; if there is none,
the guest is linked. A guest that needs no stubs runs the same under both policies, and a guest that
is stopped by a stub has reached the call of an import that is not served, for which the strict
policy refuses it before anything runs.

## Main definitions

* `Import.Accepted` : what a policy asks of an import.
* `Import.fault` : what is wrong with an import that is not accepted.
* `unservedNames` : the names of the imports that are not served.

## Main results

* `link_of_accepted`, `link_of_not_accepted` : what linking answers.
* `ends_with_call` : a defect is the answer to the last call of a run.
* `link_and_start` : linking under each policy, and runs under both.
-/

namespace Sandbox.Guest

/-- What a policy asks of an import: that it is of the system interface and, if it is not served,
that the policy is the one with stubs and the import is a function. -/
def Import.Accepted (policy : ImportPolicy) (i : Import) : Prop :=
  i.origin = systemModule ∧
    (Syscall.ofName? i.name = none →
      policy = .trapOnCall ∧ ∃ signature, i.kind = .function signature)

/-- What is wrong with an import that a policy does not accept. -/
def Import.fault (policy : ImportPolicy) (i : Import) : Defect :=
  if i.origin = systemModule then
    match policy with
    | .strict => .gap i.name
    | .trapOnCall => .link (.notAFunction i.name)
  else .link (.foreign i.origin i.name)

/-- The names of the imports that are not served. -/
def unservedNames (imports : List Import) : List String :=
  (imports.map Import.name).filter fun name => (Syscall.ofName? name).isNone

/-! ### Linking -/

section Link

variable {policy : ImportPolicy} {i : Import} {imports : List Import}

theorem linkFrom_cons_of_not_accepted (h : ¬ i.Accepted policy) (stubs : List String) :
    linkFrom policy stubs (i :: imports) = .error (i.fault policy) := by
  obtain ⟨origin, name, kind⟩ := i
  by_cases horigin : origin = systemModule
  · subst horigin
    cases hserved : Syscall.ofName? name with
    | some call => exact absurd ⟨rfl, fun hnone => by rw [hserved] at hnone; cases hnone⟩ h
    | none =>
      cases policy with
      | strict => simp [linkFrom, Import.fault, hserved]
      | trapOnCall =>
        cases kind with
        | function signature => exact absurd ⟨rfl, fun _ => ⟨rfl, signature, rfl⟩⟩ h
        | global | memory | table => simp [linkFrom, Import.fault, hserved]
  · simp [linkFrom, Import.fault, horigin]

theorem linkFrom_cons_of_served (horigin : i.origin = systemModule)
    (hserved : Syscall.ofName? i.name ≠ none) (stubs : List String) :
    linkFrom policy stubs (i :: imports) = linkFrom policy stubs imports := by
  obtain ⟨call, hcall⟩ := Option.ne_none_iff_exists'.mp hserved
  simp [linkFrom, horigin, hcall]

theorem linkFrom_cons_of_stub (h : i.Accepted policy) (hunserved : Syscall.ofName? i.name = none)
    {stubs : List String} (hfresh : i.name ∉ stubs) :
    linkFrom policy stubs (i :: imports) = linkFrom policy (i.name :: stubs) imports := by
  obtain ⟨rfl, signature, hkind⟩ := h.2 hunserved
  simp [linkFrom, h.1, hunserved, hkind, hfresh]

theorem unservedNames_cons (i : Import) (imports : List Import) :
    unservedNames (i :: imports) =
      if Syscall.ofName? i.name = none then i.name :: unservedNames imports
      else unservedNames imports := by
  by_cases h : Syscall.ofName? i.name = none
  · simp [unservedNames, h]
  · obtain ⟨call, hcall⟩ := Option.ne_none_iff_exists'.mp h
    simp [unservedNames, hcall]

theorem mem_unservedNames (hi : i ∈ imports) (h : Syscall.ofName? i.name = none) :
    i.name ∈ unservedNames imports := by
  rw [unservedNames, List.mem_filter]
  exact ⟨List.mem_map_of_mem hi, by rw [h]; rfl⟩

/-- Imports that are accepted are passed over, if no stub is linked twice. -/
theorem linkFrom_append_of_accepted {before : List Import} (h : ∀ j ∈ before, j.Accepted policy)
    (hnodup : (unservedNames before).Nodup) {stubs : List String}
    (hfresh : ∀ name ∈ unservedNames before, name ∉ stubs) (after : List Import) :
    linkFrom policy stubs (before ++ after) =
      linkFrom policy ((unservedNames before).reverse ++ stubs) after := by
  induction before generalizing stubs with
  | nil => rfl
  | cons i before ih =>
    obtain ⟨hi, hbefore⟩ := List.forall_mem_cons.mp h
    rw [unservedNames_cons] at hnodup hfresh ⊢
    rw [List.cons_append]
    by_cases hserved : Syscall.ofName? i.name = none
    · rw [if_pos hserved] at hnodup hfresh ⊢
      obtain ⟨hname, hnodup⟩ := List.nodup_cons.mp hnodup
      obtain ⟨hstub, hfresh⟩ := List.forall_mem_cons.mp hfresh
      rw [linkFrom_cons_of_stub hi hserved hstub, List.reverse_cons, List.append_assoc,
        List.singleton_append]
      refine ih hbefore hnodup fun name hmem hin => ?_
      rcases List.mem_cons.mp hin with rfl | hin
      · exact hname hmem
      · exact hfresh name hmem hin
    · rw [if_neg hserved] at hnodup hfresh ⊢
      rw [linkFrom_cons_of_served hi.1 hserved]
      exact ih hbefore hnodup hfresh

/-- Imports that are all accepted are linked with one stub for each that is not served, if none of
these has the name of another. -/
theorem link_eq_unservedNames (hnodup : (unservedNames imports).Nodup)
    (h : ∀ j ∈ imports, j.Accepted policy) : link policy imports = .ok (unservedNames imports) := by
  have hlinked := linkFrom_append_of_accepted h hnodup (fun _ _ => List.not_mem_nil) []
  rw [List.append_nil, List.append_nil] at hlinked
  rw [link, hlinked, linkFrom, List.reverse_reverse]

/-- Imports that are all accepted are linked, if none that is not served has the name of another. -/
theorem link_of_accepted (hnodup : (unservedNames imports).Nodup)
    (h : ∀ j ∈ imports, j.Accepted policy) : ∃ stubs, link policy imports = .ok stubs :=
  ⟨_, link_eq_unservedNames hnodup h⟩

/-- The first import that is not accepted decides what is wrong. -/
theorem link_of_not_accepted {before after : List Import}
    (hnodup : (unservedNames before).Nodup) (h : ∀ j ∈ before, j.Accepted policy)
    (hi : ¬ i.Accepted policy) :
    link policy (before ++ i :: after) = .error (i.fault policy) := by
  rw [link, linkFrom_append_of_accepted h hnodup (fun _ _ => List.not_mem_nil),
    linkFrom_cons_of_not_accepted hi]

theorem accepted_of_linkFrom {stubs linked : List String}
    (h : linkFrom policy stubs imports = .ok linked) : ∀ j ∈ imports, j.Accepted policy := by
  induction imports generalizing stubs with
  | nil => exact fun _ hj => (List.not_mem_nil hj).elim
  | cons i imports ih =>
    by_cases hi : i.Accepted policy
    · refine List.forall_mem_cons.mpr ⟨hi, ?_⟩
      by_cases hserved : Syscall.ofName? i.name = none
      · by_cases hstub : i.name ∈ stubs
        · obtain ⟨rfl, signature, hkind⟩ := hi.2 hserved
          simp [linkFrom, hi.1, hserved, hkind, hstub] at h
        · rw [linkFrom_cons_of_stub hi hserved hstub] at h
          exact ih h
      · rw [linkFrom_cons_of_served hi.1 hserved] at h
        exact ih h
    · rw [linkFrom_cons_of_not_accepted hi] at h
      cases h

/-- Under the policy with stubs, no import is a gap. -/
theorem linkFrom_trapOnCall_ne_gap (stubs : List String) (name : String) :
    linkFrom .trapOnCall stubs imports ≠ .error (.gap name) := by
  induction imports generalizing stubs with
  | nil => nofun
  | cons i imports ih =>
    obtain ⟨origin, function, kind⟩ := i
    simp only [linkFrom, reduceCtorEq, if_false]
    split
    · nofun
    · split
      · exact ih stubs
      · cases kind with
        | function signature =>
          dsimp only
          split
          · nofun
          · exact ih _
        | global | memory | table => nofun

theorem served_of_accepted_strict (h : i.Accepted .strict) : Syscall.ofName? i.name ≠ none :=
  fun hnone => by cases (h.2 hnone).1

theorem unservedNames_of_strict (h : ∀ j ∈ imports, j.Accepted .strict) :
    unservedNames imports = [] := by
  induction imports with
  | nil => rfl
  | cons i imports ih =>
    obtain ⟨hi, himports⟩ := List.forall_mem_cons.mp h
    rw [unservedNames_cons, if_neg (served_of_accepted_strict hi), ih himports]

end Link

/-! ### Defects of a run -/

section Defects

variable {σ : Type} {host : Host σ} {instr : Instr} {code : List Instr} {s t : Instance σ}
  {stop : Stop} {cause : Defect}

theorem value_eq_error {type : ValueType} {operand : Operand}
    (h : s.value type operand = .error stop) : stop = .trap .outOfBounds := by
  cases operand with
  | const n => cases h
  | load address less =>
    simp only [Instance.value] at h
    split at h
    · cases h
    · exact (Except.error.inj h).symm

theorem values_eq_error {operands : List (ValueType × Operand)}
    (h : s.values operands = .error stop) : stop = .trap .outOfBounds := by
  induction operands with
  | nil => cases h
  | cons operand operands ih =>
    simp only [Instance.values, Bind.bind, Except.bind] at h
    cases hfirst : s.value operand.1 operand.2 with
    | error stop' =>
      rw [hfirst] at h
      obtain rfl := Except.error.inj h
      exact value_eq_error hfirst
    | ok first =>
      rw [hfirst] at h
      cases hrest : s.values operands with
      | error stop' =>
        rw [hrest] at h
        obtain rfl := Except.error.inj h
        exact ih hrest
      | ok rest =>
        rw [hrest] at h
        cases h

theorem store_eq_error {address : Nat} {w : UInt32} (h : s.store address w = .error stop) :
    stop = .trap .outOfBounds := by
  simp only [Instance.store] at h
  split at h
  · cases h
  · exact (Except.error.inj h).symm

theorem endStep_ne_defect {stored : Except Stop (Instance σ)}
    (h : ∀ stop, stored = .error stop → stop = .trap .outOfBounds) :
    endStep s stored ≠ (.stopped (.defect cause), t) := by
  intro hend
  cases stored with
  | ok next => cases hend
  | error stop =>
    obtain rfl := h stop rfl
    cases hend

/-- An instruction that meets a defect makes a call whose answer is the defect. -/
theorem run_eq_defect (h : instr.run host s = (.stopped (.defect cause), t)) :
    ∃ c, instr.callMade? s = some c ∧
      host.call c.function c.args c.guest = (.error (.defect cause), t) := by
  cases instr with
  | call function args resultAt =>
    cases hargs : s.values args with
    | error stop =>
      obtain rfl := values_eq_error hargs
      simp [Instr.run, hargs] at h
    | ok values =>
      refine ⟨⟨function, values, s⟩, by simp [Instr.callMade?, hargs], ?_⟩
      simp only [Instr.run, hargs] at h
      dsimp only
      generalize host.call function values s = ran at h ⊢
      obtain ⟨stop | result, u⟩ := ran
      · simpa using h
      · cases resultAt with
        | none => cases h
        | some address => exact absurd h (endStep_ne_defect fun _ => store_eq_error)
  | store address operand =>
    refine absurd h (endStep_ne_defect fun stop hstop => ?_)
    cases hvalue : s.value .i32 operand with
    | error stop' =>
      rw [hvalue] at hstop
      obtain rfl := Except.error.inj hstop
      exact value_eq_error hvalue
    | ok w =>
      rw [hvalue] at hstop
      exact store_eq_error hstop
  | divideOneBy address =>
    simp only [Instr.run] at h
    cases hvalue : s.value .i32 (.load address 0) with
    | error stop =>
      obtain rfl := value_eq_error hvalue
      simp [hvalue] at h
    | ok w =>
      rw [hvalue] at h
      by_cases hw : w = 0 <;> simp [hw] at h
  | trap | grow | leave => cases h

/-- A defect is the answer to the last call of a run of instructions. -/
theorem ends_with_call (h : execute host code s = (.stopped (.defect cause), t)) :
    ∃ before c, callsMade host code s = before ++ [c] ∧
      host.call c.function c.args c.guest = (.error (.defect cause), t) := by
  induction code generalizing s with
  | nil => cases h
  | cons instr code ih =>
    simp only [execute, callsMade] at h ⊢
    generalize hran : instr.run host s = ran at h ⊢
    rcases ran with ⟨_ | _ | stop, u⟩
    · obtain ⟨before, c, hcalls, hcall⟩ := ih h
      refine ⟨(instr.callMade? s).toList ++ before, c, ?_, hcall⟩
      simp only [hcalls, List.append_assoc]
    · cases h
    · obtain ⟨c, hmade, hcall⟩ := run_eq_defect (hran.trans h)
      exact ⟨[], c, by simp [hmade], hcall⟩

theorem mem_code_of_callsMade {c : Called σ} (h : c ∈ callsMade host code s) :
    ∃ args resultAt, Instr.call c.function args resultAt ∈ code := by
  induction code generalizing s with
  | nil => cases h
  | cons instr code ih =>
    simp only [callsMade] at h
    rcases List.mem_append.mp h with hmade | hrest
    · cases instr with
      | call function args resultAt =>
        cases hargs : s.values args with
        | error stop => simp [Instr.callMade?, hargs] at hmade
        | ok values =>
          obtain rfl : c = ⟨function, values, s⟩ := by simpa [Instr.callMade?, hargs] using hmade
          exact ⟨args, resultAt, List.mem_cons_self⟩
      | store | divideOneBy | trap | grow | leave => cases hmade
    · generalize instr.run host s = ran at hrest
      rcases ran with ⟨_ | _ | stop, u⟩
      · obtain ⟨args, resultAt, hmem⟩ := ih hrest
        exact ⟨args, resultAt, List.mem_cons_of_mem _ hmem⟩
      · cases hrest
      · cases hrest

end Defects

theorem eq_defect_of_ofStop {recorded : Option Int} {stop : Stop} {cause : Defect}
    (h : Status.ofStop recorded stop = .defect cause) : stop = .defect cause := by
  cases stop with
  | exit code | trap cause' => cases h
  | defect cause' =>
    obtain rfl := Status.defect.inj h
    rfl

/-- A defect is the answer to the last call of the run of a module. -/
theorem ends_with_call_runLinked {m : Module} {cause : Defect}
    (h : (runLinked m).1 = .defect cause) :
    ∃ before c t, callsOfLinked m = before ++ [c] ∧
      Console.host.call c.function c.args c.guest = (.error (.defect cause), t) := by
  rw [runLinked_eq] at h
  rw [callsOfLinked_eq]
  cases hentered : m.entered with
  | error ended =>
    rw [hentered] at h
    rcases entered_cases m with ⟨message, -, htrapped⟩ | ⟨memory, hcalls, hstarted⟩
    · obtain rfl := Except.error.inj (hentered.symm.trans htrapped)
      cases h
    · rw [hentered] at hstarted
      generalize hran : execute Console.host (m.start.getD []) ⟨memory, .start⟩ = ran at hstarted
      rcases ran with ⟨_ | _ | stop, t⟩
      · cases hstarted
      · cases hstarted
      · obtain rfl := Except.error.inj hstarted
        obtain rfl := eq_defect_of_ofStop h
        obtain ⟨before, c, hmade, hcall⟩ := ends_with_call hran
        exact ⟨before, c, t, by rw [hcalls, hmade, List.append_nil], hcall⟩
  | ok s =>
    rw [hentered] at h
    cases hentry : m.entryPoint? with
    | none =>
      rw [hentry] at h
      cases h
    | some body =>
      simp only [hentry] at h
      generalize hran : execute Console.host body s = ran at h
      rcases ran with ⟨_ | _ | stop, t⟩
      · cases h
      · cases h
      · obtain rfl := eq_defect_of_ofStop h
        obtain ⟨before, c, hmade, hcall⟩ := ends_with_call hran
        refine ⟨m.callsBefore ++ before, c, t, ?_, hcall⟩
        simp only [Option.getD_some, hmade, List.append_assoc]

theorem mem_code_of_callsOfLinked {m : Module} {c : Called Console} (h : c ∈ callsOfLinked m) :
    ∃ args resultAt,
      Instr.call c.function args resultAt ∈ m.start.getD [] ++ m.entryPoint?.getD [] := by
  rw [callsOfLinked_eq] at h
  rcases List.mem_append.mp h with hstart | hmain
  · rcases entered_cases m with ⟨message, hcalls, -⟩ | ⟨memory, hcalls, -⟩
    · rw [hcalls] at hstart
      cases hstart
    · obtain ⟨args, resultAt, hmem⟩ := mem_code_of_callsMade (hcalls ▸ hstart)
      exact ⟨args, resultAt, List.mem_append_left _ hmem⟩
  · cases hentered : m.entered with
    | error ended =>
      rw [hentered] at hmain
      cases hmain
    | ok s =>
      rw [hentered] at hmain
      obtain ⟨args, resultAt, hmem⟩ := mem_code_of_callsMade hmain
      exact ⟨args, resultAt, List.mem_append_right _ hmem⟩

/-- The answer to a call is a gap exactly for a call that is not served. -/
theorem call_eq_gap {name function : String} {args : Args} {s t : Instance Console}
    (h : Console.host.call function args s = (.error (.defect (.gap name)), t)) :
    function = name ∧ Syscall.ofName? name = none := by
  cases hserved : Syscall.ofName? function with
  | none =>
    simp only [Console.host, hserved, Prod.mk.injEq, Except.error.injEq, Stop.defect.injEq,
      Defect.gap.injEq] at h
    obtain ⟨rfl, -⟩ := h
    exact ⟨rfl, hserved⟩
  | some call =>
    simp only [Console.host, hserved, Syscall.invoke] at h
    split at h
    · cases h
    · split at h <;> cases h

/-! ### Both policies -/

theorem chunks_of_link_error {policy : ImportPolicy} {m : Module} {cause : Defect}
    (h : link policy m.imports = .error cause) :
    (start policy m).status = .defect cause ∧ (start policy m).chunks = [] := by
  rw [start_of_link_error h]
  exact ⟨rfl, rfl⟩

/-- What the strict policy links, the other one links too, and the runs are the same. -/
theorem start_eq_of_link_strict {m : Module} {stubs : List String}
    (h : link .strict m.imports = .ok stubs) :
    (start .strict m).status = (start .trapOnCall m).status ∧
      (start .strict m).chunks = (start .trapOnCall m).chunks := by
  have hstrict := accepted_of_linkFrom h
  have haccepted : ∀ i ∈ m.imports, i.Accepted .trapOnCall := fun i hi =>
    ⟨(hstrict i hi).1, fun hnone => absurd hnone (served_of_accepted_strict (hstrict i hi))⟩
  have hnodup : (unservedNames m.imports).Nodup := by
    rw [unservedNames_of_strict hstrict]
    exact List.nodup_nil
  obtain ⟨stubs', h'⟩ := link_of_accepted hnodup haccepted
  rw [start_of_link_ok h, start_of_link_ok h']
  exact ⟨rfl, rfl⟩

/-- The strict policy refuses a module of the system interface with an import that is not served. -/
theorem link_strict_eq_gap {imports : List Import}
    (horigin : ∀ i ∈ imports, i.origin = systemModule)
    (h : ∃ i ∈ imports, Syscall.ofName? i.name = none) :
    ∃ name ∈ unservedNames imports, link .strict imports = .error (.gap name) := by
  induction imports with
  | nil =>
    obtain ⟨i, hi, -⟩ := h
    cases hi
  | cons i imports ih =>
    obtain ⟨hi, himports⟩ := List.forall_mem_cons.mp horigin
    rw [unservedNames_cons]
    by_cases hserved : Syscall.ofName? i.name = none
    · have hnot : ¬ i.Accepted .strict := fun haccepted =>
        served_of_accepted_strict haccepted hserved
      refine ⟨i.name, ?_, ?_⟩
      · rw [if_pos hserved]
        exact List.mem_cons_self
      · rw [link, linkFrom_cons_of_not_accepted hnot, Import.fault, if_pos hi]
    · obtain ⟨j, hj, hnone⟩ := h
      have hj' : j ∈ imports := (List.mem_cons.mp hj).resolve_left fun heq =>
        hserved (heq ▸ hnone)
      rw [if_neg hserved, link, linkFrom_cons_of_served hi hserved]
      exact ih himports ⟨j, hj', hnone⟩

/-- Linking accepts exactly the imports of the system interface that are served or may be replaced
by stubs, which only functions can be, and only under the policy with stubs. Otherwise the first one
that is not accepted decides what is wrong, and nothing runs. What the strict policy links runs the
same under both policies. And if a guest under the policy with stubs is stopped by a gap, its last
call is one of an import that is not served, everything written before that call is kept, and the
strict policy refuses the guest with a gap before anything runs. -/
theorem link_and_start :
    (∀ (policy : ImportPolicy) (imports : List Import), (unservedNames imports).Nodup →
      ((∃ stubs, link policy imports = .ok stubs) ↔ ∀ i ∈ imports, i.Accepted policy) ∧
      ∀ before i after, imports = before ++ i :: after → (∀ j ∈ before, j.Accepted policy) →
        ¬ i.Accepted policy →
          link policy imports = .error (i.fault policy) ∧
            ∀ m : Module, m.imports = imports →
              (start policy m).status = .defect (i.fault policy) ∧ (start policy m).chunks = []) ∧
    (∀ m : Module, (∃ stubs, link .strict m.imports = .ok stubs) →
      (start .strict m).status = (start .trapOnCall m).status ∧
        (start .strict m).chunks = (start .trapOnCall m).chunks) ∧
    ∀ (m : Module) (name : String), m.IsClosed →
      (start .trapOnCall m).status = .defect (.gap name) →
        (∃ before c, callsOf .trapOnCall m = before ++ [c] ∧ c.function = name ∧
          (start .trapOnCall m).chunks = before.flatMap Called.forwarded) ∧
        name ∈ unservedNames m.imports ∧
        ∃ refused ∈ unservedNames m.imports,
          (start .strict m).status = .defect (.gap refused) ∧ (start .strict m).chunks = [] := by
  refine ⟨fun policy imports hnodup => ⟨⟨?_, link_of_accepted hnodup⟩, ?_⟩,
    fun m ⟨stubs, h⟩ => start_eq_of_link_strict h, fun m name hclosed hgap => ?_⟩
  · rintro ⟨stubs, h⟩
    exact accepted_of_linkFrom h
  · rintro before i after rfl hbefore hi
    have hprefix : (unservedNames before).Nodup := by
      rw [unservedNames, List.map_append, List.filter_append] at hnodup
      exact (List.nodup_append.mp hnodup).1
    have hlink : link policy (before ++ i :: after) = .error (i.fault policy) :=
      link_of_not_accepted hprefix hbefore hi
    refine ⟨hlink, fun m hm => ?_⟩
    rw [← hm] at hlink
    exact chunks_of_link_error hlink
  · cases hlink : link .trapOnCall m.imports with
    | error cause =>
      rw [start_of_link_error hlink] at hgap
      obtain rfl := Status.defect.inj hgap
      exact absurd hlink (linkFrom_trapOnCall_ne_gap [] name)
    | ok stubs =>
      have haccepted := accepted_of_linkFrom hlink
      rw [start_of_link_ok hlink] at hgap
      obtain ⟨before, c, t, hcalls, hcall⟩ := ends_with_call_runLinked hgap
      obtain ⟨rfl, hunserved⟩ := call_eq_gap hcall
      have hmem : c ∈ callsOfLinked m := by
        rw [hcalls]
        exact List.mem_append_right _ (List.mem_singleton_self c)
      obtain ⟨args, resultAt, hcode⟩ := mem_code_of_callsOfLinked hmem
      obtain ⟨i, hi, hname⟩ := hclosed _ _ _ hcode
      obtain ⟨refused, hrefused, hstrict⟩ := link_strict_eq_gap
        (fun j hj => (haccepted j hj).1) ⟨i, hi, hname ▸ hunserved⟩
      refine ⟨⟨before, c, ?_, rfl, ?_⟩, ?_, refused, hrefused, chunks_of_link_error hstrict⟩
      · rw [callsOf_of_link_ok hlink, hcalls]
      · -- The call that ends the run is not served, so it is no write and forwards nothing.
        have hlast : c.forwarded = [] := if_neg fun hwrite => by
          rw [hwrite.1] at hunserved
          exact absurd hunserved (by decide)
        rw [chunks_start, callsOf_of_link_ok hlink, hcalls, List.flatMap_append,
          List.flatMap_singleton, hlast, List.append_nil]
      · rw [← hname]
        exact mem_unservedNames hi (hname ▸ hunserved)

/-- A guest without memory that calls an import that is served and then one that is not. -/
def gappedGuest : Module where
  imports := [⟨systemModule, "fd_close", .function Syscall.fdClose.signature⟩,
    ⟨systemModule, "random_get", .function ⟨[.i32, .i32], [.i32]⟩⟩]
  memory := none
  data := []
  start := none
  entry := some (entryName, .function ⟨[], []⟩
    [.call "fd_close" [(.i32, .const 1)] none,
      .call "random_get" [(.i32, .const 0), (.i32, .const 4)] none])

/-- Of a global variable and an import of another module, the one that comes first decides, and a
guest is stopped by its gap under one policy and refused under the other one. -/
theorem link_and_start_gappedGuest :
    link .trapOnCall [⟨systemModule, "fd_close", .function Syscall.fdClose.signature⟩,
        ⟨systemModule, "random_get", .global⟩, ⟨"env", "f", .global⟩] =
      .error (.link (.notAFunction "random_get")) ∧
    (start .trapOnCall gappedGuest).status = .defect (.gap "random_get") ∧
      ∃ refused ∈ unservedNames gappedGuest.imports,
        (start .strict gappedGuest).status = .defect (.gap refused) := by
  obtain ⟨hlink, -, hstopped⟩ := link_and_start
  have hclosed : gappedGuest.IsClosed := by
    intro function args resultAt hmem
    have hcode : gappedGuest.start.getD [] ++ gappedGuest.entryPoint?.getD [] =
        [.call "fd_close" [(.i32, .const 1)] none,
          .call "random_get" [(.i32, .const 0), (.i32, .const 4)] none] := rfl
    rw [hcode] at hmem
    simp only [List.mem_cons, List.not_mem_nil, or_false, Instr.call.injEq] at hmem
    rcases hmem with ⟨rfl, -⟩ | ⟨rfl, -⟩ <;> decide
  have hgap : (start .trapOnCall gappedGuest).status = .defect (.gap "random_get") := rfl
  obtain ⟨-, -, refused, hrefused, hstrict, -⟩ := hstopped gappedGuest "random_get" hclosed hgap
  refine ⟨?_, hgap, refused, hrefused, hstrict⟩
  refine ((hlink .trapOnCall _ (by decide)).2
    [⟨systemModule, "fd_close", .function Syscall.fdClose.signature⟩] _ _ rfl ?_ ?_).1
  · rintro j hj
    obtain rfl := List.mem_singleton.mp hj
    exact ⟨rfl, fun hnone => absurd hnone (by decide)⟩
  · intro haccepted
    obtain ⟨-, signature, hkind⟩ := haccepted.2 rfl
    cases hkind

end Sandbox.Guest
