import Sandbox.Guest.Assembly

/-!
# Assembled guests are closed

A guest that is assembled from steps calls only functions that it imports: an import that a call
needs is added together with the call, and no import is taken away later.

## Main definitions

* `CallsOnly` : code that calls only functions with the names of imports.
* `Module.IsClosed` : the code of a module calls only what the module imports.

## Main results

* `Assembly.closes_instructions` : what the steps are turned into.
* `isClosed_assemble` : assembled modules are closed.
-/

namespace Sandbox.Guest

/-- Code that calls only functions with the names of imports. -/
def CallsOnly (imports : List Import) (code : List Instr) : Prop :=
  ∀ function args resultAt, Instr.call function args resultAt ∈ code →
    ∃ i ∈ imports, i.name = function

/-- The code of a module calls only what the module imports. -/
def Module.IsClosed (m : Module) : Prop :=
  CallsOnly m.imports (m.start.getD [] ++ m.entryPoint?.getD [])

section CallsOnly

variable {imports more : List Import} {p q : List Instr}

theorem CallsOnly.append (hp : CallsOnly imports p) (hq : CallsOnly imports q) :
    CallsOnly imports (p ++ q) := fun function args resultAt h =>
  (List.mem_append.mp h).elim (hp function args resultAt) (hq function args resultAt)

theorem CallsOnly.mono (hp : CallsOnly imports p) (h : imports ⊆ more) : CallsOnly more p :=
  fun function args resultAt hmem =>
    let ⟨i, hi, hname⟩ := hp function args resultAt hmem
    ⟨i, h hi, hname⟩

theorem callsOnly_of_no_call (h : ∀ function args resultAt, Instr.call function args resultAt ∉ p) :
    CallsOnly imports p := fun function args resultAt hmem =>
  absurd hmem (h function args resultAt)

end CallsOnly

/-! ### Pieces -/

namespace Assembly

/-- A piece of assembling keeps the imports, and its code calls only imports. -/
def Closes (piece : StateM State (List Instr)) : Prop :=
  ∀ state, state.imports ⊆ (piece.run state).2.imports ∧
    CallsOnly (piece.run state).2.imports (piece.run state).1

theorem closes_pure {code : List Instr}
    (h : ∀ function args resultAt, Instr.call function args resultAt ∉ code) :
    Closes (pure code) := fun _ => ⟨fun _ hi => hi, callsOnly_of_no_call h⟩

/-- The function whose parameters are asked for is imported from then on. -/
theorem imports_paramsOf (name : String) (state : State) :
    state.imports ⊆ ((paramsOf name).run state).2.imports ∧
      ∃ i ∈ ((paramsOf name).run state).2.imports, i.name = name := by
  cases hfound : state.imports.find? fun i => i.name == name with
  | none =>
    have hstate : ((paramsOf name).run state).2 = { state with imports := state.imports ++
        [⟨systemModule, name, .function ((knownSignature? name).getD ⟨[], []⟩)⟩] } := by
      simp only [paramsOf, StateT.run_bind, StateT.run_get, pure_bind, hfound]
      rfl
    rw [hstate]
    exact ⟨List.subset_append_left _ _,
      _, List.mem_append_right _ (List.mem_singleton_self _), rfl⟩
  | some i =>
    have hstate : ((paramsOf name).run state).2 = state := by
      simp only [paramsOf, StateT.run_bind, StateT.run_get, pure_bind, hfound]
      obtain ⟨origin, function, kind⟩ := i
      cases kind <;> rfl
    rw [hstate]
    exact ⟨fun _ hi => hi, i, List.mem_of_find?_eq_some hfound,
      by simpa using List.find?_some hfound⟩

theorem closes_callOf (name : String) (args : List Operand) (resultAt : Option Nat) :
    Closes (callOf name args resultAt) := fun state => by
  obtain ⟨hkept, himported⟩ := imports_paramsOf name state
  have hcode : ((callOf name args resultAt).run state).1 =
      [.call name (((paramsOf name).run state).1.zip args) resultAt] := rfl
  refine ⟨hkept, fun function args' resultAt' hmem => ?_⟩
  rw [hcode, List.mem_singleton, Instr.call.injEq] at hmem
  obtain ⟨rfl, -⟩ := hmem
  exact himported

theorem closes_instructions (step : Step) : Closes (instructions step) := by
  cases step with
  | store | grow | leave => exact closes_pure (by simp)
  | call function args resultAt => exact closes_callOf function args resultAt
  | exit code => exact closes_callOf "proc_exit" [code] none
  | print fd text =>
    intro state
    let placed : State := { state with
      next := state.next + text.length, data := state.data ++ [(state.next, text)] }
    obtain ⟨hkept, hcalls⟩ := closes_callOf "fd_write"
      [.const fd, .const recordAt, .const 1, .const (recordAt + 8)] none placed
    exact ⟨hkept, CallsOnly.append (p := [.store _ _, .store _ _])
      (callsOnly_of_no_call (by simp)) hcalls⟩
  | echoProgram fd =>
    intro state
    obtain ⟨hsizes, hcode⟩ := closes_callOf "args_sizes_get" [.const 32, .const 36] none state
    let sized := ((callOf "args_sizes_get" [.const 32, .const 36] none).run state).2
    obtain ⟨hargs, hcode'⟩ := closes_callOf "args_get"
      [.const 40, .const (firstText + sized.next)] none sized
    let given := ((callOf "args_get" [.const 40, .const (firstText + sized.next)] none).run sized).2
    obtain ⟨hwrite, hcode''⟩ := closes_callOf "fd_write"
      [.const fd, .const recordAt, .const 1, .const (recordAt + 8)] none given
    exact ⟨fun _ hi => hwrite (hargs (hsizes hi)),
      ((((hcode.mono hargs).append hcode').mono hwrite).append
        (callsOnly_of_no_call (by simp))).append hcode''⟩
  | trap cause => cases cause <;> exact closes_pure (by simp)

theorem closes_body (steps : List Step) : Closes (body steps) := by
  induction steps with
  | nil => exact closes_pure (by simp)
  | cons step steps ih =>
    intro state
    obtain ⟨hkept, hcode⟩ := closes_instructions step state
    obtain ⟨hkept', hcode'⟩ := ih ((instructions step).run state).2
    exact ⟨fun _ hi => hkept' (hkept hi), (hcode.mono hkept').append hcode'⟩

end Assembly

/-! ### Modules -/

/-- An entry point under the name of an export has the body that was exported, or none. -/
theorem callsOnly_entryPoint? {m : Module} {shape : EntryShape} {name : String} {body : List Instr}
    (hentry : m.entry = (shape.toExport? body).map fun entry => (name, entry))
    (h : CallsOnly m.imports body) : CallsOnly m.imports (m.entryPoint?.getD []) := by
  have hnone : CallsOnly m.imports [] := callsOnly_of_no_call (by simp)
  rw [Module.entryPoint?, hentry]
  cases shape with
  | plain =>
    simp only [EntryShape.toExport?, Option.map_some]
    split
    · exact h
    · exact hnone
  | param | result | global | absent => exact hnone

/-- Assembled modules call only what they import. -/
theorem isClosed_assemble (source : Source) : source.assemble.IsClosed := by
  obtain ⟨imports, pages, memoryExport, data, start, entry, entryExport, shape⟩ := source
  cases start with
  | none =>
    obtain ⟨-, hcode⟩ := Assembly.closes_body entry ⟨imports, Assembly.firstText, []⟩
    exact callsOnly_entryPoint? rfl hcode
  | some steps =>
    obtain ⟨-, hstart⟩ := Assembly.closes_body steps ⟨imports, Assembly.firstText, []⟩
    obtain ⟨hkept, hcode⟩ := Assembly.closes_body entry
      ((Assembly.body steps).run ⟨imports, Assembly.firstText, []⟩).2
    exact (hstart.mono hkept).append
      (callsOnly_entryPoint? rfl hcode)
end Sandbox.Guest
