import Sandbox.Guest.Syscall

/-!
# Linking guests

Before a guest runs, each of its imports has to be provided. Imports are looked at in order and the
first one that cannot be provided decides.

## Main definitions

* `ImportPolicy` : what to do about calls that are not served.
* `link` : the calls of a module that are replaced by stubs, or the defect.
* `mismatch?` : the first import that is linked but has another type.
* `linkedSignature?` : the type of a linked function.
-/

namespace Sandbox.Guest

/-- What to do about imports of the system interface that are not served. -/
inductive ImportPolicy where
  /-- Link a stub that stops the guest when it is called. -/
  | trapOnCall
  /-- Refuse the module. -/
  | strict
  deriving DecidableEq, Repr

/-- Checks imports in order. `stubs` holds the names of the calls that were replaced by stubs, the
last one first. -/
def linkFrom (policy : ImportPolicy) (stubs : List String) :
    List Import → Except Defect (List String)
  | [] => .ok stubs.reverse
  | ⟨origin, name, kind⟩ :: imports =>
    if origin != systemModule then .error (.link (.foreign origin name))
    else if (Syscall.ofName? name).isSome then linkFrom policy stubs imports
    else if policy = .strict then .error (.gap name)
    else
      match kind with
      | .function _ =>
        if stubs.contains name then .error (.link (.definedTwice name))
        else linkFrom policy (name :: stubs) imports
      | _ => .error (.link (.notAFunction name))

/-- Links imports: the names of the calls replaced by stubs, in order, or the first defect. -/
def link (policy : ImportPolicy) (imports : List Import) : Except Defect (List String) :=
  linkFrom policy [] imports

/-- The stubs that were linked, whether or not linking came to its end. -/
def stubbed (policy : ImportPolicy) : List Import → List String
  | [] => []
  | i :: imports =>
    let before := stubbed policy (i :: imports).dropLast
    match link policy (i :: imports) with
    | .ok stubs => stubs
    | .error _ => before
termination_by imports => imports.length
decreasing_by simp

/-- The name of the first served import that is asked for with another type. -/
def mismatch? (imports : List Import) : Option String :=
  (imports.find? fun i =>
    match Syscall.ofName? i.name with
    | some call => !decide (i.kind = .function call.signature)
    | none => false).map Import.name

/-- The type of the function that a linked guest finds under a name: a served call is always there,
any other only if it was imported. -/
def linkedSignature? (imports : List Import) (name : String) : Option Signature :=
  match Syscall.ofName? name with
  | some call => some call.signature
  | none =>
    imports.findSome? fun i =>
      match i.kind with
      | .function signature => if i.name == name then some signature else none
      | _ => none

/-- What is wrong with calling a function with that many arguments, if they are too few. Arguments
beyond those that the function has are dropped. -/
def Signature.shortage? (signature : Signature) (count : Nat) : Option String :=
  if count < signature.params.length then
    some ("expected " ++ toString signature.params.length ++ " arguments, got " ++ toString count)
  else none

end Sandbox.Guest
