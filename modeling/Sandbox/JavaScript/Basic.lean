import Sandbox.Backend.Basic
import Sandbox.JavaScript.Run

/-!
# JavaScript

A submission in JavaScript is run as the body of a function, with a console that collects lines.
Every run begins with a fresh machine, so that nothing outlives it.

## Main definitions

* `Ran` : the lines that a script shows and the message of what it throws.
* `evaluate` : the run of a script.
* `Ran.toResult` : the result of a submission.
* `backend` : the backend for JavaScript.
-/

namespace Sandbox.JavaScript

/-- What a script leaves behind. -/
structure Ran where
  /-- The lines shown, in order. -/
  lines : List String
  /-- What went wrong, if something did. -/
  thrown : Option String
  deriving DecidableEq, Repr

/-- How deeply the evaluation of a script may be nested. -/
def deepestCalls : Nat := 3000

/-- Calls a function at the outermost level. -/
def outerCall : Call :=
  Eval.invoke deepestCalls

/-- The message of an error, if it is there and has a text. -/
def messageOf? (v : Value) (key : String) : Eval (Option String) := do
  let part ← Eval.attempt do
    match ← Eval.named outerCall v key with
    | .undefined | .null => return none
    | m => return (← Eval.toUnits outerCall m).toText?
  match part with
  | .ok part => return part
  | .error _ => return none

/-- What is reported about a value that was thrown: for an error its message, or the text of the
whole error if the message is missing or empty; for any other value its text. -/
def describe (v : Value) : Eval String := do
  match ← Eval.kindOf v with
  | some .error =>
    let message ← messageOf? v "message"
    match message.filter (!·.isEmpty) with
    | some message => return message
    | none =>
      let stack ← messageOf? v "stack"
      return "Error:" ++ (message.map (" " ++ ·)).getD "" ++ (stack.map ("\n" ++ ·)).getD ""
  | _ => Eval.shown outerCall v

/-- Runs the statements of a script. -/
def runStatements (body : List Stmt) : Eval Unit := do
  let frame ← Eval.enterBlock ⟨[], .undefined⟩ true [] body
  let _ ← Eval.inOrder (Eval.stmt deepestCalls frame) body
  return ()

/-- What a text does as a script. -/
def evaluate (source : String) : Ran :=
  match script source with
  | .error fault => ⟨[], some fault.message⟩
  | .ok body =>
    let run : Eval (Option String) := do
      match ← Eval.attempt (runStatements body) with
      | .ok _ => return none
      | .error v => return some (← describe v)
    match run.run Machine.start with
    | (.ok thrown, m) => ⟨m.lines.toList, thrown⟩
    | (.error _, m) => ⟨m.lines.toList, some Eval.unprintable⟩

/-- The program as the body of a function that is called at once. -/
def wrapped (program : String) : String :=
  "(function() \x7b\n" ++ program ++ "\n\x7d)();"

/-- The line that reports success. -/
def successLine : String := "✅ JavaScript execution successful."

/-- The result of a run. -/
def Ran.toResult (ran : Ran) : RunResult :=
  match ran.thrown with
  | none => .passed (ran.lines ++ [successLine])
  | some message => (RunError.trap message).toResult ran.lines

/-- The part of the sandbox that speaks in this module. -/
def target : String := "polyrun_runtime::javascript"

/-- What there is to log about a run. -/
def Ran.log (ran : Ran) : Log :=
  ran.thrown.toList.map fun message => ⟨.debug, target, "JavaScript threw: " ++ message⟩

/-- The backend for JavaScript, which is always ready. -/
def backend {W : Type} [Logging W] : Backend W where
  language := "javascript"
  kind := .dynamic
  isLoaded _ := true
  load := return .ok ()
  run submission := do
    let ran := evaluate (wrapped submission.script)
    record ran.log
    return ran.toResult

end Sandbox.JavaScript
