import Sandbox.Submission.EntryPoint

/-!
# Submissions

A submission is a learner's code with an optional validation script, which checks what the code
defines. Both become one program, which is made anew for every run.

## Main definitions

* `Submission.script` : the program for a language that is run from top to bottom.
* `Submission.translationUnit` : the program for a compiled language, where the validation script
  brings its own entry point and the one of the learner is renamed out of the way.
-/

namespace Sandbox

/-- A learner's code and the script that validates it. -/
structure Submission where
  /-- The learner's code. -/
  code : String
  /-- The validation script, if there is one. -/
  validation : Option String
  deriving DecidableEq, Repr

namespace Submission

/-- The line between the code and the validation script of a translation unit. -/
def separator : String := "//--- Validation Script ---"

/-- The code, a newline and the validation script. -/
def script (submission : Submission) : String :=
  match submission.validation with
  | some validation => submission.code ++ "\n" ++ validation
  | none => submission.code

/-- The code without entry points, the separator and the validation script, each on lines of its
own; without a validation script the code as it is. -/
def translationUnit (submission : Submission) : String :=
  match submission.validation with
  | some validation =>
    EntryPoint.neutralize submission.code ++ "\n" ++ separator ++ "\n" ++ validation
  | none => submission.code

end Submission

end Sandbox
