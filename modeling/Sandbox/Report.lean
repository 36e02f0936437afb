import Sandbox.LoadError

/-!
# Reports

A report says why a command could not do its work at all: a first text, and its causes.

## Main definitions

* `Report` : a text and its causes.
* `Report.chain` : all the texts.
* `Report.render` : the report as it is printed.
-/

namespace Sandbox

/-- The texts of a load failure and of its causes. -/
def LoadError.chain (error : LoadError) : List String :=
  match error with
  | .file e => [error.message, e.message]
  | _ => [error.message]

/-- The texts of a setup failure and of its causes. -/
def SetupError.chain (error : SetupError) : List String :=
  match error with
  | .configuration _ => [error.message]
  | .toml message => [error.message, message]
  | .file e => [error.message, e.message]
  | .load e => e.chain

/-- Why a command could not do its work. -/
structure Report where
  /-- What failed. -/
  title : String
  /-- Why, from near to far. -/
  causes : List String := []
  deriving DecidableEq, Repr

namespace Report

/-- All the texts of a report. -/
def chain (report : Report) : List String :=
  report.title :: report.causes

/-- The report that something failed because of a setup failure. -/
def ofSetup (title : String) (error : SetupError) : Report :=
  ⟨title, error.chain⟩

/-- The lines of a text, the first behind `first` and the others behind `others`. -/
def hang (first others text : String) : List String :=
  match (text.splitOn "\n") with
  | [] => [first]
  | line :: lines => (first ++ line) :: lines.map (others ++ ·)

/-- The lines for causes. -/
def causeLines : List String → List String
  | [] => []
  | [last] => hang "  ╰─▶ " "      " last
  | cause :: causes => hang "  ├─▶ " "  │   " cause ++ causeLines causes

/-- The report as it is printed. -/
def render (report : Report) : String :=
  let lines := hang "  × " "  │ " report.title ++ causeLines report.causes
  "Error: " ++ "\n".intercalate lines ++ "\n\n"

end Report

end Sandbox
