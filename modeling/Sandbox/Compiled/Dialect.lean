/-!
# Dialects

## Main definitions

* `Dialect` : the languages that the compiler knows.
-/

namespace Sandbox.Compiled

/-- The languages that the compiler knows. -/
inductive Dialect where
  /-- The language C. -/
  | c
  /-- The language C++. -/
  | cpp
  deriving DecidableEq, Repr

namespace Dialect

/-- The name of the language. -/
def language : Dialect → String
  | c => "c"
  | cpp => "cpp"

/-- The name of a source file. -/
def fileName : Dialect → String
  | c => "main.c"
  | cpp => "main.cpp"

/-- The program that compiles. -/
def driver : Dialect → String
  | c => "clang"
  | cpp => "clang++"

/-- Arguments that only this language needs. -/
def extraFlags : Dialect → List String
  | c => []
  | cpp => ["-fno-exceptions"]

end Dialect

end Sandbox.Compiled
