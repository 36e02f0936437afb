import Sandbox.JavaScript.Syntax

/-!
# Declarations

A variable is declared for its function or for its block. A name may be declared several times for a
function, but a declaration for a block excludes every other one of that name there.

## Main definitions

* `functionVariables` : the variables that statements declare for their function.
* `blockVariables`, `blockFunctions` : what statements declare for their own block.
* `declarationFault?` : what is wrong with the declarations of a function.
-/

namespace Sandbox.JavaScript

mutual

/-- The variables that a statement declares for its function. -/
def Stmt.functionVariables : Stmt → List String
  | .declare .var bindings => bindings.map Prod.fst
  | .choose _ yes no => functionVariables yes ++ functionVariables no
  | .loop start _ _ body => functionVariables start ++ functionVariables body
  | .doWhile body _ => functionVariables body
  | .block body => functionVariables body
  | .guarded body handler final =>
    functionVariables body ++ handler.functionVariables ++ functionVariables final
  | _ => []

/-- The variables that a handler declares for its function. -/
def Handler.functionVariables : Handler → List String
  | .absent => []
  | .present _ body => functionVariables body

/-- The variables that statements declare for their function. -/
def functionVariables : List Stmt → List String
  | [] => []
  | s :: rest => s.functionVariables ++ functionVariables rest

end

/-- The variables that statements declare for their own block, with whether their value stays. -/
def blockVariables (body : List Stmt) : List (String × Bool) :=
  body.flatMap fun s => match s with
    | .declare .lexical bindings => bindings.map fun entry => (entry.1, false)
    | .declare .constant bindings => bindings.map fun entry => (entry.1, true)
    | _ => []

/-- The functions that statements declare. -/
def blockFunctions (body : List Stmt) : List (String × Function) :=
  body.filterMap fun s => match s with
    | .function f => f.name.map fun name => (name, f)
    | _ => none

/-- What has been declared so far in a block. -/
structure Declared where
  /-- The parameters that may not be declared again. -/
  params : List String
  /-- The names declared for the block. -/
  forBlock : List String
  /-- The names declared for the function. -/
  forFunction : List String

/-- Declares names for the block. -/
def Declared.addToBlock (d : Declared) : List String → Except SyntaxFault Declared
  | [] => .ok d
  | name :: names =>
    if d.forBlock.contains name then .error .redeclared
    else if d.params.contains name then .error .redeclaredParameter
    else if d.forFunction.contains name then .error .redeclaredVariable
    else { d with forBlock := name :: d.forBlock }.addToBlock names

/-- Declares names for the function. -/
def Declared.addToFunction (d : Declared) (names : List String) : Except SyntaxFault Declared :=
  if names.any d.forBlock.contains then .error .redeclared
  else .ok { d with forFunction := names ++ d.forFunction }

mutual

/-- Checks what a statement declares. -/
def Stmt.check (outermost : Bool) (d : Declared) : Stmt → Except SyntaxFault Declared
  | .declare .var bindings => d.addToFunction (bindings.map Prod.fst)
  | .declare .lexical bindings => d.addToBlock (bindings.map Prod.fst)
  | .declare .constant bindings => d.addToBlock (bindings.map Prod.fst)
  | .function f =>
    if outermost then d.addToFunction f.name.toList else d.addToBlock f.name.toList
  | .choose _ yes no => do
    checkBlock [] yes
    checkBlock [] no
    d.addToFunction (functionVariables yes ++ functionVariables no)
  | .loop start _ _ body => do
    checkBlock [] start
    checkBlock [] body
    d.addToFunction (functionVariables start ++ functionVariables body)
  | .doWhile body _ => do
    checkBlock [] body
    d.addToFunction (functionVariables body)
  | .block body => do
    checkBlock [] body
    d.addToFunction (functionVariables body)
  | .guarded body handler final => do
    checkBlock [] body
    handler.check
    checkBlock [] final
    d.addToFunction
      (functionVariables body ++ handler.functionVariables ++ functionVariables final)
  | _ => .ok d

/-- Checks what a handler declares. -/
def Handler.check : Handler → Except SyntaxFault Unit
  | .absent => .ok ()
  | .present name body => do
    if (blockVariables body).any fun entry => some entry.1 == name then throw .redeclared
    checkBlock [] body

/-- Checks what the statements of a block declare. -/
def checkBlock (names : List String) (body : List Stmt) : Except SyntaxFault Unit := do
  let _ ← checkEach false ⟨[], names, []⟩ body

/-- Checks what statements declare, one after another. -/
def checkEach (outermost : Bool) (d : Declared) : List Stmt → Except SyntaxFault Declared
  | [] => .ok d
  | s :: rest => do
    let d ← s.check outermost d
    checkEach outermost d rest

end

/-- What is wrong with the declarations of a function. -/
def declarationFault? (params : List String) (body : List Stmt) : Option SyntaxFault :=
  match checkEach true ⟨params, [], []⟩ body with
  | .ok _ => none
  | .error fault => some fault

end Sandbox.JavaScript
