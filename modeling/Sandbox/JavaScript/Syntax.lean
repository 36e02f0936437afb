import Sandbox.JavaScript.Units

/-!
# Syntax of scripts

## Main definitions

* `Expr`, `Stmt`, `Function` : the parts of a script.
* `UnaryOp`, `BinaryOp`, `LogicalOp` : the operators.
-/

namespace Sandbox.JavaScript

/-- Operators with one operand. -/
inductive UnaryOp where
  /-- The number of a value. -/
  | plus
  /-- The negative number. -/
  | minus
  /-- The opposite truth value. -/
  | not
  /-- The opposite bits. -/
  | complement
  /-- The name of the type. -/
  | typeOf
  /-- The undefined value. -/
  | void
  /-- Removes a property. -/
  | delete
  deriving DecidableEq, Repr

/-- Operators with two operands, both of which are evaluated. -/
inductive BinaryOp where
  | add | sub | mul | div | rem | pow
  | bitAnd | bitOr | bitXor | shiftLeft | shiftRight | shiftRightZero
  | less | lessEq | greater | greaterEq
  | strictEq | strictNe | looseEq | looseNe
  | instanceOf | isIn
  deriving DecidableEq, Repr

/-- Operators whose second operand is evaluated only if it matters. -/
inductive LogicalOp where
  | and | or | coalesce
  deriving DecidableEq, Repr

/-- How a variable is declared. -/
inductive DeclKind where
  /-- For the whole function. -/
  | var
  /-- For a block. -/
  | lexical
  /-- For a block, with a value that stays. -/
  | constant
  deriving DecidableEq, Repr

mutual

/-- An expression. -/
inductive Expr where
  /-- A number. -/
  | number (value : Float)
  /-- An integer of any size. -/
  | bigint (value : Int)
  /-- A text. -/
  | string (units : Units)
  /-- A truth value. -/
  | bool (b : Bool)
  /-- The null value. -/
  | null
  /-- The object that a function is called on. -/
  | this
  /-- A pattern with its flags. -/
  | regex (body flags : String)
  /-- A variable. -/
  | name (name : String)
  /-- An array. -/
  | array (items : List Expr)
  /-- An object. -/
  | object (members : List Member)
  /-- A function. -/
  | function (f : Function)
  /-- A property with a fixed or a computed key. -/
  | property (base key : Expr)
  /-- A call. -/
  | call (callee : Expr) (args : List Expr)
  /-- The making of an object. -/
  | construct (callee : Expr) (args : List Expr)
  /-- An operator with one operand. -/
  | unary (op : UnaryOp) (operand : Expr)
  /-- An operator with two operands. -/
  | binary (op : BinaryOp) (left right : Expr)
  /-- An operator that may leave out its second operand. -/
  | logical (op : LogicalOp) (left right : Expr)
  /-- One of two values. -/
  | conditional (test yes no : Expr)
  /-- An assignment, possibly with an operator. -/
  | assign (target : Expr) (op : Option BinaryOp) (value : Expr)
  /-- Counts a variable up or down, and gives its value after or before that. -/
  | count (target : Expr) (up : Bool) (after : Bool)
  /-- Two expressions, of which the second gives the value. -/
  | sequence (first second : Expr)

/-- A member of an object. -/
inductive Member where
  /-- A key with a value. -/
  | value (key value : Expr)
  /-- A key whose value is computed by a function. -/
  | getter (key : Expr) (f : Function)
  /-- All properties of another object. -/
  | spread (value : Expr)

/-- A function. -/
inductive Function where
  /-- The name, the parameters, the body, the text from which it was read, and whether it takes its
  object from where it stands. -/
  | mk (name : Option String) (params : List String) (body : List Stmt) (source : List Char)
    (isArrow : Bool)

/-- A statement. -/
inductive Stmt where
  /-- Evaluates an expression. -/
  | expr (e : Expr)
  /-- Declares variables, with values if they have some. -/
  | declare (kind : DeclKind) (bindings : List (String × Option Expr))
  /-- Declares a function. -/
  | function (f : Function)
  /-- Leaves the function. -/
  | leave (value : Option Expr)
  /-- Throws a value. -/
  | throw (value : Expr)
  /-- A choice. -/
  | choose (test : Expr) (yes no : List Stmt)
  /-- A loop with a start, a test before each round, and an update after it. -/
  | loop (start : List Stmt) (test update : Option Expr) (body : List Stmt)
  /-- A loop with a test after each round. -/
  | doWhile (body : List Stmt) (test : Expr)
  /-- A block. -/
  | block (body : List Stmt)
  /-- Code with what to do if it throws, and what to do in any case. -/
  | guarded (body : List Stmt) (handler : Handler) (final : List Stmt)
  /-- Ends a loop. -/
  | stop
  /-- Ends a round of a loop. -/
  | skip

/-- What is done about a value that is thrown. -/
inductive Handler where
  /-- Nothing. -/
  | absent
  /-- Runs statements, in which the value may have a name. -/
  | present (name : Option String) (body : List Stmt)

end

instance : Inhabited Stmt := ⟨.block []⟩

namespace Function

/-- The name. -/
def name : Function → Option String
  | .mk name .. => name

/-- The parameters. -/
def params : Function → List String
  | .mk _ params .. => params

/-- The body. -/
def body : Function → List Stmt
  | .mk _ _ body .. => body

/-- The text from which it was read. -/
def source : Function → List Char
  | .mk _ _ _ source _ => source

/-- Whether it takes its object from where it stands. -/
def isArrow : Function → Bool
  | .mk _ _ _ _ isArrow => isArrow

end Function

/-- Why a text is no script. -/
inductive SyntaxFault where
  /-- No name where a variable is declared. -/
  | missingName
  /-- A variable of a block is declared again. -/
  | redeclared
  /-- A variable of a function is declared again in a block. -/
  | redeclaredVariable
  /-- A parameter is declared again. -/
  | redeclaredParameter
  /-- A token that cannot stand where it stands. -/
  | unexpected (token : String)
  /-- A token that is missing. -/
  | expecting (token : String)
  /-- Something that is not assigned to. -/
  | invalidTarget
  /-- A text that does not end. -/
  | unclosed
  /-- Parts that are nested too deeply. -/
  | tooDeep
  deriving DecidableEq, Repr

/-- The wording of a fault. -/
def SyntaxFault.message : SyntaxFault → String
  | missingName => "variable name expected"
  | redeclared => "invalid redefinition of lexical identifier"
  | redeclaredVariable => "invalid redefinition of a variable"
  | redeclaredParameter => "invalid redefinition of parameter name"
  | unexpected token => "unexpected token in expression: '" ++ token ++ "'"
  | expecting token => "expecting '" ++ token ++ "'"
  | invalidTarget => "invalid assignment left-hand side"
  | unclosed => "unexpected end of string"
  | tooDeep => "Maximum call stack size exceeded"

end Sandbox.JavaScript
