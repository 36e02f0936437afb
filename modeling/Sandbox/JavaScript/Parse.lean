import Sandbox.JavaScript.Declaration
import Sandbox.JavaScript.Token

/-!
# Reading scripts

## Main definitions

* `Parser` : readers of the tokens of a script.
* `Parser.expression`, `Parser.statement` : the parts of a script.
* `script` : the statements of a text.
-/

namespace Sandbox.JavaScript

/-- Readers of a part of a script at the front of the tokens that are left. -/
abbrev Parser (α : Type) : Type := StateT (List Lexeme) (Except SyntaxFault) α

namespace Parser

/-! ### Single tokens -/

/-- The next token, which is left in place. -/
def peek : Parser (Option Lexeme) :=
  return (← get).head?

/-- Drops the next token. -/
def advance : Parser Unit :=
  modify (·.drop 1)

/-- Fails at the next token. -/
def unexpected {α : Type} : Parser α := do
  throw (.unexpected (((← peek).map Lexeme.shown).getD "end of script"))

/-- Whether a token is a given mark. -/
def isMark (text : String) (l : Lexeme) : Bool :=
  match l.token with
  | .mark m => m == text
  | _ => false

/-- Whether a token is a given word. -/
def isWord (text : String) (l : Lexeme) : Bool :=
  match l.token with
  | .word w => w == text
  | _ => false

/-- Whether the next token is a given mark. -/
def atMark (text : String) : Parser Bool :=
  return ((← peek).map (isMark text)).getD false

/-- Whether the next token is a given word. -/
def atWord (text : String) : Parser Bool :=
  return ((← peek).map (isWord text)).getD false

/-- Drops the next token if it is a given mark. -/
def mark? (text : String) : Parser Bool := do
  if ← atMark text then advance; return true
  return false

/-- Drops the next token if it is a given word. -/
def word? (text : String) : Parser Bool := do
  if ← atWord text then advance; return true
  return false

/-- Drops the next token, which has to be a given mark. -/
def expect (text : String) : Parser Unit := do
  if !(← mark? text) then throw (.expecting text)

/-- The end of a statement: a semicolon, or a place where one may be left out. -/
def statementEnd : Parser Unit := do
  if ← mark? ";" then return
  match ← peek with
  | none => return
  | some l => if l.afterNewline || isMark "\x7d" l then return else throw (.expecting ";")

/-- Words that are no names of variables. -/
def reserved : List String := [
  "break", "case", "catch", "class", "const", "continue", "debugger", "default", "delete", "do",
  "else", "enum", "export", "extends", "false", "finally", "for", "function", "if", "import",
  "in", "instanceof", "new", "null", "return", "super", "switch", "this", "throw", "true", "try",
  "typeof", "var", "void", "while", "with", "let", "static", "yield", "implements", "interface",
  "package", "private", "protected", "public"]

/-- The name of a variable that is declared. -/
def variableName : Parser String := do
  match ← peek with
  | some ⟨.word w, _, _, _⟩ => if reserved.contains w then throw .missingName else advance; return w
  | _ => throw .missingName

/-! ### Operators -/

/-- Operators with two operands. -/
inductive Between where
  /-- Both operands are evaluated. -/
  | strict (op : BinaryOp)
  /-- The second one only if it matters. -/
  | lazily (op : LogicalOp)

/-- The operator that a token stands for between two operands, and how strongly it binds. -/
def between? (l : Lexeme) : Option (Between × Nat) :=
  match l.token with
  | .word "instanceof" => some (.strict .instanceOf, 7)
  | .word "in" => some (.strict .isIn, 7)
  | .mark text =>
    match text with
    | "??" => some (.lazily .coalesce, 1)
    | "||" => some (.lazily .or, 1)
    | "&&" => some (.lazily .and, 2)
    | "|" => some (.strict .bitOr, 3)
    | "^" => some (.strict .bitXor, 4)
    | "&" => some (.strict .bitAnd, 5)
    | "===" => some (.strict .strictEq, 6)
    | "!==" => some (.strict .strictNe, 6)
    | "==" => some (.strict .looseEq, 6)
    | "!=" => some (.strict .looseNe, 6)
    | "<" => some (.strict .less, 7)
    | "<=" => some (.strict .lessEq, 7)
    | ">" => some (.strict .greater, 7)
    | ">=" => some (.strict .greaterEq, 7)
    | "<<" => some (.strict .shiftLeft, 8)
    | ">>" => some (.strict .shiftRight, 8)
    | ">>>" => some (.strict .shiftRightZero, 8)
    | "+" => some (.strict .add, 9)
    | "-" => some (.strict .sub, 9)
    | "*" => some (.strict .mul, 10)
    | "/" => some (.strict .div, 10)
    | "%" => some (.strict .rem, 10)
    | "**" => some (.strict .pow, 11)
    | _ => none
  | _ => none

/-- The operator of an assignment. -/
def assignment? (l : Lexeme) : Option (Option BinaryOp) :=
  match l.token with
  | .mark "=" => some none
  | .mark "+=" => some (some .add)
  | .mark "-=" => some (some .sub)
  | .mark "*=" => some (some .mul)
  | .mark "/=" => some (some .div)
  | .mark "%=" => some (some .rem)
  | .mark "**=" => some (some .pow)
  | .mark "&=" => some (some .bitAnd)
  | .mark "|=" => some (some .bitOr)
  | .mark "^=" => some (some .bitXor)
  | .mark "<<=" => some (some .shiftLeft)
  | .mark ">>=" => some (some .shiftRight)
  | .mark ">>>=" => some (some .shiftRightZero)
  | _ => none

/-- The operator that a token stands for before an operand. -/
def unary? (l : Lexeme) : Option UnaryOp :=
  match l.token with
  | .mark "+" => some .plus
  | .mark "-" => some .minus
  | .mark "!" => some .not
  | .mark "~" => some .complement
  | .word "typeof" => some .typeOf
  | .word "void" => some .void
  | .word "delete" => some .delete
  | _ => none

/-- Whether an expression can be assigned to. -/
def isTarget : Expr → Bool
  | .name _ => true
  | .property .. => true
  | _ => false

/-- The tokens after the bracket that closes the one before them. `depth` counts open brackets. -/
def afterBrackets (depth : Nat) : List Lexeme → List Lexeme
  | [] => []
  | l :: rest =>
    if isMark "(" l then afterBrackets (depth + 1) rest
    else if isMark ")" l then if depth = 0 then rest else afterBrackets (depth - 1) rest
    else afterBrackets depth rest

/-- Whether the parameters of an arrow function follow. -/
def atArrow : Parser Bool := do
  let isArrow := fun l => ((List.head? l).map (isMark "=>")).getD false
  match ← get with
  | ⟨.word w, _, _, _⟩ :: rest => return isArrow rest && !reserved.contains w
  | l :: rest => return isMark "(" l && isArrow (afterBrackets 0 rest)
  | [] => return false

/-- The characters from one place in the tokens to the end of the last token before another. -/
def sourceBetween (start : List Lexeme) (stop : List Lexeme) : List Char :=
  match start.head?, (start.take (start.length - stop.length)).getLast? with
  | some first, some last =>
    first.text.take (first.text.length - last.text.length + last.length)
  | _, _ => []

/-- The parameters of a function up to the closing bracket. -/
def parametersFrom : (fuel : Nat) → (done : List String) → Parser (List String)
  | 0, _ => throw .tooDeep
  | fuel + 1, done => do
    if ← mark? ")" then return done.reverse
    let name ← variableName
    if ← mark? "," then parametersFrom fuel (name :: done)
    else
      expect ")"
      return (name :: done).reverse

/-- The parameters of a function. -/
def parameters : Parser (List String) := do
  parametersFrom ((← get).length + 1) []

/-! ### Expressions and statements -/

mutual

/-- An expression without a comma outside brackets. -/
def assigned : (fuel : Nat) → Parser Expr
  | 0 => throw .tooDeep
  | fuel + 1 => do
    if ← atArrow then
      let start ← get
      let params ← if ← mark? "(" then parameters else (fun name => [name]) <$> variableName
      expect "=>"
      if ← mark? "\x7b" then
        let body ← statements fuel []
        expect "\x7d"
        if let some fault := declarationFault? params body then throw fault
        return .function (.mk none params body (sourceBetween start (← get)) true)
      else
        let value ← assigned fuel
        return .function
          (.mk none params [.leave (some value)] (sourceBetween start (← get)) true)
    else
      let left ← operators fuel 1
      if ← mark? "?" then
        let yes ← assigned fuel
        expect ":"
        let no ← assigned fuel
        return .conditional left yes no
      match (← peek).bind assignment? with
      | none => return left
      | some op =>
        if !isTarget left then throw .invalidTarget
        advance
        return .assign left op (← assigned fuel)

/-- An expression. -/
def expression : (fuel : Nat) → Parser Expr
  | 0 => throw .tooDeep
  | fuel + 1 => do
    let first ← assigned fuel
    if ← mark? "," then return .sequence first (← expression fuel)
    return first

/-- Operands with operators between them that bind at least as strongly as `least`. -/
def operators : (fuel : Nat) → (least : Nat) → Parser Expr
  | 0, _ => throw .tooDeep
  | fuel + 1, least => do operatorsAfter fuel least (← operand fuel)

/-- What follows a first operand. -/
def operatorsAfter : (fuel : Nat) → (least : Nat) → (left : Expr) → Parser Expr
  | 0, _, _ => throw .tooDeep
  | fuel + 1, least, left => do
    match (← peek).bind between? with
    | none => return left
    | some (op, strength) =>
      if strength < least then return left
      advance
      let right ← operators fuel (if strength = 11 then strength else strength + 1)
      operatorsAfter fuel least <| match op with
        | .strict op => .binary op left right
        | .lazily op => .logical op left right

/-- An operand with the operators before and after it. -/
def operand : (fuel : Nat) → Parser Expr
  | 0 => throw .tooDeep
  | fuel + 1 => do
    match (← peek).bind unary? with
    | some op =>
      advance
      return .unary op (← operand fuel)
    | none =>
      if (← atMark "++") || (← atMark "--") then
        let up ← mark? "++"
        if !up then advance
        let target ← operand fuel
        if !isTarget target then throw .invalidTarget
        return .count target up true
      let first ← primary fuel
      let e ← calls fuel true first
      match ← peek with
      | some l =>
        if (isMark "++" l || isMark "--" l) && !l.afterNewline then
          if !isTarget e then throw .invalidTarget
          advance
          return .count e (isMark "++" l) false
        return e
      | none => return e

/-- What follows a value: properties and, if `calling`, calls. -/
def calls : (fuel : Nat) → (calling : Bool) → (e : Expr) → Parser Expr
  | 0, _, _ => throw .tooDeep
  | fuel + 1, calling, e => do
    if ← mark? "." then
      match ← peek with
      | some ⟨.word w, _, _, _⟩ =>
        advance
        calls fuel calling (.property e (.string (Units.ofText w)))
      | _ => throw (.expecting "field name")
    else if ← mark? "[" then
      let key ← expression fuel
      expect "]"
      calls fuel calling (.property e key)
    else if calling && (← atMark "(") then
      advance
      let args ← arguments fuel []
      calls fuel calling (.call e args)
    else return e

/-- The arguments of a call up to the closing bracket. -/
def arguments : (fuel : Nat) → (done : List Expr) → Parser (List Expr)
  | 0, _ => throw .tooDeep
  | fuel + 1, done => do
    if ← mark? ")" then return done.reverse
    let arg ← assigned fuel
    if ← mark? "," then arguments fuel (arg :: done)
    else
      expect ")"
      return (arg :: done).reverse

/-- The items of an array up to the closing bracket. -/
def items : (fuel : Nat) → (done : List Expr) → Parser (List Expr)
  | 0, _ => throw .tooDeep
  | fuel + 1, done => do
    if ← mark? "]" then return done.reverse
    if ← mark? "," then items fuel (.name "undefined" :: done)
    else
      let item ← assigned fuel
      if ← mark? "," then items fuel (item :: done)
      else
        expect "]"
        return (item :: done).reverse

/-- The key of a member. -/
def memberKey : (fuel : Nat) → Parser Expr
  | 0 => throw .tooDeep
  | fuel + 1 => do
    match ← peek with
    | some ⟨.word w, _, _, _⟩ => advance; return .string (Units.ofText w)
    | some ⟨.string units, _, _, _⟩ => advance; return .string units
    | some ⟨.number n, _, _, _⟩ => advance; return .number n
    | _ =>
      expect "["
      let key ← assigned fuel
      expect "]"
      return key

/-- The members of an object up to the closing brace. -/
def members : (fuel : Nat) → (done : List Member) → Parser (List Member)
  | 0, _ => throw .tooDeep
  | fuel + 1, done => do
    if ← mark? "\x7d" then return done.reverse
    let next ← member fuel
    if ← mark? "," then members fuel (next :: done)
    else
      expect "\x7d"
      return (next :: done).reverse

/-- A member of an object. -/
def member : (fuel : Nat) → Parser Member
  | 0 => throw .tooDeep
  | fuel + 1 => do
    if ← mark? "..." then return .spread (← assigned fuel)
    let start ← get
    let key ← memberKey fuel
    if ← mark? ":" then return .value key (← assigned fuel)
    if ← atMark "(" then return .value key (.function (← functionRest fuel start none))
    match start.head? with
    | some ⟨.word "get", _, _, _⟩ =>
      if (← atMark ",") || (← atMark "\x7d") then return .value key (.name "get")
      let key ← memberKey fuel
      return .getter key (← functionRest fuel start none)
    | some ⟨.word w, _, _, _⟩ =>
      if reserved.contains w then unexpected else return .value key (.name w)
    | _ => throw (.expecting ":")

/-- A value without operators. -/
def primary : (fuel : Nat) → Parser Expr
  | 0 => throw .tooDeep
  | fuel + 1 => do
    let start ← get
    match start with
    | [] => unexpected
    | l :: _ =>
      match l.token with
      | .number n => advance; return .number n
      | .bigint n => advance; return .bigint n
      | .string units => advance; return .string units
      | .regex body flags => advance; return .regex body flags
      | .word w =>
        match w with
        | "true" => advance; return .bool true
        | "false" => advance; return .bool false
        | "null" => advance; return .null
        | "this" => advance; return .this
        | "function" =>
          advance
          let name ← if ← atMark "(" then pure none else some <$> variableName
          return .function (← functionRest fuel start name)
        | "new" =>
          advance
          let first ← primary fuel
          let callee ← calls fuel false first
          if ← mark? "(" then return .construct callee (← arguments fuel [])
          return .construct callee []
        | _ => if reserved.contains w then unexpected else advance; return .name w
      | .mark "(" =>
        advance
        let e ← expression fuel
        expect ")"
        return e
      | .mark "[" => advance; return .array (← items fuel [])
      | .mark "\x7b" => advance; return .object (← members fuel [])
      | .mark _ => unexpected

/-- The parameters and the body of a function whose text begins at `start`. -/
def functionRest : (fuel : Nat) → (start : List Lexeme) → (name : Option String) → Parser Function
  | 0, _, _ => throw .tooDeep
  | fuel + 1, start, name => do
    expect "("
    let params ← parameters
    expect "\x7b"
    let body ← statements fuel []
    expect "\x7d"
    if let some fault := declarationFault? params body then throw fault
    return .mk name params body (sourceBetween start (← get)) false

/-- Statements up to a closing brace or the end, after those in `done`, which is in reverse. -/
def statements : (fuel : Nat) → (done : List Stmt) → Parser (List Stmt)
  | 0, _ => throw .tooDeep
  | fuel + 1, done => do
    match ← peek with
    | none => return done.reverse
    | some l =>
      if isMark "\x7d" l then return done.reverse
      let next ← statement fuel
      statements fuel (next :: done)

/-- A block. -/
def block : (fuel : Nat) → Parser (List Stmt)
  | 0 => throw .tooDeep
  | fuel + 1 => do
    expect "\x7b"
    let body ← statements fuel []
    expect "\x7d"
    return body

/-- The variables of a declaration. -/
def bindings : (fuel : Nat) → Parser (List (String × Option Expr))
  | 0 => throw .tooDeep
  | fuel + 1 => do
    let name ← variableName
    let value ← if ← mark? "=" then some <$> assigned fuel else pure none
    if ← mark? "," then return (name, value) :: (← bindings fuel)
    return [(name, value)]

/-- A declaration of variables, up to where it ends. -/
def declaration : (fuel : Nat) → Parser (Option Stmt)
  | 0 => throw .tooDeep
  | fuel + 1 => do
    if ← word? "var" then return some (.declare .var (← bindings fuel))
    if ← word? "let" then return some (.declare .lexical (← bindings fuel))
    if ← word? "const" then return some (.declare .constant (← bindings fuel))
    return none

/-- The statement that a condition or a loop applies to. -/
def body : (fuel : Nat) → Parser (List Stmt)
  | 0 => throw .tooDeep
  | fuel + 1 => do
    if ← atMark "\x7b" then block fuel else return [← statement fuel]

/-- A condition in brackets. -/
def condition : (fuel : Nat) → Parser Expr
  | 0 => throw .tooDeep
  | fuel + 1 => do
    expect "("
    let e ← expression fuel
    expect ")"
    return e

/-- A part of the head of a loop, up to a closing mark. -/
def loopPart : (fuel : Nat) → (close : String) → Parser (Option Expr)
  | 0, _ => throw .tooDeep
  | fuel + 1, close => do
    if ← mark? close then return none
    let e ← expression fuel
    expect close
    return some e

/-- The handler of guarded code. -/
def handler : (fuel : Nat) → Parser Handler
  | 0 => throw .tooDeep
  | fuel + 1 => do
    if ← word? "catch" then
      let name ← if ← mark? "(" then do
          let name ← variableName
          expect ")"
          pure (some name)
        else pure none
      return .present name (← block fuel)
    return .absent

/-- A statement. -/
def statement : (fuel : Nat) → Parser Stmt
  | 0 => throw .tooDeep
  | fuel + 1 => do
    let start ← get
    match ← declaration fuel with
    | some s => statementEnd; return s
    | none =>
      if ← atMark "\x7b" then return .block (← block fuel)
      if ← mark? ";" then return .block []
      if ← word? "function" then
        let name ← variableName
        return .function (← functionRest fuel start (some name))
      if ← word? "return" then
        match ← peek with
        | none => return .leave none
        | some l =>
          if isMark ";" l || isMark "\x7d" l || l.afterNewline then statementEnd; return .leave none
          let e ← expression fuel
          statementEnd
          return .leave (some e)
      if ← word? "throw" then
        let e ← expression fuel
        statementEnd
        return .throw e
      if ← word? "if" then
        let test ← condition fuel
        let yes ← body fuel
        let no ← if ← word? "else" then body fuel else pure []
        return .choose test yes no
      if ← word? "while" then
        let test ← condition fuel
        return .loop [] (some test) none (← body fuel)
      if ← word? "do" then
        let inside ← body fuel
        if !(← word? "while") then throw (.expecting "while")
        let test ← condition fuel
        let _ ← mark? ";"
        return .doWhile inside test
      if ← word? "for" then
        expect "("
        let first ← match ← declaration fuel with
          | some s => expect ";"; pure [s]
          | none => (·.toList.map .expr) <$> loopPart fuel ";"
        let test ← loopPart fuel ";"
        let update ← loopPart fuel ")"
        return .loop first test update (← body fuel)
      if ← word? "try" then
        let inside ← block fuel
        let caught ← handler fuel
        if ← word? "finally" then return .guarded inside caught (← block fuel)
        if caught matches .absent then throw (.expecting "catch")
        return .guarded inside caught []
      if ← word? "break" then statementEnd; return .stop
      if ← word? "continue" then statementEnd; return .skip
      let e ← expression fuel
      statementEnd
      return .expr e

end

end Parser

/-- The statements of a text. -/
def script (text : String) : Except SyntaxFault (List Stmt) := do
  let tokens ← lexemes text.toList
  let (body, rest) ← (Parser.statements (10 * tokens.length + 10) []).run tokens
  if let some fault := declarationFault? [] body then throw fault
  match rest with
  | [] => return body
  | l :: _ => throw (SyntaxFault.unexpected l.shown)

end Sandbox.JavaScript
