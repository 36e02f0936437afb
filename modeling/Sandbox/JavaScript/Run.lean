import Sandbox.JavaScript.Builtin
import Sandbox.JavaScript.Parse

/-!
# Running scripts

A script is run by following its syntax. Calls may be nested up to a fixed depth, and loops may have
up to a fixed number of rounds, so that every run ends.

## Main definitions

* `Frame` : the scopes around a piece of a script and the object it works on.
* `Eval.expr`, `Eval.stmt`, `Eval.invoke` : runs of expressions, statements and functions.
* `Ran`, `runScript` : what a whole script shows and how it ends.
-/

namespace Sandbox.JavaScript

/-- Where a piece of a script stands. -/
structure Frame where
  /-- The scopes around it, the innermost one first. -/
  scopes : List Nat
  /-- The object it works on. -/
  this : Value

/-- How a statement ends. -/
inductive Completion where
  /-- The next one follows. -/
  | next
  /-- The loop ends. -/
  | stop
  /-- The round of the loop ends. -/
  | skip
  /-- The function ends with a value. -/
  | leave (v : Value)

namespace Eval

/-! ### Variables -/

/-- A new scope. -/
def newScope (scope : Scope) : Eval Nat := do
  let m ← get
  set { m with scopes := m.scopes.push scope }
  return m.scopes.size

/-- The frame with one more scope around it. -/
def enter (frame : Frame) (scope : Scope) : Eval Frame := do
  return { frame with scopes := (← newScope scope) :: frame.scopes }

/-- The variable of a name in scopes, with the scope that has it. -/
def findVariable (scopes : Array Scope) (name : String) : List Nat → Option (Nat × Variable)
  | [] => none
  | id :: rest =>
    match (scopes.getD id []).find? fun entry => entry.1 == name with
    | some (_, v) => some (id, v)
    | none => findVariable scopes name rest

/-- The scope with a variable. -/
def putVariable (name : String) (v : Variable) : Scope → Scope
  | [] => [(name, v)]
  | (n, w) :: rest => if n == name then (name, v) :: rest else (n, w) :: putVariable name v rest

/-- Gives a variable of a scope its value. -/
def bindIn (id : Nat) (name : String) (v : Variable) : Eval Unit :=
  modify fun m => { m with scopes := m.scopes.modify id (putVariable name v) }

/-- The value of a variable, if there is one of that name. -/
def readVariable? (call : Call) (frame : Frame) (name : String) : Eval (Option Value) := do
  match findVariable (← get).scopes name frame.scopes with
  | some (_, ⟨some v, _⟩) => return some v
  | some (_, ⟨none, _⟩) => fail .reference (name ++ " is not initialized")
  | none =>
    match ← find (Key.ofText name) 3 Place.global with
    | some _ => return some (← named call (.object Place.global) name)
    | none => return none

/-- The value of a variable. -/
def readVariable (call : Call) (frame : Frame) (name : String) : Eval Value := do
  match ← readVariable? call frame name with
  | some v => return v
  | none => fail .reference (name ++ " is not defined")

/-- Gives a variable another value. -/
def writeVariable (frame : Frame) (name : String) (v : Value) : Eval Unit := do
  match findVariable (← get).scopes name frame.scopes with
  | some (id, ⟨some _, false⟩) => bindIn id name ⟨some v, false⟩
  | some (_, ⟨some _, true⟩) => fail .type ("'" ++ name ++ "' is read-only")
  | some (_, ⟨none, _⟩) => fail .reference (name ++ " is not initialized")
  | none =>
    match ← find (Key.ofText name) 3 Place.global with
    | some _ => setProperty (.object Place.global) (Key.ofText name) v
    | none => fail .reference (name ++ " is not defined")

/-- Gives a variable its first value in the innermost scope that has it. -/
def declareVariable (frame : Frame) (kind : DeclKind) (name : String) (v : Value) : Eval Unit := do
  match findVariable (← get).scopes name frame.scopes with
  | some (id, _) => bindIn id name ⟨some v, kind = .constant⟩
  | none => return ()

/-- A function of the script as a value. -/
def closureOf (frame : Frame) (f : Function) : Eval Value := do
  let made ← newObject (.closure f frame.scopes frame.this) Place.function
  match made with
  | .object place =>
    if !f.isArrow then
      let parent ← newObject .plain Place.object
      define place (Key.ofText "prototype") (.value parent) false
  | _ => pure ()
  return made

/-- The frame for the statements of a block. -/
def enterBlock (frame : Frame) (outermost : Bool) (first : Scope) (body : List Stmt) :
    Eval Frame := do
  let waiting := (blockVariables body).map fun (name, isConstant) =>
    (name, (⟨none, isConstant⟩ : Variable))
  let free := (if outermost then functionVariables body else []).filterMap fun name =>
    if first.any fun entry => entry.1 == name then none
    else some (name, (⟨some .undefined, false⟩ : Variable))
  let frame ← enter frame (first ++ free ++ waiting)
  for (name, f) in blockFunctions body do
    let made ← closureOf frame f
    match frame.scopes with
    | id :: _ => bindIn id name ⟨some made, false⟩
    | [] => pure ()
  return frame

/-! ### Rounds -/

/-- Runs statements in order until one does not simply end. -/
def inOrder (run : Stmt → Eval Completion) : List Stmt → Eval Completion
  | [] => return .next
  | s :: rest => do
    match ← run s with
    | .next => inOrder run rest
    | ended => return ended

/-- Repeats rounds, which pass a frame on, until one ends the loop. -/
def rounds (round : Frame → Eval (Except Completion Frame)) :
    (limit : Nat) → Frame → Machine → Except Value Completion × Machine
  | 0, _, m => (.ok .next, m)
  | limit + 1, frame, m =>
    match (round frame).run m with
    | (.error v, m) => (.error v, m)
    | (.ok (.error ended), m) => (.ok ended, m)
    | (.ok (.ok frame), m) => rounds round limit frame m

/-- How many rounds a loop may have. -/
def mostRounds : Nat := 100000000

/-- Repeats rounds until one ends the loop. -/
def repeatRounds (round : Frame → Eval (Except Completion Frame)) (frame : Frame) :
    Eval Completion :=
  ExceptT.mk fun m => rounds round mostRounds frame m

/-- What the end of the body of a loop means for the loop: it goes on, or ends. -/
def afterBody : Completion → Option Completion
  | .next | .skip => none
  | .stop => some .next
  | .leave v => some (.leave v)

/-- The frame for the next round of a loop whose variables are new in each round. -/
def nextRound (frame : Frame) (isFresh : Bool) : Eval Frame := do
  match frame.scopes with
  | id :: rest =>
    if isFresh then return { frame with scopes := (← newScope ((← get).scopes.getD id [])) :: rest }
    else return frame
  | [] => return frame

/-! ### Running -/

/-- The name of the type of a value. -/
def typeText (v : Value) : Eval Value := do
  if ← isFunction v then return text "function" else return text (typeName v)

/-- The number of a value, and the next or the previous one. -/
def counted (old : Value) (up : Bool) : Eval (Value × Value) := do
  match old with
  | .bigint n => return (old, .bigint (if up then n + 1 else n - 1))
  | p =>
    let x ← primitiveNumber p
    return (.number x, .number (if up then x + 1.0 else x - 1.0))

mutual

/-- The value of an expression. -/
def expr : (fuel : Nat) → Frame → Expr → Eval Value
  | 0, _, _ => fail .range "Maximum call stack size exceeded"
  | fuel + 1, frame, e => do
    match e with
    | .number x => return .number x
    | .bigint n => return .bigint n
    | .string units => return .string units
    | .bool b => return .bool b
    | .null => return .null
    | .this => return frame.this
    | .regex body flags => newObject (.regex body flags) Place.regex
    | .name name => readVariable (invoke fuel) frame name
    | .array items => newArray (← items.mapM (expr fuel frame))
    | .object members =>
      let made ← newObject .plain Place.object
      match made with
      | .object place => for m in members do member fuel frame place m
      | _ => pure ()
      return made
    | .function f =>
      match f.name with
      | none => closureOf frame f
      | some name =>
        let frame ← enter frame [(name, ⟨none, true⟩)]
        let made ← closureOf frame f
        declareVariable frame .constant name made
        return made
    | .property base key =>
      let base ← expr fuel frame base
      let key ← expr fuel frame key
      property (invoke fuel) base (← toKey (invoke fuel) key)
    | .call (.property base key) args =>
      let base ← expr fuel frame base
      let key ← expr fuel frame key
      let f ← property (invoke fuel) base (← toKey (invoke fuel) key)
      invoke fuel f base (← args.mapM (expr fuel frame))
    | .call callee args =>
      let f ← expr fuel frame callee
      invoke fuel f .undefined (← args.mapM (expr fuel frame))
    | .construct callee args =>
      let f ← expr fuel frame callee
      construct fuel f (← args.mapM (expr fuel frame))
    | .unary .typeOf (.name name) =>
      match ← readVariable? (invoke fuel) frame name with
      | none => return text "undefined"
      | some v => typeText v
    | .unary .delete (.property base key) =>
      let base ← expr fuel frame base
      let key ← toKey (invoke fuel) (← expr fuel frame key)
      match base with
      | .object place =>
        change place fun o => { o with properties := o.properties.filter fun p => p.1 ≠ key }
      | _ => pure ()
      return .bool true
    | .unary op operand =>
      let v ← expr fuel frame operand
      match op with
      | .typeOf => typeText v
      | .not => return .bool (!truth v)
      | .void => return .undefined
      | .delete => return .bool true
      | .plus => return .number (← toNumber (invoke fuel) v)
      | .minus =>
        match ← primitive (invoke fuel) .number v with
        | .bigint n => return .bigint (-n)
        | p => return .number (-(← primitiveNumber p))
      | .complement =>
        match ← primitive (invoke fuel) .number v with
        | .bigint n => return .bigint (-n - 1)
        | p => return .number (numberOfInt (-(toInt32 (← primitiveNumber p)) - 1))
    | .binary op left right =>
      let a ← expr fuel frame left
      let b ← expr fuel frame right
      binary (invoke fuel) op a b
    | .logical op left right =>
      let a ← expr fuel frame left
      let isEnough := match op, a with
        | .and, _ => !truth a
        | .or, _ => truth a
        | .coalesce, .undefined | .coalesce, .null => false
        | .coalesce, _ => true
      if isEnough then return a else expr fuel frame right
    | .conditional test yes no =>
      if truth (← expr fuel frame test) then expr fuel frame yes else expr fuel frame no
    | .assign (.name name) op value =>
      match op with
      | none =>
        let v ← expr fuel frame value
        writeVariable frame name v
        return v
      | some op =>
        let old ← readVariable (invoke fuel) frame name
        let v ← binary (invoke fuel) op old (← expr fuel frame value)
        writeVariable frame name v
        return v
    | .assign (.property base key) op value =>
      let base ← expr fuel frame base
      let key ← expr fuel frame key
      match op with
      | none =>
        let v ← expr fuel frame value
        setProperty base (← toKey (invoke fuel) key) v
        return v
      | some op =>
        let key ← toKey (invoke fuel) key
        let old ← property (invoke fuel) base key
        let v ← binary (invoke fuel) op old (← expr fuel frame value)
        setProperty base key v
        return v
    | .assign .. => fail .syntaxError "invalid assignment left-hand side"
    | .count (.name name) up after =>
      let old ← primitive (invoke fuel) .number (← readVariable (invoke fuel) frame name)
      let (old, new) ← counted old up
      writeVariable frame name new
      return if after then new else old
    | .count (.property base key) up after =>
      let base ← expr fuel frame base
      let key ← toKey (invoke fuel) (← expr fuel frame key)
      let old ← primitive (invoke fuel) .number (← property (invoke fuel) base key)
      let (old, new) ← counted old up
      setProperty base key new
      return if after then new else old
    | .count .. => fail .syntaxError "invalid assignment left-hand side"
    | .sequence first second =>
      let _ ← expr fuel frame first
      expr fuel frame second

/-- Adds a member to an object. -/
def member : (fuel : Nat) → Frame → (place : Nat) → Member → Eval Unit
  | 0, _, _, _ => fail .range "Maximum call stack size exceeded"
  | fuel + 1, frame, place, m => do
    match m with
    | .value key value =>
      let k ← toKey (invoke fuel) (← expr fuel frame key)
      define place k (.value (← expr fuel frame value)) true
    | .getter key f =>
      let k ← toKey (invoke fuel) (← expr fuel frame key)
      define place k (.getter (← closureOf frame f)) true
    | .spread value => assignFrom (invoke fuel) (.object place) (← expr fuel frame value)

/-- What a call of a function gives. -/
def invoke : (fuel : Nat) → (f this : Value) → (args : List Value) → Eval Value
  | 0, _, _, _ => fail .range "Maximum call stack size exceeded"
  | fuel + 1, f, this, args => do
    match ← kindOf f with
    | some (.native native) => native.run (invoke fuel) false this args
    | some (.closure f scopes outer) =>
      let params := (f.params.zip (List.range f.params.length)).map fun (name, i) =>
        (name, (⟨some (args.getD i .undefined), false⟩ : Variable))
      let frame ← enterBlock ⟨scopes, if f.isArrow then outer else this⟩ true params f.body
      match ← inOrder (stmt fuel frame) f.body with
      | .leave v => return v
      | _ => return .undefined
    | _ => fail .type "not a function"

/-- The object that a function makes. -/
def construct : (fuel : Nat) → (f : Value) → (args : List Value) → Eval Value
  | 0, _, _ => fail .range "Maximum call stack size exceeded"
  | fuel + 1, f, args => do
    match ← kindOf f with
    | some (.native native) => native.run (invoke fuel) true .undefined args
    | some (.closure (.mk _ _ _ _ false) _ _) =>
      let parent ← match ← named (invoke fuel) f "prototype" with
        | .object place => pure place
        | _ => pure Place.object
      let made ← newObject .plain parent
      match ← invoke fuel f made args with
      | .object place => return .object place
      | _ => return made
    | some (.closure ..) => fail .type "not a constructor"
    | _ => fail .type "not a constructor"

/-- The end of a block. -/
def block : (fuel : Nat) → Frame → (first : Scope) → List Stmt → Eval Completion
  | 0, _, _, _ => fail .range "Maximum call stack size exceeded"
  | fuel + 1, frame, first, body => do
    let frame ← enterBlock frame false first body
    inOrder (stmt fuel frame) body

/-- The end of a statement. -/
def stmt : (fuel : Nat) → Frame → Stmt → Eval Completion
  | 0, _, _ => fail .range "Maximum call stack size exceeded"
  | fuel + 1, frame, s => do
    match s with
    | .expr e =>
      let _ ← expr fuel frame e
      return .next
    | .declare kind bindings =>
      for (name, value) in bindings do
        match value with
        | some e => declareVariable frame kind name (← expr fuel frame e)
        | none => if kind ≠ .var then declareVariable frame kind name .undefined
      return .next
    | .function _ => return .next
    | .leave none => return .leave .undefined
    | .leave (some e) => return .leave (← expr fuel frame e)
    | .throw e => throw (← expr fuel frame e)
    | .choose test yes no =>
      if truth (← expr fuel frame test) then block fuel frame [] yes else block fuel frame [] no
    | .loop start test update body =>
      let isFresh := !(blockVariables start).isEmpty
      let outer ← enterBlock frame false [] start
      let _ ← inOrder (stmt fuel outer) start
      let round := fun (frame : Frame) => do
        let goesOn ← match test with
          | some e => truth <$> expr fuel frame e
          | none => pure true
        if !goesOn then return Except.error Completion.next
        match afterBody (← block fuel frame [] body) with
        | some ended => return .error ended
        | none =>
          let frame ← nextRound frame isFresh
          match update with
          | some e => let _ ← expr fuel frame e
          | none => pure ()
          return .ok frame
      repeatRounds round outer
    | .doWhile body test =>
      let round := fun (frame : Frame) => do
        match afterBody (← block fuel frame [] body) with
        | some ended => return Except.error ended
        | none =>
          if truth (← expr fuel frame test) then return .ok frame
          return .error Completion.next
      repeatRounds round frame
    | .block body => block fuel frame [] body
    | .guarded body handler final =>
      let first ← attempt (block fuel frame [] body)
      let second ← match first, handler with
        | .error v, .present name body =>
          let scope := name.toList.map fun name => (name, (⟨some v, false⟩ : Variable))
          attempt (block fuel frame scope body)
        | _, _ => pure first
      match ← block fuel frame [] final with
      | .next =>
        match second with
        | .ok ended => return ended
        | .error v => throw v
      | ended => return ended
    | .stop => return .stop
    | .skip => return .skip

end
end Eval

end Sandbox.JavaScript
