import Sandbox.JavaScript.Syntax

/-!
# Values of scripts

Values that are no objects stand for themselves; an object is a place in the heap. A script works on
the heap, on the scopes of its variables and on the lines that it shows; it gives a value or throws
one.

## Main definitions

* `Value` : values.
* `Object`, `ObjectKind`, `Property` : what the heap holds.
* `Machine` : the state of a running script.
* `Eval` : parts of a run.
-/

namespace Sandbox.JavaScript

/-- A value. -/
inductive Value where
  /-- No value. -/
  | undefined
  /-- The value for no object. -/
  | null
  /-- A truth value. -/
  | bool (b : Bool)
  /-- A number. -/
  | number (n : Float)
  /-- An integer of any size. -/
  | bigint (n : Int)
  /-- A text. -/
  | string (units : Units)
  /-- A symbol, by its number. -/
  | symbol (id : Nat)
  /-- An object, by its place in the heap. -/
  | object (place : Nat)

instance : Inhabited Value := ⟨.undefined⟩

/-- The key of a property. -/
inductive Key where
  /-- A text. -/
  | name (units : Units)
  /-- A symbol. -/
  | symbol (id : Nat)
  deriving DecidableEq, Repr

/-- The key that is a text. -/
def Key.ofText (text : String) : Key :=
  .name (Units.ofText text)

/-- What a property holds. -/
inductive Slot where
  /-- A value. -/
  | value (v : Value)
  /-- A function that computes the value. -/
  | getter (f : Value)

/-- A property. -/
structure Property where
  /-- What it holds. -/
  slot : Slot
  /-- Whether it is listed. -/
  isListed : Bool

/-- The classes of errors. -/
inductive ErrorClass where
  | error | eval | range | reference | syntaxError | type | uri
  deriving DecidableEq, Repr

/-- The name of a class of errors. -/
def ErrorClass.name : ErrorClass → String
  | error => "Error"
  | eval => "EvalError"
  | range => "RangeError"
  | reference => "ReferenceError"
  | syntaxError => "SyntaxError"
  | type => "TypeError"
  | uri => "URIError"

/-- All classes of errors. -/
def ErrorClass.all : List ErrorClass :=
  [error, eval, range, reference, syntaxError, type, uri]

/-- Functions that are there before a script runs. -/
inductive Native where
  | print
  | objectOf | objectAssign | objectCreate | objectKeys | objectToString | objectValueOf | hasOwn
  | functionCall | functionApply | functionToString
  | arrayOf | arrayIsArray | arrayPush | arrayPop | arrayJoin | arrayFill | arraySlice | arrayConcat
  | arrayIndexOf | arrayIncludes | arrayMap | arrayForEach | arrayFilter | arrayReduce
  | stringOf | stringFromCharCode | stringRepeat | stringValue | stringToUpperCase
  | stringToLowerCase | stringIncludes | stringCharAt | stringIndexOf | stringSlice
  | numberOf | numberToFixed | numberToString | numberValue | numberIsInteger
  | booleanOf | booleanToString | booleanValue
  | symbolOf | symbolToString
  | bigintOf | bigintToString
  | errorOf (cls : ErrorClass) | errorToString
  | dateOf | dateToISOString | dateToJSON | dateToString | dateValue
  | regexToString
  | mapOf | setOf
  | promiseResolve | promiseThen
  | jsonStringify | jsonParse
  | mathMax | mathMin | mathFloor | mathAbs | mathPow
  deriving DecidableEq, Repr

/-- What an object is. -/
inductive ObjectKind where
  /-- Nothing but its properties. -/
  | plain
  /-- A list of values. -/
  | array (items : Array Value)
  /-- A function of the script, with the scopes around it and the object that an arrow function
  takes from there. -/
  | closure (f : Function) (scopes : List Nat) (this : Value)
  /-- A function that is there before. -/
  | native (f : Native)
  /-- An error. -/
  | error
  /-- A time in milliseconds. -/
  | date (time : Float)
  /-- A value as an object. -/
  | boxed (v : Value)
  /-- A pattern. -/
  | regex (body flags : String)
  /-- An object of a kind that has only a name. -/
  | named (name : String)

/-- An object. -/
structure Object where
  /-- The object that gives properties that it does not have itself. -/
  parent : Option Nat
  /-- What it is. -/
  kind : ObjectKind
  /-- Its own properties, in order of insertion. -/
  properties : List (Key × Property)

instance : Inhabited Object := ⟨⟨none, .plain, []⟩⟩

/-- A variable. Before its declaration is reached it has no value. -/
structure Variable where
  /-- The value. -/
  value : Option Value
  /-- Whether the value stays. -/
  isConstant : Bool

/-- The variables of a block. -/
abbrev Scope : Type := List (String × Variable)

/-- The state of a running script. -/
structure Machine where
  /-- The objects. -/
  heap : Array Object
  /-- The scopes. -/
  scopes : Array Scope
  /-- The descriptions of the symbols. -/
  symbols : Array (Option Units)
  /-- The lines shown so far. -/
  lines : Array String

/-- A part of a run, which gives a value or throws one. -/
abbrev Eval (α : Type) : Type := ExceptT Value (StateM Machine) α

/-- Calls a function on an object with arguments. -/
abbrev Call : Type := (f this : Value) → List Value → Eval Value

/-! ### Places of objects that are there before -/

namespace Place

/-- The object that all others get properties from. -/
def object : Nat := 0

/-- The object that functions get properties from. -/
def function : Nat := 1

/-- The object that arrays get properties from. -/
def array : Nat := 2

/-- The object that texts get properties from. -/
def string : Nat := 3

/-- The object that numbers get properties from. -/
def number : Nat := 4

/-- The object that truth values get properties from. -/
def boolean : Nat := 5

/-- The object that symbols get properties from. -/
def symbol : Nat := 6

/-- The object that integers of any size get properties from. -/
def bigint : Nat := 7

/-- The object that times get properties from. -/
def date : Nat := 8

/-- The object that patterns get properties from. -/
def regex : Nat := 9

/-- The object that maps get properties from. -/
def map : Nat := 10

/-- The object that sets get properties from. -/
def set : Nat := 11

/-- The object that promises get properties from. -/
def promise : Nat := 12

/-- The object whose properties are the variables that every script sees. -/
def global : Nat := 13

/-- The object that errors of a class get properties from. -/
def error : ErrorClass → Nat
  | .error => 14
  | .eval => 15
  | .range => 16
  | .reference => 17
  | .syntaxError => 18
  | .type => 19
  | .uri => 20

end Place

/-! ### The heap -/

namespace Eval

/-- A new object. -/
def allocate (o : Object) : Eval Value := do
  let m ← get
  set { m with heap := m.heap.push o }
  return .object m.heap.size

/-- The object at a place. -/
def objectAt (place : Nat) : Eval Object := do
  return (← get).heap.getD place default

/-- Changes the object at a place. -/
def change (place : Nat) (f : Object → Object) : Eval Unit :=
  modify fun m => { m with heap := m.heap.modify place f }

/-- A new object without properties. -/
def newObject (kind : ObjectKind) (parent : Nat) : Eval Value :=
  allocate ⟨some parent, kind, []⟩

/-- A new array. -/
def newArray (items : List Value) : Eval Value :=
  newObject (.array items.toArray) Place.array

/-- A text as a value. -/
def text (s : String) : Value :=
  .string (Units.ofText s)

/-- A new error. -/
def newError (cls : ErrorClass) (message : Option Units) : Eval Value :=
  let own := match message with
    | some message => [(Key.ofText "message", (⟨.value (.string message), false⟩ : Property))]
    | none => []
  let stack := (Key.ofText "stack", (⟨.value (text "    at <anonymous>\n"), false⟩ : Property))
  allocate ⟨some (Place.error cls), .error, own ++ [stack]⟩

/-- Throws a new error. -/
def fail {α : Type} (cls : ErrorClass) (message : String) : Eval α := do
  throw (← newError cls (some (Units.ofText message)))

/-- What an object is, if a value is one. -/
def kindOf (v : Value) : Eval (Option ObjectKind) := do
  match v with
  | .object place => return some (← objectAt place).kind
  | _ => return none

/-- Whether a value is a function. -/
def isFunction (v : Value) : Eval Bool := do
  match ← kindOf v with
  | some (.closure ..) | some (.native _) => return true
  | _ => return false

end Eval

/-- The property list with a property: in place of the earlier one, or at the end. -/
def putProperty (key : Key) (p : Property) : List (Key × Property) → List (Key × Property)
  | [] => [(key, p)]
  | (k, q) :: rest => if k = key then (key, p) :: rest else (k, q) :: putProperty key p rest

/-- The property of a key. -/
def findProperty (key : Key) (properties : List (Key × Property)) : Option Property :=
  (properties.find? fun entry => entry.1 = key).map Prod.snd

/-- The number that a key spells, if it is one below `2 ^ 32` in its usual form. -/
def indexOf? (key : Key) : Option Nat :=
  match key with
  | .symbol _ => none
  | .name units =>
    let isDigit := fun u : UInt16 => decide (0x30 ≤ u) && decide (u ≤ 0x39)
    if units.isEmpty || !units.all isDigit || decide (10 < units.length) ||
        (units.head? == some 0x30 && decide (1 < units.length)) then none
    else
      let n := units.foldl (fun n u => n * 10 + (u.toNat - 0x30)) 0
      if n < 0x100000000 then some n else none

end Sandbox.JavaScript
