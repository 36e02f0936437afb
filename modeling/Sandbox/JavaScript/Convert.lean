import Sandbox.Decimal.Shortest
import Sandbox.JavaScript.Token
import Sandbox.JavaScript.Value

/-!
# Conversions between values

## Main definitions

* `numberText`, `textNumber` : numbers as texts and back.
* `Eval.property`, `Eval.setProperty` : the properties of values.
* `Eval.primitive`, `Eval.toUnits`, `Eval.toNumber`, `Eval.toKey` : conversions, which may call
  functions of the script.
* `Eval.binary` : operators with two operands.
-/

namespace Sandbox.JavaScript

/-! ### Numbers -/

/-- Numbers are written without exponent from a millionth up to `10 ^ 21`. -/
def numberStyle : Decimal.NumberStyle :=
  ⟨-5, 21, false, true⟩

/-- The bits of a number without its sign. -/
def magnitudeBits (x : Float) : Nat :=
  x.abs.toBits.toNat

/-- Whether a number has a sign. -/
def isNegative (x : Float) : Bool :=
  decide (0x8000000000000000 ≤ x.toBits.toNat)

/-- A number as a text. -/
def numberText (x : Float) : String :=
  if x.isNaN then "NaN"
  else if x == 0.0 then "0"
  else
    let magnitude :=
      if x.isInf then "Infinity"
      else numberStyle.render (Decimal.shortest (Decimal.Binary.ofBits (magnitudeBits x)))
    if isNegative x then "-" ++ magnitude else magnitude

/-- The number nearest to an integer. -/
def numberOfInt (n : Int) : Float :=
  if n < 0 then -(Float.ofScientific n.natAbs false 0) else Float.ofScientific n.natAbs false 0

/-- The integer that is left of a number without its fraction, if it is finite. -/
def truncate? (x : Float) : Option Int :=
  if x.isNaN || x.isInf then none
  else
    let b := Decimal.Binary.ofBits (magnitudeBits x)
    let n : Nat :=
      if 0 ≤ b.exponent then b.mantissa * Nat.pow 2 b.exponent.toNat
      else b.mantissa / Nat.pow 2 (-b.exponent).toNat
    some (if isNegative x then -(n : Int) else n)

/-- The integer that is left of a number without its fraction, or zero. -/
def truncated (x : Float) : Int :=
  (truncate? x).getD 0

/-- The number of a sign. -/
def withSign (negative : Bool) (x : Float) : Float :=
  if negative then -x else x

/-- The number that is not one. -/
def notANumber : Float := 0.0 / 0.0

/-- The number beyond all others. -/
def infinity : Float := 1.0 / 0.0

/-- The number that characters without a sign spell. -/
def unsignedNumber? (cs : List Char) : Option Float :=
  match cs with
  | [] => none
  | c :: _ =>
    if cs == "Infinity".toList then some infinity
    else if (c.isDigit || c == '.') && cs.any Char.isDigit && !cs.contains '_' then
      match Lexer.number cs with
      | (.number x, []) => some x
      | _ => none
    else none

/-- The number that a text spells; blanks around it do not count, and nothing spells zero. -/
def textNumber (units : Units) : Float :=
  match units.toText? with
  | none => notANumber
  | some text =>
    let cs := ((text.toList.dropWhile Lexer.isGap).reverse.dropWhile Lexer.isGap).reverse
    match cs with
    | [] => 0.0
    | '-' :: rest => ((unsignedNumber? rest).map (-·)).getD notANumber
    | '+' :: rest => (unsignedNumber? rest).getD notANumber
    | _ => (unsignedNumber? cs).getD notANumber

/-- The integer that a text spells. -/
def textInteger? (units : Units) : Option Int := do
  let text ← units.toText?
  let cs := ((text.toList.dropWhile Lexer.isGap).reverse.dropWhile Lexer.isGap).reverse
  let natural? := fun (digits : List Char) =>
    if digits.isEmpty || !digits.all Char.isDigit then none
    else some (Lexer.spelled 10 digits : Int)
  match cs with
  | [] => some 0
  | '-' :: digits => (natural? digits).map (-·)
  | '+' :: digits => natural? digits
  | digits => natural? digits

/-- The remainder of a division, with the sign of the first number. -/
def remainder (x y : Float) : Float :=
  if x.isNaN || y.isNaN || x.isInf || y == 0.0 then notANumber
  else if y.isInf || x == 0.0 then x
  else
    let a := Decimal.Binary.ofBits (magnitudeBits x)
    let b := Decimal.Binary.ofBits (magnitudeBits y)
    let least := min a.exponent b.exponent
    let n := a.mantissa * Nat.pow 2 (a.exponent - least).toNat
    let d := b.mantissa * Nat.pow 2 (b.exponent - least).toNat
    withSign (isNegative x) (Float.scaleB (numberOfInt (n % d : Nat)) least)

/-- The integer of 32 bits with sign that is left of a number. -/
def toInt32 (x : Float) : Int :=
  Int.bmod (truncated x) 0x100000000

/-! ### Types -/

/-- The name of the type of a value that is no function. -/
def typeName : Value → String
  | .undefined => "undefined"
  | .null => "object"
  | .bool _ => "boolean"
  | .number _ => "number"
  | .bigint _ => "bigint"
  | .string _ => "string"
  | .symbol _ => "symbol"
  | .object _ => "object"

/-- Whether a value counts as true. -/
def truth : Value → Bool
  | .undefined | .null => false
  | .bool b => b
  | .number x => !(x.isNaN || x == 0.0)
  | .bigint n => n != 0
  | .string units => !units.isEmpty
  | .symbol _ | .object _ => true

/-- Whether two values are the same. -/
def sameValue : Value → Value → Bool
  | .undefined, .undefined => true
  | .null, .null => true
  | .bool a, .bool b => a == b
  | .number a, .number b => a == b
  | .bigint a, .bigint b => a == b
  | .string a, .string b => a == b
  | .symbol a, .symbol b => a == b
  | .object a, .object b => a == b
  | _, _ => false

/-- The longest text that there may be. -/
def longestText : Nat := 0x3FFFFFFF

/-- The number of bytes that a script may use. -/
def memoryLimit : Nat := 64 * 1024 * 1024

namespace Eval

/-- The text of a key in a message. -/
def shownKey : Key → String
  | .name units => (units.toText?).getD "?"
  | .symbol _ => "[symbol]"

/-! ### Properties -/

/-- The own property of an object that is not in its list, if there is one. -/
def inherent (kind : ObjectKind) (key : Key) : Option Value :=
  match kind with
  | .array items =>
    match indexOf? key with
    | some i => items[i]?
    | none => if key = Key.ofText "length" then some (.number (Lexer.floatOf items.size)) else none
  | .boxed (.string units) =>
    match indexOf? key with
    | some i => units[i]?.map fun u => .string [u]
    | none =>
    if key = Key.ofText "length" then some (.number (Lexer.floatOf units.length)) else none
  | .closure f _ _ =>
    if key = Key.ofText "name" then some (text (f.name.getD ""))
    else if key = Key.ofText "length" then some (.number (Lexer.floatOf f.params.length))
    else none
  | _ => none

/-- The property of an object or of one of those it gets properties from. -/
def find (key : Key) : (fuel : Nat) → (place : Nat) → Eval (Option Slot)
  | 0, _ => return none
  | fuel + 1, place => do
    let o ← objectAt place
    match inherent o.kind key with
    | some v => return some (.value v)
    | none =>
      match findProperty key o.properties with
      | some p => return some p.slot
      | none =>
        match o.parent with
        | some parent => find key fuel parent
        | none => return none

/-- The object that a value gets properties from, or the value itself if it is an object. -/
def lookupPlace : Value → Option Nat
  | .undefined | .null => none
  | .bool _ => some Place.boolean
  | .number _ => some Place.number
  | .bigint _ => some Place.bigint
  | .string _ => some Place.string
  | .symbol _ => some Place.symbol
  | .object place => some place

/-- The value of a property. -/
def property (call : Call) (base : Value) (key : Key) : Eval Value := do
  match lookupPlace base with
  | none =>
    fail .type ("cannot read property '" ++ shownKey key ++ "' of " ++
      (match base with | .null => "null" | _ => "undefined"))
  | some place =>
    let own := match base with
      | .string _ => inherent (.boxed base) key
      | _ => none
    match own with
    | some v => return v
    | none =>
      match ← find key ((← get).heap.size + 1) place with
      | some (.value v) => return v
      | some (.getter f) => call f base []
      | none => return .undefined

/-- The value of a property with a fixed key. -/
def named (call : Call) (base : Value) (key : String) : Eval Value :=
  property call base (Key.ofText key)

/-- The list of values with another value at an index. -/
def putItem (items : Array Value) (i : Nat) (v : Value) : Array Value :=
  if i < items.size then items.setIfInBounds i v
  else (items ++ Array.replicate (i - items.size) Value.undefined).push v

/-- Gives an object a property of its own. -/
def define (place : Nat) (key : Key) (slot : Slot) (isListed : Bool) : Eval Unit := do
  match (← objectAt place).kind, indexOf? key, slot with
  | .array items, some i, .value v =>
    if i ≤ items.size + 1024 * 1024 then
      change place fun o => { o with kind := .array (putItem items i v) }
  | _, _, _ =>
    change place fun o => { o with properties := putProperty key ⟨slot, isListed⟩ o.properties }

/-- Sets a property. -/
def setProperty (base : Value) (key : Key) (v : Value) : Eval Unit := do
  match base with
  | .object place =>
    let o ← objectAt place
    match o.kind, decide (key = Key.ofText "length"), v with
    | .array items, true, .number x =>
      change place fun o => { o with kind := .array (items.take (truncated x).toNat) }
    | _, _, _ =>
      match findProperty key o.properties with
      | some ⟨.value _, isListed⟩ => define place key (.value v) isListed
      | some ⟨.getter _, _⟩ => fail .type "no setter for property"
      | none =>
        match ← find key ((← get).heap.size + 1) place with
        | some (.getter _) => fail .type "no setter for property"
        | _ => define place key (.value v) true
  | .undefined | .null =>
    fail .type ("cannot set property '" ++ shownKey key ++ "' of " ++
      (match base with | .null => "null" | _ => "undefined"))
  | _ => fail .type "not an object"

/-- The keys of an object that are texts, with whether they are listed: numbers in ascending order,
then the others in order of insertion. -/
def ownKeys (o : Object) : List (Units × Bool) :=
  let items := match o.kind with
    | .array items => (List.range items.size).map fun i => (Units.ofText (toString i), true)
    | .boxed (.string units) =>
      (List.range units.length).map fun i => (Units.ofText (toString i), true)
    | _ => []
  let named := o.properties.filterMap fun (key, p) =>
    match key with
    | .name units => some (units, p.isListed)
    | .symbol _ => none
  let index := fun (entry : Units × Bool) => indexOf? (.name entry.1)
  let numbers := (named.filter fun entry => (index entry).isSome).mergeSort
    fun a b => decide ((index a).getD 0 ≤ (index b).getD 0)
  items ++ numbers ++ named.filter fun entry => (index entry).isNone

/-- The keys of an object that are texts and listed. -/
def listedKeys (o : Object) : List Units :=
  ((ownKeys o).filter Prod.snd).map Prod.fst

/-! ### Conversions -/

/-- What an object is converted to by preference. -/
inductive Hint where
  /-- A text. -/
  | text
  /-- A number. -/
  | number
  /-- Neither. -/
  | default
  deriving DecidableEq, Repr

/-- The first value that is no object among those that methods of an object give. -/
def firstPrimitive (call : Call) (v : Value) : List String → Eval Value
  | [] => fail .type "toPrimitive"
  | method :: methods => do
    let f ← named call v method
    if ← isFunction f then
      match ← call f v [] with
      | .object _ => firstPrimitive call v methods
      | result => return result
    else firstPrimitive call v methods

/-- A value that is no object for a value. -/
def primitive (call : Call) (hint : Hint) (v : Value) : Eval Value := do
  match ← kindOf v with
  | none => return v
  | some (.boxed (.symbol id)) => return .symbol id
  | some (.date _) =>
    firstPrimitive call v
      (if hint = .number then ["valueOf", "toString"] else ["toString", "valueOf"])
  | some _ =>
    firstPrimitive call v
      (if hint = .text then ["toString", "valueOf"] else ["valueOf", "toString"])

/-- The text of a value that is no object. -/
def primitiveUnits (v : Value) : Eval Units := do
  match v with
  | .undefined => return Units.ofText "undefined"
  | .null => return Units.ofText "null"
  | .bool b => return Units.ofText (if b then "true" else "false")
  | .number x => return Units.ofText (numberText x)
  | .bigint n => return Units.ofText (toString n)
  | .string units => return units
  | .symbol _ => fail .type "cannot convert symbol to string"
  | .object _ => fail .type "toPrimitive"

/-- The text of a value. -/
def toUnits (call : Call) (v : Value) : Eval Units := do
  primitiveUnits (← primitive call .text v)

/-- The number of a value that is no object. -/
def primitiveNumber (v : Value) : Eval Float := do
  match v with
  | .undefined => return notANumber
  | .null => return 0.0
  | .bool b => return if b then 1.0 else 0.0
  | .number x => return x
  | .bigint _ => fail .type "cannot convert bigint to number"
  | .string units => return textNumber units
  | .symbol _ => fail .type "cannot convert symbol to number"
  | .object _ => fail .type "toPrimitive"

/-- The number of a value. -/
def toNumber (call : Call) (v : Value) : Eval Float := do
  primitiveNumber (← primitive call .number v)

/-- The key of a value. -/
def toKey (call : Call) (v : Value) : Eval Key := do
  match ← primitive call .text v with
  | .symbol id => return .symbol id
  | p => return .name (← primitiveUnits p)

/-! ### Operators -/

/-- Two texts in a row. -/
def concatenate (a b : Units) : Eval Value := do
  if memoryLimit < a.length + b.length then fail .error "out of memory"
  return .string (a ++ b)

/-- An operator on integers of any size. -/
def integers (op : BinaryOp) (a b : Int) : Eval Value := do
  match op with
  | .add => return .bigint (a + b)
  | .sub => return .bigint (a - b)
  | .mul => return .bigint (a * b)
  | .div => if b = 0 then fail .range "BigInt division by zero" else return .bigint (a.tdiv b)
  | .rem => if b = 0 then fail .range "BigInt division by zero" else return .bigint (a.tmod b)
  | .pow =>
    if b < 0 then fail .range "BigInt negative exponent"
    else if 100000 < b then fail .range "BigInt is too large to allocate"
    else return .bigint (Int.pow a b.toNat)
  | _ => fail .type "unsupported operation"

/-- An operator on numbers. -/
def numbers (op : BinaryOp) (a b : Float) : Value :=
  let bits := fun (f : Nat → Nat → Nat) =>
    Value.number (numberOfInt (Int.bmod
      (f (toInt32 a % 0x100000000).toNat (toInt32 b % 0x100000000).toNat : Nat) 0x100000000))
  let amount := (toInt32 b % 32).toNat
  match op with
  | .add => .number (a + b)
  | .sub => .number (a - b)
  | .mul => .number (a * b)
  | .div => .number (a / b)
  | .rem => .number (remainder a b)
  | .pow => .number (if b.isNaN || (a.abs == 1.0 && b.isInf) then notANumber else Float.pow a b)
  | .bitAnd => bits (· &&& ·)
  | .bitOr => bits (· ||| ·)
  | .bitXor => bits (· ^^^ ·)
  | .shiftLeft => .number (numberOfInt (Int.bmod (toInt32 a * Nat.pow 2 amount) 0x100000000))
  | .shiftRight => .number (numberOfInt (toInt32 a / Nat.pow 2 amount))
  | .shiftRightZero => .number (numberOfInt ((toInt32 a % 0x100000000) / Nat.pow 2 amount))
  | _ => .undefined

/-- An operator of arithmetic. -/
def arithmetic (call : Call) (op : BinaryOp) (a b : Value) : Eval Value := do
  let a ← primitive call .number a
  let b ← primitive call .number b
  match a, b with
  | .bigint m, .bigint n => integers op m n
  | .bigint _, _ | _, .bigint _ => fail .type "cannot convert to BigInt"
  | _, _ => return numbers op (← primitiveNumber a) (← primitiveNumber b)

/-- The sum of two values, or their texts in a row. -/
def sum (call : Call) (a b : Value) : Eval Value := do
  let a ← primitive call .default a
  let b ← primitive call .default b
  match a, b with
  | .string _, _ | _, .string _ => concatenate (← primitiveUnits a) (← primitiveUnits b)
  | _, _ => arithmetic call .add a b

/-- Whether a list of units stands before another. -/
def unitsLess : Units → Units → Bool
  | _, [] => false
  | [], _ :: _ => true
  | u :: us, v :: vs => if u = v then unitsLess us vs else decide (u < v)

/-- A comparison of values: by units, or as numbers. -/
def compare (call : Call) (texts : Units → Units → Bool) (numbers : Float → Float → Bool)
    (a b : Value) : Eval Value := do
  let a ← primitive call .number a
  let b ← primitive call .number b
  match a, b with
  | .string m, .string n => return .bool (texts m n)
  | .bigint m, .bigint n => return .bool (numbers (numberOfInt m) (numberOfInt n))
  | .bigint m, _ => return .bool (numbers (numberOfInt m) (← primitiveNumber b))
  | _, .bigint n => return .bool (numbers (← primitiveNumber a) (numberOfInt n))
  | _, _ => return .bool (numbers (← primitiveNumber a) (← primitiveNumber b))

/-- Whether two values are equal once they are converted. -/
def looselyEqual (call : Call) (a b : Value) : Eval Bool := do
  match a, b with
  | .undefined, .null | .null, .undefined => return true
  | .undefined, _ | _, .undefined | .null, _ | _, .null => return sameValue a b
  | .object _, .object _ => return sameValue a b
  | _, _ =>
    let a ← primitive call .default a
    let b ← primitive call .default b
    match a, b with
    | .string m, .string n => return m == n
    | .symbol m, .symbol n => return m == n
    | .symbol _, _ | _, .symbol _ => return false
    | .bigint m, .bigint n => return m == n
    | .bigint m, _ => return numberOfInt m == (← primitiveNumber b)
    | _, .bigint n => return (← primitiveNumber a) == numberOfInt n
    | _, _ => return (← primitiveNumber a) == (← primitiveNumber b)

/-- Whether an object gets properties from a place. -/
def descends (target : Nat) : (fuel : Nat) → Option Nat → Eval Bool
  | 0, _ => return false
  | _, none => return false
  | fuel + 1, some place => do
    if place = target then return true
    descends target fuel (← objectAt place).parent

/-- An operator with two operands. -/
def binary (call : Call) (op : BinaryOp) (a b : Value) : Eval Value := do
  match op with
  | .add => sum call a b
  | .strictEq => return .bool (sameValue a b)
  | .strictNe => return .bool (!sameValue a b)
  | .looseEq => return .bool (← looselyEqual call a b)
  | .looseNe => return .bool (!(← looselyEqual call a b))
  | .less => compare call unitsLess (· < ·) a b
  | .greater => compare call (fun m n => unitsLess n m) (· > ·) a b
  | .lessEq => compare call (fun m n => !unitsLess n m) (· ≤ ·) a b
  | .greaterEq => compare call (fun m n => !unitsLess m n) (· ≥ ·) a b
  | .instanceOf =>
    if !(← isFunction b) then fail .type "invalid 'instanceof' right operand"
    match a, ← named call b "prototype" with
    | .object place, .object target =>
      return .bool (← descends target ((← get).heap.size + 1) (← objectAt place).parent)
    | _, _ => return .bool false
  | .isIn =>
    match b with
    | .object place =>
      return .bool (← find (← toKey call a) ((← get).heap.size + 1) place).isSome
    | _ => fail .type "invalid 'in' operand"
  | _ => arithmetic call op a b

end Eval

end Sandbox.JavaScript
