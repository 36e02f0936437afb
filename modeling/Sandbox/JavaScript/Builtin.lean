import Sandbox.JavaScript.JsonText
import Sandbox.JavaScript.Time
import Sandbox.Text.Lowercase

/-!
# Functions that are there before a script runs

## Main definitions

* `Eval.shown` : the text of a value as the console shows it.
* `Native.run` : what each function does.
* `Machine.start` : the state before a script runs.
-/

namespace Sandbox.JavaScript

namespace Eval

/-- What a part of a run gives or throws. -/
def attempt {α : Type} (x : Eval α) : Eval (Except Value α) :=
  tryCatch (Except.ok <$> x) fun v => return .error v

/-! ### The console -/

/-- What is shown for a value that has no text. -/
def unprintable : String := "[unprintable]"

/-- The text of a value, as the console shows it: objects as JSON, and what has no JSON by its
text. -/
def shown (call : Call) (v : Value) : Eval String := do
  let asJson ← match v with
    | .object _ => if ← isFunction v then pure none else
        match ← attempt (toJson call v) with
        | .ok (some units) => pure units.toText?
        | _ => pure none
    | _ => pure none
  match asJson with
  | some text => return text
  | none =>
    match ← attempt (toUnits call v) with
    | .ok units => return (units.toText?).getD unprintable
    | .error _ => return unprintable

/-- Shows a line. -/
def showLine (call : Call) (args : List Value) : Eval Value := do
  let texts ← args.mapM (shown call)
  modify fun m => { m with lines := m.lines.push (" ".intercalate texts) }
  return .undefined

/-! ### Parts of functions -/

/-- The object for a value. -/
def toObject (v : Value) : Eval Value := do
  match v with
  | .object _ => return v
  | .undefined | .null => fail .type "cannot convert to object"
  | _ => newObject (.boxed v) ((lookupPlace v).getD Place.object)

/-- The value that is boxed in an object, or the value itself. -/
def inside (v : Value) : Eval Value := do
  match ← kindOf v with
  | some (.boxed inner) => return inner
  | _ => return v

/-- The items of an array. -/
def itemsOf (v : Value) : Eval (List Value) := do
  match ← kindOf v with
  | some (.array items) => return items.toList
  | _ => return []

/-- The integer of an argument, or a default if it is left out. -/
def integerArg (call : Call) (args : List Value) (place : Nat) (default : Int) : Eval Int := do
  match args.getD place .undefined with
  | .undefined => return default
  | v => return truncated (← toNumber call v)

/-- A place counted from the front, or from the back if it is negative, within a length. -/
def clamped (length : Nat) (n : Int) : Nat :=
  if n < 0 then (length + n).toNat else min n.toNat length

/-- The texts of values with a text between them. -/
def joined (call : Call) (mark : Units) (items : List Value) : Eval Units := do
  let texts ← items.mapM fun item => match item with
    | .undefined | .null => pure []
    | _ => toUnits call item
  return match texts with
    | [] => []
    | first :: rest => first ++ rest.flatMap fun text => mark ++ text

/-- Copies the listed properties of an object to another. -/
def assignFrom (call : Call) (target source : Value) : Eval Unit := do
  match source with
  | .object place =>
    let o ← objectAt place
    for key in listedKeys o do
      setProperty target (.name key) (← property call source (.name key))
    for (key, p) in o.properties do
      match key with
      | .symbol _ => if p.isListed then setProperty target key (← property call source key)
      | .name _ => pure ()
  | .string _ =>
    match ← toObject source with
    | .object place =>
      for key in listedKeys (← objectAt place) do
        setProperty target (.name key) (← property call source (.name key))
    | _ => pure ()
  | _ => pure ()

/-- The description of a symbol. -/
def describe (id : Nat) : Eval Units := do
  return Units.ofText "Symbol(" ++ (((← get).symbols.getD id none).getD []) ++ Units.ofText ")"

/-- The name of the kind of a value in its default text. -/
def kindName (v : Value) : Eval String := do
  match v with
  | .undefined => return "Undefined"
  | .null => return "Null"
  | .bool _ => return "Boolean"
  | .number _ => return "Number"
  | .string _ => return "String"
  | .symbol _ => return "Symbol"
  | .bigint _ => return "BigInt"
  | .object place =>
    match (← objectAt place).kind with
    | .plain => return "Object"
    | .array _ => return "Array"
    | .closure .. | .native _ => return "Function"
    | .error => return "Error"
    | .date _ => return "Date"
    | .regex .. => return "RegExp"
    | .named name => return name
    | .boxed v =>
      return match v with
        | .bool _ => "Boolean"
        | .number _ => "Number"
        | .string _ => "String"
        | .symbol _ => "Symbol"
        | .bigint _ => "BigInt"
        | _ => "Object"

/-- A number with a fixed count of digits after the point; a half goes up. -/
def fixedText (x : Float) (places : Nat) : String :=
  if x.isNaN then "NaN"
  else if x.abs ≥ 1e21 then numberText x
  else
    let b := Decimal.Binary.ofBits (magnitudeBits x)
    let f := Decimal.Fraction.scaleTwo b.mantissa b.exponent
    let scaled := (2 * f.num * Nat.pow 10 places + f.den) / (2 * f.den)
    let digits := Calendar.padded (places + 1) scaled
    let whole := String.ofList (digits.toList.take (digits.length - places))
    let fraction := String.ofList (digits.toList.drop (digits.length - places))
    let magnitude := if places = 0 then whole else whole ++ "." ++ fraction
    if isNegative x && scaled != 0 then "-" ++ magnitude else magnitude

/-- The number of a boxed or plain number. -/
def thisNumber (this : Value) : Eval Float := do
  match ← inside this with
  | .number x => return x
  | _ => fail .type "not a number"

/-- The time of an object. -/
def thisTime (this : Value) : Eval Float := do
  match ← kindOf this with
  | some (.date t) => return t
  | _ => fail .type "not a Date object"

/-- The integer of any size for a value. -/
def toBigint (call : Call) (v : Value) : Eval Value := do
  match ← primitive call .number v with
  | .bigint n => return .bigint n
  | .bool b => return .bigint (if b then 1 else 0)
  | .string units =>
    match textInteger? units with
    | some n => return .bigint n
    | none => fail .syntaxError "invalid BigInt literal"
  | .number x =>
    match truncate? x with
    | some n =>
      if numberOfInt n == x then return .bigint n
      else fail .range "cannot convert to BigInt: not an integer"
    | none => fail .range "cannot convert NaN or Infinity to BigInt"
  | _ => fail .type "cannot convert to BigInt"

/-- The new error that a call makes. -/
def makeError (call : Call) (cls : ErrorClass) (args : List Value) : Eval Value := do
  match args.head? with
  | none | some .undefined => newError cls none
  | some v => newError cls (some (← toUnits call v))

/-- The text of an error. -/
def errorText (call : Call) (this : Value) : Eval Units := do
  let part (key default : String) : Eval Units := do
    match ← named call this key with
    | .undefined => return Units.ofText default
    | v => toUnits call v
  let name ← part "name" "Error"
  let message ← part "message" ""
  return if name.isEmpty then message else if message.isEmpty then name
    else name ++ Units.ofText ": " ++ message

/-- The new array that a call makes. -/
def makeArray (args : List Value) : Eval Value := do
  match args with
  | [.number x] =>
    let n := truncated x
    if n < 0 ∨ 0x100000000 ≤ n ∨ !(numberOfInt n == x) then fail .range "invalid array length"
    if 1000000 < n then fail .error "out of memory"
    newArray (List.replicate n.toNat .undefined)
  | _ => newArray args

/-- A text repeated. -/
def repeated (call : Call) (units : Units) (count : Value) : Eval Value := do
  let x ← toNumber call count
  let n := truncated x
  if n < 0 ∨ x.isInf then fail .range "invalid repeat count"
  if longestText < units.length * n.toNat then fail .range "invalid string length"
  if memoryLimit < units.length * n.toNat then fail .error "out of memory"
  return .string (List.replicate n.toNat units).flatten

/-- The text that a call makes. A symbol gives its description, but no object. -/
def stringArgument (call : Call) (making : Bool) (args : List Value) : Eval Units :=
  match making, args.head? with
  | _, none => return []
  | false, some (.symbol id) => describe id
  | _, some v => toUnits call v

/-- Puts items at the end of an array. -/
def push (this : Value) (args : List Value) : Eval Value := do
  match this with
  | .object place =>
    match (← objectAt place).kind with
    | .array items =>
      change place fun o => { o with kind := .array (items ++ args) }
      return .number (Lexer.floatOf (items.size + args.length))
    | _ => fail .type "not an array"
  | _ => fail .type "not an object"

/-- What a function gives for each item with its index. -/
def eachItem (call : Call) (f this : Value) (items : List Value) : Eval (List Value) := do
  if !(← isFunction f) then fail .type "not a function"
  (items.zip (List.range items.length)).mapM fun (item, i) =>
    call f .undefined [item, .number (Lexer.floatOf i), this]

end Eval

open Eval

/-- What a function does. `making` tells whether it is asked for a new object. -/
def Native.run (f : Native) (call : Call) (making : Bool) (this : Value) (args : List Value) :
    Eval Value := do
  let arg := fun place => args.getD place .undefined
  match f with
  | print => showLine call args
  | objectOf =>
    match arg 0 with
    | .undefined | .null => newObject .plain Place.object
    | v => toObject v
  | objectAssign =>
    let target ← toObject (arg 0)
    for source in args.drop 1 do assignFrom call target source
    return target
  | objectCreate =>
    match arg 0 with
    | .null => allocate ⟨none, .plain, []⟩
    | .object place => newObject .plain place
    | _ => fail .type "not a prototype"
  | objectKeys =>
    match ← toObject (arg 0) with
    | .object place => newArray ((listedKeys (← objectAt place)).map .string)
    | _ => newArray []
  | objectToString => return text ("[object " ++ (← kindName this) ++ "]")
  | objectValueOf => toObject this
  | hasOwn =>
    let key ← toKey call (arg 0)
    match ← toObject this with
    | .object place =>
      let o ← objectAt place
      return .bool ((inherent o.kind key).isSome || (findProperty key o.properties).isSome)
    | _ => return .bool false
  | functionCall =>
    if !(← isFunction this) then fail .type "not a function"
    call this (arg 0) (args.drop 1)
  | functionApply =>
    if !(← isFunction this) then fail .type "not a function"
    call this (arg 0) (← itemsOf (arg 1))
  | functionToString =>
    match ← kindOf this with
    | some (.closure f _ _) => return text (String.ofList f.source)
    | some (.native _) =>
      let name ← toUnits call (← named call this "name")
      return .string (Units.ofText "function " ++ name ++
        Units.ofText "() \x7b\n    [native code]\n\x7d")
    | _ => fail .type "not a function"
  | arrayOf => makeArray args
  | arrayIsArray =>
    match ← kindOf (arg 0) with
    | some (.array _) => return .bool true
    | _ => return .bool false
  | arrayPush => push this args
  | arrayPop =>
    let items ← itemsOf this
    match this with
    | .object place => change place fun o => { o with kind := .array items.dropLast.toArray }
    | _ => pure ()
    return items.getLastD .undefined
  | arrayJoin =>
    let mark ← match arg 0 with
      | .undefined => pure (Units.ofText ",")
      | v => toUnits call v
    return .string (← joined call mark (← itemsOf this))
  | arrayFill =>
    let items ← itemsOf this
    match this with
    | .object place =>
      change place fun o => { o with kind := .array (items.map fun _ => arg 0).toArray }
    | _ => pure ()
    return this
  | arraySlice =>
    let items ← itemsOf this
    let start := clamped items.length (← integerArg call args 0 0)
    let stop := clamped items.length (← integerArg call args 1 items.length)
    newArray ((items.take stop).drop start)
  | arrayConcat =>
    let mut all ← itemsOf this
    for a in args do
      match ← kindOf a with
      | some (.array items) => all := all ++ items.toList
      | _ => all := all ++ [a]
    newArray all
  | arrayIndexOf =>
    let items ← itemsOf this
    match items.findIdx? (sameValue (arg 0)) with
    | some i => return .number (Lexer.floatOf i)
    | none => return .number (-1.0)
  | arrayIncludes => return .bool ((← itemsOf this).any (sameValue (arg 0)))
  | arrayMap => newArray (← eachItem call (arg 0) this (← itemsOf this))
  | arrayForEach =>
    let _ ← eachItem call (arg 0) this (← itemsOf this)
    return .undefined
  | arrayFilter =>
    let items ← itemsOf this
    let kept ← eachItem call (arg 0) this items
    newArray ((items.zip kept).filterMap fun (item, keep) => if truth keep then some item else none)
  | arrayReduce =>
    let items ← itemsOf this
    match args.drop 1, items with
    | start :: _, _ =>
      items.foldlM (fun sum item => call (arg 0) .undefined [sum, item]) start
    | [], first :: rest =>
      rest.foldlM (fun sum item => call (arg 0) .undefined [sum, item]) first
    | [], [] => fail .type "empty array"
  | stringOf =>
    let units ← stringArgument call making args
    if making then newObject (.boxed (.string units)) Place.string else return .string units
  | stringFromCharCode =>
    let units ← args.mapM fun a => do
      return UInt16.ofNat (truncated (← toNumber call a) % 65536).toNat
    return .string units
  | stringRepeat => repeated call (← toUnits call this) (arg 0)
  | stringValue =>
    match ← inside this with
    | .string units => return .string units
    | _ => fail .type "not a string"
  | stringToUpperCase =>
    return .string ((← toUnits call this).map fun u =>
      if 0x61 ≤ u ∧ u ≤ 0x7A then u - 0x20 else u)
  | stringToLowerCase =>
    let units ← toUnits call this
    return .string (match units.toText? with
      | some text => Units.ofText (Text.lowercase text)
      | none => units)
  | stringIncludes =>
    return .bool (Text.occursIn (← toUnits call (arg 0)) (← toUnits call this))
  | stringCharAt =>
    let units ← toUnits call this
    let i ← integerArg call args 0 0
    return .string (if i < 0 then [] else (units[i.toNat]?).toList)
  | stringIndexOf =>
    let units ← toUnits call this
    let part ← toUnits call (arg 0)
    match (List.range (units.length + 1)).find? fun i => Text.hasStart part (units.drop i) with
    | some i => return .number (Lexer.floatOf i)
    | none => return .number (-1.0)
  | stringSlice =>
    let units ← toUnits call this
    let start := clamped units.length (← integerArg call args 0 0)
    let stop := clamped units.length (← integerArg call args 1 units.length)
    return .string ((units.take stop).drop start)
  | numberOf =>
    let x ← match args.head? with
      | none => pure 0.0
      | some v =>
        match ← primitive call .number v with
        | .bigint n => pure (numberOfInt n)
        | p => primitiveNumber p
    if making then newObject (.boxed (.number x)) Place.number else return .number x
  | numberToFixed =>
    let x ← thisNumber this
    let places ← integerArg call args 0 0
    if places < 0 ∨ 100 < places then
      fail .range "toFixed() digits argument must be between 0 and 100"
    return text (fixedText x places.toNat)
  | numberToString =>
    let x ← thisNumber this
    let radix ← integerArg call args 0 10
    if radix < 2 ∨ 36 < radix then fail .range "radix must be between 2 and 36"
    if radix = 10 then return text (numberText x)
    let n := truncated x
    let digits := String.ofList ((Nat.toDigits radix.toNat n.natAbs))
    return text (if n < 0 then "-" ++ digits else digits)
  | numberValue => return .number (← thisNumber this)
  | numberIsInteger =>
    match arg 0 with
    | .number x =>
    return .bool (match truncate? x with
      | some n => numberOfInt n == x
      | none => false)
    | _ => return .bool false
  | booleanOf =>
    if making then newObject (.boxed (.bool (truth (arg 0)))) Place.boolean
    else return .bool (truth (arg 0))
  | booleanToString =>
    match ← inside this with
    | .bool b => return text (if b then "true" else "false")
    | _ => fail .type "not a boolean"
  | booleanValue =>
    match ← inside this with
    | .bool b => return .bool b
    | _ => fail .type "not a boolean"
  | symbolOf =>
    if making then fail .type "not a constructor"
    let description ← match arg 0 with
      | .undefined => pure none
      | v => some <$> toUnits call v
    let m ← get
    set { m with symbols := m.symbols.push description }
    return .symbol m.symbols.size
  | symbolToString =>
    match ← inside this with
    | .symbol id => return .string (← describe id)
    | _ => fail .type "not a symbol"
  | bigintOf => if making then fail .type "not a constructor" else toBigint call (arg 0)
  | bigintToString =>
    match ← inside this with
    | .bigint n => return text (toString n)
    | _ => fail .type "not a BigInt"
  | errorOf cls => makeError call cls args
  | errorToString => return .string (← errorText call this)
  | dateOf =>
    if !making then return text (Time.long 0.0)
    let time ← match args.head? with
      | none => pure 0.0
      | some v =>
        match ← kindOf v with
        | some (.date t) => pure t
        | _ =>
          match ← primitive call .default v with
          | .string _ => pure notANumber
          | p => primitiveNumber p
    newObject (.date (Time.ofNumber time)) Place.date
  | dateToISOString =>
    match Time.iso? (← thisTime this) with
    | some s => return text s
    | none => fail .range "Date value is NaN"
  | dateToJSON =>
    match ← primitive call .number this with
    | .number x =>
      if x.isNaN || x.isInf then return .null
      call (← named call this "toISOString") this []
    | _ => call (← named call this "toISOString") this []
  | dateToString => return text (Time.long (← thisTime this))
  | dateValue => return .number (← thisTime this)
  | regexToString =>
    match ← kindOf this with
    | some (.regex body flags) => return text ("/" ++ body ++ "/" ++ flags)
    | _ => fail .type "not an object"
  | mapOf =>
    if making then newObject (.named "Map") Place.map else fail .type "must be called with new"
  | setOf =>
    if making then newObject (.named "Set") Place.set else fail .type "must be called with new"
  | promiseResolve | promiseThen => newObject (.named "Promise") Place.promise
  | jsonStringify =>
    match ← toJson call (arg 0) with
    | some units => return .string units
    | none => return .undefined
  | jsonParse => ofJson (← toUnits call (arg 0))
  | mathMax =>
    let xs ← args.mapM (toNumber call)
    return .number (xs.foldl (fun a b => if a.isNaN || b.isNaN then notANumber else max a b)
      (-infinity))
  | mathMin =>
    let xs ← args.mapM (toNumber call)
    return .number (xs.foldl (fun a b => if a.isNaN || b.isNaN then notANumber else min a b)
      infinity)
  | mathFloor => return .number (← toNumber call (arg 0)).floor
  | mathAbs => return .number (← toNumber call (arg 0)).abs
  | mathPow => return numbers .pow (← toNumber call (arg 0)) (← toNumber call (arg 1))

/-! ### The state before a script runs -/

/-- Gives an object a property that is not listed. -/
def hide (owner : Nat) (key : String) (v : Value) : Eval Unit :=
  define owner (Key.ofText key) (.value v) false

/-- A new function that is there before. -/
def newNative (name : String) (f : Native) : Eval Value := do
  let made ← newObject (.native f) Place.function
  match made with
  | .object place => hide place "name" (Eval.text name)
  | _ => pure ()
  return made

/-- Gives an object a function. -/
def addNative (owner : Nat) (name : String) (f : Native) : Eval Unit := do
  hide owner name (← newNative name f)

/-- Adds a function that makes objects, which get properties from `parent`. -/
def addMaker (name : String) (f : Native) (parent : Nat) (own : List (String × Native)) :
    Eval Unit := do
  let maker ← newNative name f
  hide Place.global name maker
  hide parent "constructor" maker
  match maker with
  | .object place =>
    hide place "prototype" (.object parent)
    for (key, f) in own do addNative place key f
  | _ => pure ()

/-- The functions of the objects that others get properties from. -/
def inherited : List (Nat × String × Native) := [
  (Place.object, "toString", .objectToString), (Place.object, "valueOf", .objectValueOf),
  (Place.object, "hasOwnProperty", .hasOwn),
  (Place.function, "call", .functionCall), (Place.function, "apply", .functionApply),
  (Place.function, "toString", .functionToString),
  (Place.array, "push", .arrayPush), (Place.array, "pop", .arrayPop),
  (Place.array, "join", .arrayJoin), (Place.array, "toString", .arrayJoin),
  (Place.array, "fill", .arrayFill), (Place.array, "slice", .arraySlice),
  (Place.array, "concat", .arrayConcat), (Place.array, "indexOf", .arrayIndexOf),
  (Place.array, "includes", .arrayIncludes), (Place.array, "map", .arrayMap),
  (Place.array, "forEach", .arrayForEach), (Place.array, "filter", .arrayFilter),
  (Place.array, "reduce", .arrayReduce),
  (Place.string, "toString", .stringValue), (Place.string, "valueOf", .stringValue),
  (Place.string, "repeat", .stringRepeat), (Place.string, "toUpperCase", .stringToUpperCase),
  (Place.string, "toLowerCase", .stringToLowerCase), (Place.string, "includes", .stringIncludes),
  (Place.string, "charAt", .stringCharAt), (Place.string, "indexOf", .stringIndexOf),
  (Place.string, "slice", .stringSlice),
  (Place.number, "toFixed", .numberToFixed), (Place.number, "toString", .numberToString),
  (Place.number, "valueOf", .numberValue),
  (Place.boolean, "toString", .booleanToString), (Place.boolean, "valueOf", .booleanValue),
  (Place.symbol, "toString", .symbolToString),
  (Place.bigint, "toString", .bigintToString),
  (Place.date, "toISOString", .dateToISOString), (Place.date, "toJSON", .dateToJSON),
  (Place.date, "toString", .dateToString), (Place.date, "valueOf", .dateValue),
  (Place.date, "getTime", .dateValue),
  (Place.regex, "toString", .regexToString),
  (Place.promise, "then", .promiseThen),
  (Place.error .error, "toString", .errorToString)]

/-- Fills the heap with all that is there before a script runs. -/
def furnish : Eval Unit := do
  for (owner, name, f) in inherited do addNative owner name f
  addMaker "Object" .objectOf Place.object
    [("assign", .objectAssign), ("create", .objectCreate), ("keys", .objectKeys)]
  addMaker "Array" .arrayOf Place.array [("isArray", .arrayIsArray)]
  addMaker "String" .stringOf Place.string [("fromCharCode", .stringFromCharCode)]
  addMaker "Number" .numberOf Place.number [("isInteger", .numberIsInteger)]
  addMaker "Boolean" .booleanOf Place.boolean []
  addMaker "Symbol" .symbolOf Place.symbol []
  addMaker "BigInt" .bigintOf Place.bigint []
  addMaker "Date" .dateOf Place.date []
  addMaker "Map" .mapOf Place.map []
  addMaker "Set" .setOf Place.set []
  addMaker "Promise" .promiseResolve Place.promise [("resolve", .promiseResolve)]
  for cls in ErrorClass.all do
    addMaker cls.name (.errorOf cls) (Place.error cls) []
    hide (Place.error cls) "name" (Eval.text cls.name)
    hide (Place.error cls) "message" (.string [])
  let globals := [("undefined", Value.undefined), ("NaN", .number notANumber),
    ("Infinity", .number infinity), ("globalThis", .object Place.global)]
  for (name, v) in globals do hide Place.global name v
  let place := (← get).heap.size
  hide Place.global "JSON" (← newObject (.named "JSON") Place.object)
  addNative place "stringify" .jsonStringify
  addNative place "parse" .jsonParse
  let place := (← get).heap.size
  hide Place.global "Math" (← newObject (.named "Math") Place.object)
  for (name, f) in [("max", Native.mathMax), ("min", .mathMin), ("floor", .mathFloor),
      ("abs", .mathAbs), ("pow", .mathPow)] do
    addNative place name f
  let place := (← get).heap.size
  define Place.global (Key.ofText "console") (.value (← newObject .plain Place.object)) true
  for method in ["log", "info", "warn", "error"] do
    define place (Key.ofText method) (.value (← newNative method .print)) true

/-- The objects at fixed places, without their properties. -/
def places : Array Object :=
  let under := fun (kind : ObjectKind) => (⟨some Place.object, kind, []⟩ : Object)
  let errors := (⟨some Place.object, .plain, []⟩ : Object) ::
    List.replicate 6 ⟨some (Place.error .error), .plain, []⟩
  (#[⟨none, .plain, []⟩, under .plain, under (.array #[]), under (.boxed (.string [])),
    under (.boxed (.number 0.0)), under (.boxed (.bool false)), under .plain, under .plain,
    under .plain, under .plain, under .plain, under .plain, under .plain, under .plain] ++ errors)

/-- The state before a script runs. -/
def Machine.start : Machine :=
  (furnish.run ⟨places, #[], #[], #[]⟩).2

end Sandbox.JavaScript
