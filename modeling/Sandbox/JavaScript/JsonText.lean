import Sandbox.JavaScript.Convert

/-!
# Values as JSON

## Main definitions

* `Eval.toJson` : a value as JSON text, if it has one.
* `Eval.ofJson` : the value of a JSON text.
-/

namespace Sandbox.JavaScript

namespace Eval

/-! ### Writing -/

/-- How deeply values may be nested. -/
def deepestJson : Nat := 1200

/-- What the method for JSON of a value gives, or the value itself. -/
def jsonValue (call : Call) (key : Units) (v : Value) : Eval Value := do
  let f ← match v with
    | .object _ | .bigint _ => named call v "toJSON"
    | _ => pure .undefined
  if ← isFunction f then call f v [.string key] else return v

/-- The value inside a boxed number, text, truth value or integer. -/
def unboxed (call : Call) (v : Value) : Eval Value := do
  match ← kindOf v with
  | some (.boxed (.number _)) => return .number (← toNumber call v)
  | some (.boxed (.string _)) => return .string (← toUnits call v)
  | some (.boxed (.bool b)) => return .bool b
  | some (.boxed (.bigint n)) => return .bigint n
  | _ => return v

/-- Units with commas between them. -/
def separated : List Units → Units
  | [] => []
  | [units] => units
  | units :: rest => units ++ 0x2C :: separated rest

/-- The JSON text of the value of a key. `above` holds the objects around it. -/
def serialize (call : Call) : (fuel : Nat) → (above : List Nat) → (key : Units) → (v : Value) →
    Eval (Option Units)
  | 0, _, _, _ => fail .range "Maximum call stack size exceeded"
  | fuel + 1, above, key, v => do
    let v ← unboxed call (← jsonValue call key v)
    match v with
    | .undefined | .symbol _ => return none
    | .null => return some (Units.ofText "null")
    | .bool b => return some (Units.ofText (if b then "true" else "false"))
    | .number x =>
      return some (Units.ofText (if x.isNaN || x.isInf then "null" else numberText x))
    | .bigint _ => fail .type "Do not know how to serialize a BigInt"
    | .string units => return some units.quoted
    | .object place =>
      if ← isFunction v then return none
      if above.contains place then fail .type "circular reference"
      let o ← objectAt place
      match o.kind with
      | .array items =>
        let texts ← (items.toList.zip (List.range items.size)).mapM fun (item, i) => do
          let text ← serialize call fuel (place :: above) (Units.ofText (toString i)) item
          return text.getD (Units.ofText "null")
        return some (0x5B :: separated texts ++ [0x5D])
      | _ =>
        let texts ← (listedKeys o).mapM fun key => do
          let text ← serialize call fuel (place :: above) key (← property call v (.name key))
          return text.map fun text => key.quoted ++ 0x3A :: text
        return some (0x7B :: separated (texts.filterMap id) ++ [0x7D])

/-- A value as JSON text, if it has one. -/
def toJson (call : Call) (v : Value) : Eval (Option Units) :=
  serialize call deepestJson [] [] v

/-! ### Reading -/

/-- What is left of a JSON text, and the whole text. -/
structure JsonText where
  /-- The characters that are left. -/
  rest : List Char
  /-- All characters. -/
  whole : List Char

/-- Readers of JSON text. -/
abbrev JsonReader (α : Type) : Type := StateT JsonText Eval α

/-- Drops blanks. -/
def jsonGap : JsonReader Unit :=
  modify fun t =>
    { t with rest := t.rest.dropWhile fun c => c == ' ' || c == '\n' || c == '\t' || c == '\r' }

/-- Fails with a message that names the place. -/
def jsonFault {α : Type} (message : String) : JsonReader α := do
  let t ← get
  let before := t.whole.take (t.whole.length - t.rest.length)
  let column := (before.reverse.takeWhile (· != '\n')).length + 1
  let line := before.count '\n' + 1
  fail .syntaxError (message ++ " in JSON at position " ++ toString before.length ++ " (line " ++
    toString line ++ " column " ++ toString column ++ ")")

/-- Fails at the next character. -/
def jsonUnexpected {α : Type} : JsonReader α := do
  let t ← get
  match t.rest with
  | [] => fail .syntaxError "Unexpected end of JSON input"
  | c :: _ =>
    fail .syntaxError ("Unexpected token '" ++ String.singleton c ++ "', \"" ++
      String.ofList t.whole ++ "\" is not valid JSON")

/-- Drops a character if it is next. -/
def jsonChar? (c : Char) : JsonReader Bool := do
  let t ← get
  match t.rest with
  | d :: rest => if c == d then set { t with rest := rest }; return true else return false
  | [] => return false

/-- Reads a text, whose quote stands at the front. -/
def jsonString : JsonReader Units := do
  let t ← get
  match Lexer.string '"' (t.rest.length + 1) [] (t.rest.drop 1) with
  | .ok (units, rest) => set { t with rest := rest }; return units
  | .error _ => fail .syntaxError "Unterminated string in JSON"

/-- Reads a value. -/
def jsonItem : (fuel : Nat) → JsonReader Value
  | 0 => fail .range "Maximum call stack size exceeded"
  | fuel + 1 => do
    jsonGap
    let t ← get
    match t.rest with
    | '"' :: _ => return .string (← jsonString)
    | '[' :: rest =>
      set { t with rest := rest }
      jsonGap
      if ← jsonChar? ']' then return ← newArray []
      let items ← itemsFrom fuel (rest.length + 1) []
      newArray items
    | '\x7b' :: rest =>
      set { t with rest := rest }
      let result ← newObject .plain Place.object
      jsonGap
      if ← jsonChar? '\x7d' then return result
      match result with
      | .object place => membersFrom fuel place (rest.length + 1) true
      | _ => pure ()
      return result
    | cs =>
      if Text.hasStart "true".toList cs then
        set { t with rest := cs.drop 4 }; return .bool true
      else if Text.hasStart "false".toList cs then
        set { t with rest := cs.drop 5 }; return .bool false
      else if Text.hasStart "null".toList cs then
        set { t with rest := cs.drop 4 }; return .null
      else
        let digits := cs.dropWhile (· == '-')
        if (digits.head?.map Char.isDigit).getD false && decide (cs.length ≤ digits.length + 1) then
          match Lexer.number digits with
          | (.number x, rest) =>
            set { t with rest := rest }
            return .number (withSign (decide (digits.length < cs.length)) x)
          | _ => jsonUnexpected
        else jsonUnexpected
where
  /-- Reads the items of an array up to its end. -/
  itemsFrom (fuel : Nat) : (count : Nat) → (done : List Value) → JsonReader (List Value)
    | 0, _ => jsonUnexpected
    | count + 1, done => do
      let item ← jsonItem fuel
      jsonGap
      if ← jsonChar? ',' then itemsFrom fuel count (item :: done)
      else if ← jsonChar? ']' then return (item :: done).reverse
      else if (← get).rest.isEmpty then jsonUnexpected
      else jsonFault "Expected ',' or ']' after array element"
  /-- Reads the members of an object up to its end. -/
  membersFrom (fuel : Nat) (place : Nat) : (count : Nat) → (isFirst : Bool) → JsonReader Unit
    | 0, _ => jsonUnexpected
    | count + 1, isFirst => do
      jsonGap
      match (← get).rest with
      | '"' :: _ => pure ()
      | [] => jsonUnexpected
      | _ =>
        jsonFault (if isFirst then "Expected property name or '\x7d'"
          else "Expected double-quoted property name")
      let key ← jsonString
      jsonGap
      if !(← jsonChar? ':') then
        if (← get).rest.isEmpty then jsonUnexpected
        else jsonFault "Expected ':' after property name"
      let v ← jsonItem fuel
      define place (.name key) (.value v) true
      jsonGap
      if ← jsonChar? ',' then membersFrom fuel place count false
      else if ← jsonChar? '\x7d' then return
      else if (← get).rest.isEmpty then jsonUnexpected
      else jsonFault "Expected ',' or '\x7d' after property value"

/-- The value of a JSON text. -/
def ofJson (units : Units) : Eval Value := do
  match units.toText? with
  | none => fail .syntaxError "Unexpected token in JSON"
  | some text =>
    let read : JsonReader Value := do
      let v ← jsonItem deepestJson
      jsonGap
      if !(← get).rest.isEmpty then jsonFault "Unexpected non-whitespace character after JSON"
      return v
    let (v, _) ← read.run ⟨text.toList, text.toList⟩
    return v

end Eval

end Sandbox.JavaScript
