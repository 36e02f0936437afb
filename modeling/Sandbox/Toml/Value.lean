/-!
# TOML values

## Main definitions

* `Value` : a value of a TOML document.
* `Table` : keys with values, in order.
* `Table.get?` : the value of a key.
-/

namespace Sandbox.Toml

/-- A value. Numbers with a fraction, dates and times are kept as they are written. -/
inductive Value where
  /-- A string. -/
  | text (s : String)
  /-- An integer. -/
  | integer (n : Int)
  /-- A number with a fraction or an exponent. -/
  | float (written : String)
  /-- A truth value. -/
  | bool (b : Bool)
  /-- A date, a time, or both. -/
  | datetime (written : String)
  /-- An array. -/
  | array (items : List Value)
  /-- A table. -/
  | table (members : List (String × Value))

/-- Keys with values, in order. -/
abbrev Table : Type := List (String × Value)

/-- The value of a key. -/
def Table.get? (t : Table) (key : String) : Option Value :=
  (t.find? fun member => member.1 == key).map Prod.snd

/-- Why a text is no document, or not the one that was asked for. -/
inductive Fault where
  /-- The text breaks the grammar. -/
  | malformed
  /-- A key is given twice, or a table is extended where it may not be. -/
  | duplicateKey (key : String)
  /-- Values are nested too deeply. -/
  | tooDeep
  /-- A key has a value of another type. -/
  | wrongType (key : String)
  deriving DecidableEq, Repr

/-- The wording of a fault. -/
def Fault.message : Fault → String
  | malformed => "invalid document"
  | duplicateKey key => "duplicate key: " ++ key
  | tooDeep => "recursion limit exceeded"
  | wrongType key => "invalid type for key: " ++ key

end Sandbox.Toml
