import Sandbox.Config.Basic
import Sandbox.Toml.Reader
import Sandbox.Toml.Writer

/-!
# Configuration documents

A configuration is stored as a TOML document with a table for each section. Keys that a document
leaves out keep their defaults, keys that the configuration does not have are passed over, and what
has no value is not written.

## Main definitions

* `Field` : a key of a table, with how it is read and written.
* `Field.readTable`, `Field.readList` : a record given by keys, or by the values of its first
  fields.
* `Field.writeTable` : the keys of a record.
* `sections` : the keys of a configuration.
* `ofTable`, `toTable` : a configuration as a table.
* `ofToml`, `toToml?` : a configuration as a document.
-/

namespace Sandbox.Config

open Toml (Value Table Fault)

/-- A key of a table that stands for a record. -/
structure Field (σ : Type) where
  /-- The key. -/
  key : String
  /-- The record with the value of the key, if the value is of the right kind. -/
  read : Value → σ → Option σ
  /-- The value of the key, if the record has one. -/
  write : σ → Option Value

namespace Field

variable {σ : Type}

/-- The record with the value of a field. -/
def apply (field : Field σ) (value : Value) (record : σ) : Except Fault σ :=
  match field.read value record with
  | some record => .ok record
  | none => .error (.wrongType field.key)

/-- The record with the values that a table has for fields. -/
def readTable (fields : List (Field σ)) (table : Table) (record : σ) : Except Fault σ :=
  fields.foldlM (fun record field =>
    match table.get? field.key with
    | some value => field.apply value record
    | none => .ok record) record

/-- The record with values for its first fields. -/
def readList (fields : List (Field σ)) (values : List Value) (record : σ) : Except Fault σ :=
  (fields.zip values).foldlM (fun record (field, value) => field.apply value record) record

/-- The record that a value stands for. A date is a table without any of the keys. -/
def readRecord (fields : List (Field σ)) (value : Value) (record : σ) : Option σ :=
  match value with
  | .table members => (readTable fields members record).toOption
  | .array items => (readList fields items record).toOption
  | .datetime _ => some record
  | _ => none

/-- The keys of a record with their values. -/
def writeTable (fields : List (Field σ)) (record : σ) : Table :=
  fields.filterMap fun field => (field.write record).map fun value => (field.key, value)

/-- A field that holds a text. -/
def text (key : String) (get : σ → String) (set : String → σ → σ) : Field σ where
  key := key
  read
    | .text s, record => some (set s record)
    | _, _ => none
  write record := some (.text (get record))

/-- A field that may hold a text. -/
def text? (key : String) (get : σ → Option String) (set : Option String → σ → σ) : Field σ where
  key := key
  read
    | .text s, record => some (set (some s) record)
    | _, _ => none
  write record := (get record).map .text

/-- A field that holds a number below `bound`. -/
def number (key : String) (bound : Nat) (get : σ → Nat) (set : Nat → σ → σ) : Field σ where
  key := key
  read
    | .integer n, record => if 0 ≤ n ∧ n < bound then some (set n.toNat record) else none
    | _, _ => none
  write record := some (.integer (get record))

/-- A field that holds a truth value. -/
def flag (key : String) (get : σ → Bool) (set : Bool → σ → σ) : Field σ where
  key := key
  read
    | .bool b, record => some (set b record)
    | _, _ => none
  write record := some (.bool (get record))

/-- The text of a value that is one. -/
def textOf? : Value → Option String
  | .text s => some s
  | _ => none

/-- A field that holds texts. -/
def texts (key : String) (get : σ → List String) (set : List String → σ → σ) : Field σ where
  key := key
  read
    | .array items, record => (items.mapM textOf?).map fun texts => set texts record
    | _, _ => none
  write record := some (.array ((get record).map .text))

/-- A field that holds a record with defaults of its own. -/
def record {τ : Type} (key : String) (fields : List (Field τ)) (default : τ) (get : σ → τ)
    (set : τ → σ → σ) : Field σ where
  key := key
  read value whole := (readRecord fields value default).map fun part => set part whole
  write whole := some (.table (writeTable fields (get whole)))

end Field

/-! ### The keys of a configuration -/

/-- The keys of the section about the cache. -/
def cacheFields : List (Field Cache) := [
  .text? "directory" Cache.directory fun v c => { c with directory := v }]

/-- The keys of the section about downloads. -/
def networkFields : List (Field Network) := [
  .number "timeout_secs" 0x10000000000000000 Network.timeout fun v c => { c with timeout := v },
  .number "max_redirects" 0x100000000 Network.maxRedirects fun v c => { c with maxRedirects := v },
  .text? "user_agent" Network.userAgent fun v c => { c with userAgent := v }]

/-- The keys of the section about the compiler. -/
def compilerFields : List (Field Compiler) := [
  .text? "path" Compiler.path fun v c => { c with path := v },
  .text "url" Compiler.url fun v c => { c with url := v },
  .text "target" Compiler.target fun v c => { c with target := v },
  .text "opt_level" Compiler.optimization fun v c => { c with optimization := v },
  .flag "strict_imports" Compiler.strictImports fun v c => { c with strictImports := v }]

/-- The keys of the section about the interpreter. -/
def pythonFields : List (Field Python) := [
  .text? "path" Python.path fun v c => { c with path := v },
  .text "url" Python.url fun v c => { c with url := v },
  .texts "preload" Python.preload fun v c => { c with preload := v },
  .text? "lib_dir" Python.libraryDirectory fun v c => { c with libraryDirectory := v }]

/-- The sections of a configuration. -/
def sections : List (Field Config) := [
  .record "cache" cacheFields {} Config.cache fun v c => { c with cache := v },
  .record "network" networkFields {} Config.network fun v c => { c with network := v },
  .record "compiler" compilerFields {} Config.compiler fun v c => { c with compiler := v },
  .record "python" pythonFields {} Config.python fun v c => { c with python := v }]

/-! ### Documents -/

/-- The configuration that a table describes. -/
def ofTable (table : Table) : Except Fault Config :=
  Field.readTable sections table {}

/-- The table that describes a configuration. -/
def toTable (config : Config) : Table :=
  Field.writeTable sections config

/-- The configuration that a document describes. -/
def ofToml (document : String) : Except Fault Config := do
  ofTable (← Toml.parse document)

/-- The document that describes a configuration, unless it holds a number that documents cannot
hold. -/
def toToml? (config : Config) : Option String :=
  Toml.render? config.toTable

end Sandbox.Config
