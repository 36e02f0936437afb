import Sandbox.Toml.Value

/-!
# Tables under construction

A document fills its tables bit by bit: by headers, by dotted keys and by arrays of tables. Each of
these may add to some tables only; what a table still admits depends on how it came to be.

## Main definitions

* `Origin` : how a table came to be.
* `Node` : a value, a table, or an array of tables that is still open.
* `Node.assign` : a key with a value below a table.
* `Node.openTable`, `Node.openElement` : the headers `[a.b]` and `[[a.b]]`.
* `Node.toValue` : the finished value.
-/

namespace Sandbox.Toml

/-- How a table came to be. -/
inductive Origin where
  /-- By its own header, as an element of an array of tables, or as the document. -/
  | header
  /-- As a part of a longer header. -/
  | implied
  /-- As a part of a dotted key. -/
  | dotted
  deriving DecidableEq, Repr

/-- A part of a document under construction. -/
inductive Node where
  /-- A value, to which nothing may be added. -/
  | value (v : Value)
  /-- A table. -/
  | table (origin : Origin) (members : List (String × Node))
  /-- An array of tables, the last one first. -/
  | tables (elements : List (List (String × Node)))

/-- Members of a table. -/
abbrev Members : Type := List (String × Node)

/-- Replaces the member of a key, or adds one at the end. -/
def Members.put (key : String) (node : Node) : Members → Members
  | [] => [(key, node)]
  | (k, n) :: members =>
    if k == key then (key, node) :: members else (k, n) :: Members.put key node members

/-- The member of a key. -/
def Members.find (members : Members) (key : String) : Option Node :=
  (members.find? fun member => member.1 == key).map Prod.snd

/-- Changes the members of the table at the end of a path of headers. -/
def descend (change : Members → Except Fault Members) : List String → Members → Except Fault Members
  | [], members => change members
  | key :: path, members =>
    match members.find key with
    | none => do
      let inner ← descend change path []
      return members.put key (.table .implied inner)
    | some (.table origin inner) => do
      let inner ← descend change path inner
      return members.put key (.table origin inner)
    | some (.tables (last :: earlier)) => do
      let last ← descend change path last
      return members.put key (.tables (last :: earlier))
    | some _ => .error (.duplicateKey key)

/-- Gives a value to a dotted key. Tables on the way are made as needed; the innermost one must have
been made by dotted keys, and no other may have a header of its own. -/
def assign (value : Node) : List String → Members → Except Fault Members
  | [], _ => .error .malformed
  | [key], members =>
    if (members.find key).isSome then .error (.duplicateKey key)
    else .ok (members.put key value)
  | key :: path, members =>
    match members.find key with
    | none => do
      let inner ← assign value path []
      return members.put key (.table .dotted inner)
    | some (.table .dotted inner) => do
      let inner ← assign value path inner
      return members.put key (.table .dotted inner)
    | some (.table .implied inner) =>
      if path.length = 1 then .error (.duplicateKey key)
      else do
        let inner ← assign value path inner
        return members.put key (.table .implied inner)
    | some (.tables (last :: earlier)) =>
      if path.length = 1 then .error (.duplicateKey key)
      else do
        let last ← assign value path last
        return members.put key (.tables (last :: earlier))
    | some _ => .error (.duplicateKey key)

/-- Opens the table of a header: a new one, or one that was only implied so far. -/
def openTable (path : List String) (key : String) (root : Members) : Except Fault Members :=
  descend (fun members =>
    match members.find key with
    | none => .ok (members.put key (.table .header []))
    | some (.table .implied inner) => .ok (members.put key (.table .header inner))
    | some _ => .error (.duplicateKey key)) path root

/-- Opens a new element of an array of tables. -/
def openElement (path : List String) (key : String) (root : Members) : Except Fault Members :=
  descend (fun members =>
    match members.find key with
    | none => .ok (members.put key (.tables [[]]))
    | some (.tables elements) => .ok (members.put key (.tables ([] :: elements)))
    | some _ => .error (.duplicateKey key)) path root

mutual

/-- The finished value. -/
def Node.toValue : Node → Value
  | .value v => v
  | .table _ members => .table (finishMembers members)
  | .tables elements => .array (finishElements [] elements)

/-- The finished members of a table. -/
def finishMembers : List (String × Node) → List (String × Value)
  | [] => []
  | (key, node) :: members => (key, node.toValue) :: finishMembers members

/-- The finished elements of an array of tables, in order. -/
def finishElements (done : List Value) : List (List (String × Node)) → List Value
  | [] => done
  | members :: earlier => finishElements (.table (finishMembers members) :: done) earlier

end

end Sandbox.Toml
