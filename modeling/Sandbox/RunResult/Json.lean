import Sandbox.Json.Reader
import Sandbox.Json.Writer
import Sandbox.RunResult.Basic

/-!
# Results as JSON

A result is stored as an object of four members, the last two of which are left out when there is
nothing to say.

## Main definitions

* `RunResult.document` : the object for a result.
* `RunResult.ofJson` : the result that a text describes. Members may come in any order, members of
  other names are passed over, and an array of the four values does as well.
-/

namespace Sandbox.RunResult

/-- The object for a result. -/
def document (result : RunResult) : Json.Document :=
  .object (
    [("success", .bool result.success), ("output", .array (result.output.map .text))] ++
    (match result.error with
      | some error => [("error", .text error)]
      | none => []) ++
    (match result.failure with
      | some kind => [("failure", .text kind.name)]
      | none => []))

open Json (Reader ReadError Mismatch)

/-- How messages name the type. -/
def typeName : String := "struct ExecutionResult"

/-- How messages name the type when an array is too short. -/
def arrayTypeName : String := "struct ExecutionResult with 4 elements"

/-- A string that names a class of failures. -/
def readKindName : Reader FailureKind := do
  let name ← match ← Reader.need with
    | '"' => do Reader.advance; Reader.stringBody
    | _ => Reader.unexpected "variant identifier"
  match FailureKind.ofName? name with
  | some kind => return kind
  | none => throw (.mismatch (.unknownVariant name (FailureKind.all.map FailureKind.name)))

/-- A class of failures: its name, or an object whose only key is its name, with the null value. -/
def readKind : Reader FailureKind := do
  match ← Reader.need with
  | '"' => readKindName
  | '{' =>
    Reader.advance
    let kind ← readKindName
    Reader.colon
    Reader.unit
    Reader.ending '}'
    return kind
  | _ => throw .malformed

/-- The members read so far. -/
structure Members where
  /-- The member `success`. -/
  success : Option Bool
  /-- The member `output`. -/
  output : Option (List String)
  /-- The member `error`, which may be null. -/
  error : Option (Option String)
  /-- The member `failure`, which may be null. -/
  failure : Option (Option FailureKind)

/-- Reads a member that was not read before. -/
def readOnce {α : Type} (name : String) (before : Option α) (value : Reader α) : Reader α := do
  if before.isSome then throw (.mismatch (.duplicateField name))
  Reader.colon
  value

/-- Reads the value of the member `key`. -/
def readMember (members : Members) (key : String) : Reader Members := do
  if key == "success" then
    return { members with success := ← readOnce key members.success Reader.bool }
  else if key == "output" then
    return { members with output := ← readOnce key members.output Reader.stringList }
  else if key == "error" then
    let error ← readOnce key members.error (Reader.optional Reader.string)
    return { members with error := some error }
  else if key == "failure" then
    let failure ← readOnce key members.failure (Reader.optional readKind)
    return { members with failure := some failure }
  else
    Reader.colon
    Reader.skipValue
    return members

/-- Reads members up to the end of the object. -/
def readMembers : (fuel : Nat) → (isFirst : Bool) → Members → Reader Members
  | 0, _, _ => throw .cutShort
  | fuel + 1, isFirst, members => do
    if ← Reader.hasMember isFirst then
      Reader.advance
      let key ← Reader.stringBody
      let members ← readMember members key
      readMembers fuel false members
    else return members

/-- The result with the given members; the first two have to be there. -/
def ofMembers (members : Members) : Except Mismatch RunResult := do
  let some success := members.success | throw (.missingField "success")
  let some output := members.output | throw (.missingField "output")
  return ⟨success, output, members.error.getD none, members.failure.getD none⟩

/-- Reads an object after its opening brace. -/
def readObject : Reader RunResult := do
  let members ← readMembers ((← get).length + 1) true ⟨none, none, none, none⟩
  match ofMembers members with
  | .ok result =>
    Reader.ending '}'
    return result
  | .error cause => throw (.mismatch cause)

/-- Reads an array after its opening bracket. -/
def readArray : Reader RunResult := do
  if !(← Reader.hasItem true) then throw (.mismatch (.tooShort 0 arrayTypeName))
  let success ← Reader.bool
  if !(← Reader.hasItem false) then throw (.mismatch (.tooShort 1 arrayTypeName))
  let output ← Reader.stringList
  let error ← if ← Reader.hasItem false then Reader.optional Reader.string else pure none
  let failure ← if ← Reader.hasItem false then Reader.optional readKind else pure none
  Reader.ending ']'
  return ⟨success, output, error, failure⟩

/-- Reads a result. -/
def reader : Reader RunResult := do
  match ← Reader.need with
  | '{' => Reader.advance; readObject
  | '[' => Reader.advance; readArray
  | _ => Reader.unexpected typeName

/-- The result that a whole text describes. -/
def ofJson (text : String) : Except ReadError RunResult :=
  reader.run text

end Sandbox.RunResult
