import Sandbox.Proofs.Json.Typed
import Sandbox.Proofs.RunResult.RoundTrip

/-!
# Results that are accepted

A text is accepted as a result if it is an object with the members of a result, in any order and
among any others, or an array of their values. Each member fills its own place. Whether the run
passed and whether there is a message are therefore independent of each other in the results that
are accepted, and the summary, which looks at the message alone, may call a failure a pass.

## Main definitions

* `result?` : the result that a document describes.

## Main results

* `ofJson_spells` : a text is accepted as what its document describes, and otherwise refused.
* `ofJson_compact` : all results are accepted.
* `marks_of_object` : the members that decide whether a run passed and what went wrong.
* `accepted_marks` : the summary of a result that was accepted, and where it is right.
-/

namespace Sandbox.RunResult

open Json (Document IsGap IsSeparator Spells SpellsItems SpellsMembers)
open Json.Reader (Takes bind_of_ok refuses_throw refuses_unexpected toOption_bind)

/-- The class of failures that a document names, as a text or as the only key of an object. -/
def kind? : Document → Option FailureKind
  | .text name => FailureKind.ofName? name
  | .object [(name, value)] => value.null?.bind fun _ => FailureKind.ofName? name
  | _ => none

/-- A value for a place, unless the place is taken. -/
def placed? {α : Type} (before found : Option α) : Option α :=
  if before.isSome then none else found

/-- The members with one more. A member that has its place is stored there, unless the place is
taken; others leave no trace. -/
def Members.store? (members : Members) (key : String) (value : Document) : Option Members :=
  if key == "success" then
    (placed? members.success value.bool?).map fun b => { members with success := some b }
  else if key == "output" then
    (placed? members.output value.texts?).map fun texts => { members with output := some texts }
  else if key == "error" then
    (placed? members.error (value.optional? Document.text?)).map
      fun error => { members with error := some error }
  else if key == "failure" then
    (placed? members.failure (value.optional? kind?)).map
      fun failure => { members with failure := some failure }
  else some members

/-- The members with more of them. -/
def Members.storeAll? (members : Members) : List (String × Document) → Option Members
  | [] => some members
  | (key, value) :: entries => (members.store? key value).bind fun members =>
    members.storeAll? entries

/-- What went wrong, by the items of an array after the first two. -/
def errorAt? : List Document → Option (Option String)
  | [] => some none
  | error :: _ => error.optional? Document.text?

/-- The class of the failure, by the items of an array after the first two. -/
def failureAt? : List Document → Option (Option FailureKind)
  | [] => some none
  | [_] => some none
  | [_, failure] => failure.optional? kind?
  | _ => none

/-- The result that a document describes. -/
def result? : Document → Option RunResult
  | .object entries =>
    (Members.storeAll? ⟨none, none, none, none⟩ entries).bind fun members =>
      (ofMembers members).toOption
  | .array (success :: output :: items) => do
    return ⟨← success.bool?, ← output.texts?, ← errorAt? items, ← failureAt? items⟩
  | _ => none

variable {α : Type} {isFirst : Bool} {gap gap' cs rest : List Char} {members : Members}
  {key : String} {value document : Document} {entries : List (String × Document)}
  {reader : Json.Reader α} {value? : Document → Option α}

/-! ### Classes of failures -/

theorem readKindName_quote (hgap : IsGap gap) (name : String) (rest : List Char) :
    (readKindName (gap ++ (Json.quote name.toList ++ rest))).toOption =
      (FailureKind.ofName? name).map (·, rest) := by
  rw [Json.Reader.quote_append, readKindName, bind_of_ok (Json.Reader.need_gap hgap rfl)]
  change ((Json.Reader.advance >>= fun _ => Json.Reader.stringBody >>= _) _).toOption = _
  rw [bind_of_ok Json.Reader.advance_cons, bind_of_ok (Json.Reader.stringBody_quote _)]
  dsimp only
  cases FailureKind.ofName? name <;> rfl

theorem takes_readKind : Takes readKind kind? := by
  intro document gap cs hgap hspells rest
  rw [readKind, bind_of_ok (Json.Reader.need_spells hgap hspells rest)]
  cases hspells with
  | text name => exact readKindName_quote Json.isGap_nil name rest
  | bool b => cases b <;> rfl
  | null => rfl
  | array _ => rfl
  | @object entries cs hmembers =>
    change ((Json.Reader.advance >>= fun _ => readKindName >>= fun kind =>
      Json.Reader.colon >>= fun _ => Json.Reader.unit >>= fun _ => Json.Reader.ending '}' >>=
        fun _ => pure kind) ('{' :: (cs ++ rest))).toOption = _
    rw [bind_of_ok Json.Reader.advance_cons]
    cases hmembers with
    | nil hgap =>
      rw [readKindName, toOption_bind, List.append_assoc, List.singleton_append,
        bind_of_ok (Json.Reader.need_gap hgap rfl)]
      rfl
    | @cons _ name value members separator gap gap' cs ds hseparator hgap hgap' hvalue hmembers =>
      cases hseparator with
      | first hseparator =>
        simp only [List.append_assoc, List.cons_append]
        rw [toOption_bind, readKindName_quote hseparator]
        cases hkind : FailureKind.ofName? name with
        | none =>
          cases members with
          | nil => simp [kind?, hkind]
          | cons _ _ => rfl
        | some kind =>
          rw [Option.map_some, Option.bind_some, bind_of_ok (Json.Reader.colon_gap hgap),
            Json.Reader.takes_unit.bind _ hgap' hvalue]
          cases hmembers with
          | nil hgap =>
            rw [List.append_assoc, List.singleton_append,
              bind_of_ok (Json.Reader.ending_gap hgap rfl)]
            rw [kind?, hkind]
            cases value <;> rfl
          | cons hseparator _ _ _ _ =>
            cases hseparator with
            | later hgap _ =>
              simp only [List.append_assoc, List.cons_append]
              rw [toOption_bind, Json.Reader.toOption_ending_comma hgap (by decide)]
              cases value <;> rfl

/-! ### Members -/

theorem readOnce_takes {name : String} {before : Option α} (h : Takes reader value?)
    (store : α → Members) (hgap : IsGap gap) (hgap' : IsGap gap') (hvalue : Spells value cs)
    (rest : List Char) :
    ((readOnce name before reader >>= fun a => pure (store a))
        (gap ++ ':' :: (gap' ++ (cs ++ rest)))).toOption =
      ((placed? before (value? value)).map store).map (·, rest) := by
  rw [toOption_bind]
  cases before with
  | some a => rfl
  | none =>
    change ((Json.Reader.colon >>= fun _ => reader) _).toOption.bind _ = _
    rw [bind_of_ok (Json.Reader.colon_gap hgap), h hgap' hvalue, placed?]
    cases value? value <;> rfl

/-- A member is read where there is a place for it, or passed over. -/
theorem readMember_takes (members : Members) (key : String) (hgap : IsGap gap)
    (hgap' : IsGap gap') (hvalue : Spells value cs) (rest : List Char) :
    (readMember members key (gap ++ ':' :: (gap' ++ (cs ++ rest)))).toOption =
      (members.store? key value).map (·, rest) := by
  rw [readMember, Members.store?]
  split
  · exact readOnce_takes Json.Reader.takes_bool _ hgap hgap' hvalue rest
  split
  · exact readOnce_takes Json.Reader.takes_stringList _ hgap hgap' hvalue rest
  split
  · exact readOnce_takes Json.Reader.takes_string.optional _ hgap hgap' hvalue rest
  split
  · exact readOnce_takes takes_readKind.optional _ hgap hgap' hvalue rest
  · rw [bind_of_ok (Json.Reader.colon_gap hgap), Json.Reader.takes_skipValue.bind _ hgap' hvalue]
    rfl

/-- The members of an object are stored one after another. -/
theorem readMembers_takes (h : SpellsMembers isFirst entries cs) {fuel : Nat}
    (hfuel : entries.length < fuel) (members : Members) (rest : List Char) :
    (readMembers fuel isFirst members (cs ++ rest)).toOption =
      (members.storeAll? entries).map (·, '}' :: rest) := by
  induction entries generalizing fuel isFirst cs members with
  | nil =>
    rw [readMembers_spells (.nil members) h hfuel]
    rfl
  | cons entry entries ih =>
    obtain ⟨fuel, rfl⟩ := Nat.exists_eq_add_one_of_ne_zero (Nat.ne_of_gt (Nat.zero_lt_of_lt hfuel))
    cases h with
    | @cons _ key value _ separator gap gap' cs ds hseparator hgap hgap' hvalue hmembers =>
      rw [readMembers, List.append_assoc, List.append_assoc, Json.Reader.quote_append,
        bind_of_ok (Json.Reader.hasMember_separator hseparator)]
      change ((Json.Reader.advance >>= fun _ => Json.Reader.stringBody >>= _) _).toOption = _
      rw [bind_of_ok Json.Reader.advance_cons, bind_of_ok (Json.Reader.stringBody_quote _)]
      simp only [List.append_assoc, List.cons_append]
      rw [toOption_bind, readMember_takes members key hgap hgap' hvalue, Members.storeAll?]
      cases members.store? key value with
      | none => rfl
      | some members => exact ih hmembers (Nat.lt_of_succ_lt_succ hfuel) members

/-! ### Whole results -/

theorem takes_readObject (h : SpellsMembers true entries cs) (rest : List Char) :
    (readObject (cs ++ rest)).toOption = (result? (.object entries)).map (·, rest) := by
  have hfuel : entries.length < (cs ++ rest).length + 1 := by
    have := Json.length_le_of_spellsMembers h
    simp only [if_true, List.length_append] at this ⊢
    omega
  rw [readObject, bind_of_ok Json.Reader.get_eq, toOption_bind, readMembers_takes h hfuel, result?]
  cases Members.storeAll? ⟨none, none, none, none⟩ entries with
  | none => rfl
  | some members =>
    simp only [Option.map_some, Option.bind_some]
    cases ofMembers members with
    | error cause => rfl
    | ok result =>
      dsimp only
      rw [bind_of_ok (Json.Reader.ending_cons rfl)]
      rfl

/-- What is read after the question for another item, if there is one. -/
theorem hasItem_takes {β : Type} (h : Takes reader value?) {item : Document} {items : List Document}
    (hitems : SpellsItems isFirst (item :: items) cs) {k : Bool → Json.Reader β}
    {f : α → Json.Reader β} (hk : k true = reader >>= f) {g : α → Option (β × List Char)}
    (hrest : ∀ a ds, SpellsItems false items ds → (f a (ds ++ rest)).toOption = g a) :
    ((Json.Reader.hasItem isFirst >>= k) (cs ++ rest)).toOption = (value? item).bind g := by
  cases hitems with
  | cons hseparator hitem hitems =>
    rw [List.append_assoc, List.append_assoc,
      bind_of_ok (Json.Reader.hasItem_spells hseparator hitem _), hk,
      ← List.nil_append (_ ++ _), h.bind f Json.isGap_nil hitem]
    exact congrArg _ (funext fun a => hrest a _ hitems)

/-- What is read after the question for another item, if there is none. -/
theorem hasItem_nil {β : Type} (hitems : SpellsItems false [] cs) (k : Bool → Json.Reader β) :
    (Json.Reader.hasItem false >>= k) (cs ++ rest) = k false (']' :: rest) := by
  cases hitems with
  | nil hgap =>
    rw [List.append_assoc, List.singleton_append, bind_of_ok (Json.Reader.hasItem_close hgap)]

/-- The end of an array, which has to be there after four items. -/
theorem ending_takes {items : List Document} (hitems : SpellsItems false items cs)
    (result : RunResult) :
    ((Json.Reader.ending ']' >>= fun _ => pure result : Json.Reader RunResult)
      (cs ++ rest)).toOption = if items.isEmpty then some (result, rest) else none := by
  cases hitems with
  | nil hgap =>
    rw [List.append_assoc, List.singleton_append, bind_of_ok (Json.Reader.ending_gap hgap rfl)]
    rfl
  | cons hseparator _ _ =>
    cases hseparator with
    | later hgap _ =>
      simp only [List.append_assoc, List.cons_append]
      rw [toOption_bind, Json.Reader.toOption_ending_comma hgap (by decide)]
      rfl

theorem takes_failureAt (success : Bool) (output : List String) (error : Option String)
    {items : List Document} (hitems : SpellsItems false items cs) (before : Document) :
    ((do
      let failure ← if ← Json.Reader.hasItem false then Json.Reader.optional readKind else pure none
      Json.Reader.ending ']'
      return (⟨success, output, error, failure⟩ : RunResult) : Json.Reader RunResult)
        (cs ++ rest)).toOption =
      (failureAt? (before :: items)).map fun failure =>
        (⟨success, output, error, failure⟩, rest) := by
  match items, hitems with
  | [], hitems =>
    rw [hasItem_nil hitems, if_neg Bool.false_ne_true, pure_bind]
    dsimp only
    rw [bind_of_ok (Json.Reader.ending_cons rfl)]
    rfl
  | failure :: items, hitems =>
    refine (hasItem_takes takes_readKind.optional hitems rfl fun _ _ h => ending_takes h _).trans ?_
    cases items <;> cases h : failure.optional? kind? <;> simp [failureAt?, h]

theorem takes_errorAt (success : Bool) (output : List String)
    {items : List Document} (hitems : SpellsItems false items cs) :
    ((do
      let error ←
        if ← Json.Reader.hasItem false then Json.Reader.optional Json.Reader.string else pure none
      let failure ← if ← Json.Reader.hasItem false then Json.Reader.optional readKind else pure none
      Json.Reader.ending ']'
      return (⟨success, output, error, failure⟩ : RunResult) : Json.Reader RunResult)
        (cs ++ rest)).toOption =
      (errorAt? items).bind fun error => (failureAt? items).map fun failure =>
        (⟨success, output, error, failure⟩, rest) := by
  match items, hitems with
  | [], hitems =>
    have hclose : SpellsItems false [] [']'] := .nil Json.isGap_nil
    rw [hasItem_nil hitems]
    exact takes_failureAt success output none hclose .null
  | error :: items, hitems =>
    exact hasItem_takes Json.Reader.takes_string.optional hitems rfl
      fun a _ h => takes_failureAt success output a h error

theorem takes_readArray {items : List Document} (h : SpellsItems true items cs)
    (rest : List Char) :
    (readArray (cs ++ rest)).toOption = (result? (.array items)).map (·, rest) := by
  rw [readArray]
  match items, h with
  | [], .nil hgap =>
    rw [List.append_assoc, List.singleton_append, bind_of_ok (Json.Reader.hasItem_close hgap)]
    rfl
  | [success], h =>
    refine (hasItem_takes Json.Reader.takes_bool h rfl (g := fun _ => none)
      fun a ds hds => ?_).trans ?_
    · rw [hasItem_nil hds]
      rfl
    · cases success.bool? <;> rfl
  | success :: output :: items, h =>
    refine (hasItem_takes Json.Reader.takes_bool h rfl fun a _ hds =>
      hasItem_takes Json.Reader.takes_stringList hds rfl fun b _ hds =>
        takes_errorAt a b hds).trans ?_
    rw [result?]
    cases success.bool? <;> cases output.texts? <;> cases errorAt? items <;>
      cases failureAt? items <;> rfl

theorem takes_reader : Takes RunResult.reader result? := by
  intro document gap cs hgap hspells rest
  rw [reader, bind_of_ok (Json.Reader.need_spells hgap hspells rest)]
  cases hspells with
  | null => exact refuses_unexpected _ _
  | bool b => cases b <;> exact refuses_unexpected _ _
  | text s => exact refuses_unexpected _ _
  | array hitems => exact takes_readArray hitems rest
  | object hmembers => exact takes_readObject hmembers rest

/-- A text is accepted as the result that its document describes, and otherwise refused. -/
theorem ofJson_spells (hgap : IsGap gap) (hspells : Spells document cs) (hgap' : IsGap gap')
    (result : RunResult) : ofJson (String.ofList (gap ++ (cs ++ gap'))) = .ok result ↔
      result? document = some result := by
  rw [← takes_reader.run hgap hspells hgap', ofJson]
  cases reader.run (String.ofList (gap ++ (cs ++ gap'))) <;> simp [Except.toOption]

/-! ### The marks of success -/

/-- The summary looks at the message alone. -/
theorem statusLine_eq_iff (result : RunResult) :
    result.statusLine = "✓ Passed" ↔ result.error = none := by
  obtain ⟨success, output, _ | error, failure⟩ := result
  · exact iff_of_true rfl rfl
  · refine iff_of_false (fun h => ?_) (Option.some_ne_none _)
    have hstart := congrArg (fun line => line.toList.head?) h
    cases failure <;> simp [statusLine] at hstart

/-- A value was found, and its place was open. -/
theorem map_placed?_eq_some {before found : Option α} {store : α → Members} {members' : Members} :
    (placed? before found).map store = some members' ↔
      before = none ∧ ∃ a, found = some a ∧ members' = store a := by
  cases before <;> simp [placed?, Option.map_eq_some_iff, eq_comm]

/-- A member fills the open place of its name, or is none of the four. -/
theorem store?_cases {members' : Members} (h : members.store? key value = some members') :
    (key = "success" ∧ members.success = none ∧
      ∃ b, value.bool? = some b ∧ members' = { members with success := some b }) ∨
    (key = "output" ∧ members.output = none ∧
      ∃ texts, value.texts? = some texts ∧ members' = { members with output := some texts }) ∨
    (key = "error" ∧ members.error = none ∧
      ∃ error, value.optional? Document.text? = some error ∧
        members' = { members with error := some error }) ∨
    (key = "failure" ∧ members.failure = none ∧
      ∃ failure, value.optional? kind? = some failure ∧
        members' = { members with failure := some failure }) ∨
    (key ∉ ["success", "output", "error", "failure"] ∧ members' = members) := by
  rw [Members.store?] at h
  split at h
  case isTrue hkey => exact .inl ⟨eq_of_beq hkey, map_placed?_eq_some.mp h⟩
  case isFalse hsuccess =>
  split at h
  case isTrue hkey => exact .inr (.inl ⟨eq_of_beq hkey, map_placed?_eq_some.mp h⟩)
  case isFalse houtput =>
  split at h
  case isTrue hkey => exact .inr (.inr (.inl ⟨eq_of_beq hkey, map_placed?_eq_some.mp h⟩))
  case isFalse herror =>
  split at h
  case isTrue hkey => exact .inr (.inr (.inr (.inl ⟨eq_of_beq hkey, map_placed?_eq_some.mp h⟩)))
  case isFalse hfailure =>
    obtain rfl := Option.some.inj h
    exact .inr (.inr (.inr (.inr ⟨by simp_all, rfl⟩)))

/-- Whether the run passed is stored by the member of that name. -/
theorem success_of_store {members' : Members} (h : members.store? key value = some members')
    (b : Bool) : members'.success = some b ↔
      members.success = some b ∨ ("success", .bool b) = (key, value) := by
  rcases store?_cases h with ⟨rfl, hopen, c, hvalue, rfl⟩ | ⟨rfl, -, -, -, rfl⟩ |
    ⟨rfl, -, -, -, rfl⟩ | ⟨rfl, -, -, -, rfl⟩ | ⟨hkey, rfl⟩
  · rw [hopen]
    cases value with
    | bool d =>
      obtain rfl := Option.some.inj hvalue
      simp [eq_comm]
    | _ => cases hvalue
  iterate 3 simp
  · have : "success" ≠ key := fun hsame => hkey (by simp [← hsame])
    simp [this]

/-- A message is stored by the member of that name. -/
theorem error_of_store {members' : Members} (h : members.store? key value = some members')
    (s : String) : members'.error = some (some s) ↔
      members.error = some (some s) ∨ ("error", .text s) = (key, value) := by
  rcases store?_cases h with ⟨rfl, -, -, -, rfl⟩ | ⟨rfl, -, -, -, rfl⟩ |
    ⟨rfl, hopen, error, hvalue, rfl⟩ | ⟨rfl, -, -, -, rfl⟩ | ⟨hkey, rfl⟩
  iterate 2 simp
  · rw [hopen]
    cases value with
    | null =>
      obtain rfl := Option.some.inj hvalue
      simp
    | text t =>
      obtain rfl := Option.some.inj hvalue
      simp [eq_comm]
    | _ => cases hvalue
  · simp
  · have : "error" ≠ key := fun hsame => hkey (by simp [← hsame])
    simp [this]

theorem success_of_storeAll {members' : Members} (h : members.storeAll? entries = some members')
    (b : Bool) :
    members'.success = some b ↔ members.success = some b ∨ ("success", .bool b) ∈ entries := by
  induction entries generalizing members with
  | nil =>
    obtain rfl := Option.some.inj h
    simp
  | cons entry entries ih =>
    obtain ⟨between, hentry, hrest⟩ := Option.bind_eq_some_iff.mp h
    rw [ih hrest, success_of_store hentry, or_assoc, List.mem_cons]

theorem error_of_storeAll {members' : Members} (h : members.storeAll? entries = some members')
    (s : String) : members'.error = some (some s) ↔
      members.error = some (some s) ∨ ("error", .text s) ∈ entries := by
  induction entries generalizing members with
  | nil =>
    obtain rfl := Option.some.inj h
    simp
  | cons entry entries ih =>
    obtain ⟨between, hentry, hrest⟩ := Option.bind_eq_some_iff.mp h
    rw [ih hrest, error_of_store hentry, or_assoc, List.mem_cons]

/-- The members of an object decide each for itself: the one whether the run passed, the other
what went wrong. -/
theorem marks_of_object {result : RunResult} (h : result? (.object entries) = some result) :
    (∀ b, result.success = b ↔ ("success", .bool b) ∈ entries) ∧
      ∀ s, result.error = some s ↔ ("error", .text s) ∈ entries := by
  obtain ⟨members, hmembers, hresult⟩ := Option.bind_eq_some_iff.mp h
  obtain ⟨_ | success, _ | output, error, failure⟩ := members
  · cases hresult
  · cases hresult
  · cases hresult
  obtain rfl := Option.some.inj hresult
  refine ⟨fun b => ?_, fun s => ?_⟩
  · have := success_of_storeAll hmembers b
    simpa using this
  · have := error_of_storeAll hmembers s
    cases error <;> simpa using this

/-- All results are accepted, whatever their marks are. -/
theorem ofJson_compact (result : RunResult) : ofJson result.document.compact = .ok result := by
  have hread := (reads_reader result).run (Json.spells_compactChars result.document)
    Json.isGap_nil Json.isGap_nil
  rwa [List.nil_append, List.append_nil] at hread

/-- The summary of an accepted result calls it a pass exactly if there is no message, for an object
exactly if no member gives one. That agrees with whether the run passed exactly if there is a
message exactly for failures, which the reader does not ask for. -/
theorem accepted_marks {text : String} {result : RunResult} (h : ofJson text = .ok result) :
    (result.statusLine = "✓ Passed" ↔ result.error = none) ∧
    ((result.statusLine = "✓ Passed" ↔ result.success = true) ↔
      (result.error.isSome = true ↔ result.success = false)) ∧
    (∀ {entries gap cs gap'}, IsGap gap → Spells (.object entries) cs → IsGap gap' →
      text = String.ofList (gap ++ (cs ++ gap')) →
        (result.success = true ↔ ("success", .bool true) ∈ entries) ∧
        (result.statusLine = "✓ Passed" ↔ ∀ s, ("error", .text s) ∉ entries)) ∧
    ∀ other : RunResult, ∃ text, ofJson text = .ok other := by
  refine ⟨statusLine_eq_iff result, ?_, ?_, fun other => ⟨other.document.compact, ?_⟩⟩
  · rw [statusLine_eq_iff]
    cases result.error <;> cases result.success <;> simp
  · rintro entries gap cs gap' hgap hspells hgap' rfl
    obtain ⟨hsuccess, herror⟩ := marks_of_object ((ofJson_spells hgap hspells hgap' result).mp h)
    refine ⟨hsuccess true, (statusLine_eq_iff result).trans ?_⟩
    simp only [← herror, Option.eq_none_iff_forall_ne_some, ne_eq]
  · exact ofJson_compact other

/-- The members may stand in another order, among others and with a null value. -/
theorem accepted_marks_any_order :
    let document : Document := .object [("note", .array [.null]), ("output", .array [.text "hi"]),
      ("error", .null), ("success", .bool true)]
    let result : RunResult := ⟨true, ["hi"], none, none⟩
    ofJson document.compact = .ok result ∧ result.statusLine = "✓ Passed" ∧
      (result.error.isSome = true ↔ result.success = false) := by
  intro document result
  have haccepted : ofJson document.compact = .ok result := by
    have hread := (ofJson_spells Json.isGap_nil (Json.spells_compactChars document) Json.isGap_nil
      result).mpr (by decide)
    rwa [List.nil_append, List.append_nil] at hread
  obtain ⟨hstatus, hmarks, -⟩ := accepted_marks haccepted
  exact ⟨haccepted, hstatus.mpr rfl, hmarks.mp (iff_of_true (hstatus.mpr rfl) rfl)⟩

/-- A failure without a message is accepted, and summed up as a pass. -/
theorem accepted_failure_without_error :
    let result : RunResult := ⟨false, [], none, none⟩
    ofJson "\x7b\"success\":false,\"output\":[]\x7d" = .ok result ∧
      result.statusLine = "✓ Passed" ∧
      ¬ (result.error.isSome = true ↔ result.success = false) ∧
      ¬ (result.statusLine = "✓ Passed" ↔ result.success = true) :=
  have htext : "\x7b\"success\":false,\"output\":[]\x7d" =
      (⟨false, [], none, none⟩ : RunResult).document.compact := by
    decide
  ⟨htext ▸ ofJson_compact _, rfl, by decide, by decide⟩

end Sandbox.RunResult
