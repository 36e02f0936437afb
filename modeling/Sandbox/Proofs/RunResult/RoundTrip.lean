import Sandbox.CommandLine.Jobs
import Sandbox.Proofs.Json.Layout

/-!
# Results are read back

A result that was stored as JSON is read back as it was. Its members are read one after another,
and each fills a place that was still open.

## Main definitions

* `Fills` : the members that fill an open place, and what is read then.

## Main results

* `readMembers_spells` : members that fill open places one after another are read.
* `reads_reader` : a result is read back from every way to write its document.
* `ofJson_document` : it is read back from both layouts, and from what a run prints.
-/

namespace Sandbox.RunResult

open Json (Document IsGap IsSeparator Spells SpellsMembers)
open Json.Reader (Reads bind_of_ok)

/-- The members that fill an open place, and what is read then. -/
inductive Fills : Members → String × Document → Members → Prop where
  /-- Whether the run passed. -/
  | success (b : Bool) (output : Option (List String)) (error : Option (Option String))
    (failure : Option (Option FailureKind)) :
    Fills ⟨none, output, error, failure⟩ ("success", .bool b) ⟨some b, output, error, failure⟩
  /-- The output. -/
  | output (texts : List String) (success : Option Bool) (error : Option (Option String))
    (failure : Option (Option FailureKind)) :
    Fills ⟨success, none, error, failure⟩ ("output", .array (texts.map .text))
      ⟨success, some texts, error, failure⟩
  /-- What went wrong. -/
  | error (s : String) (success : Option Bool) (output : Option (List String))
    (failure : Option (Option FailureKind)) :
    Fills ⟨success, output, none, failure⟩ ("error", .text s)
      ⟨success, output, some (some s), failure⟩
  /-- The class of the failure. -/
  | failure (kind : FailureKind) (success : Option Bool) (output : Option (List String))
    (error : Option (Option String)) :
    Fills ⟨success, output, error, none⟩ ("failure", .text kind.name)
      ⟨success, output, error, some (some kind)⟩

/-- Members that fill open places one after another. -/
inductive FillsAll : Members → List (String × Document) → Members → Prop where
  /-- No member is left. -/
  | nil (members : Members) : FillsAll members [] members
  /-- A member, and those after it. -/
  | cons {members members' members'' : Members} {entry : String × Document}
    {entries : List (String × Document)} (hentry : Fills members entry members')
    (hentries : FillsAll members' entries members'') :
    FillsAll members (entry :: entries) members''

variable {α : Type} {isFirst : Bool} {gap gap' cs rest : List Char} {members members' : Members}
  {key : String} {value : Document} {entries : List (String × Document)} {a : α}

/-! ### Members -/

theorem ofName?_name (kind : FailureKind) : FailureKind.ofName? kind.name = some kind := by
  cases kind <;> decide

theorem reads_readKind (kind : FailureKind) : Reads readKind (.text kind.name) kind := by
  rintro gap cs hgap ⟨⟩ rest
  rw [Json.Reader.quote_append, readKind, bind_of_ok (Json.Reader.need_gap hgap rfl)]
  change readKindName _ = _
  rw [readKindName, bind_of_ok (Json.Reader.need_cons rfl)]
  change (Json.Reader.advance >>= fun _ => Json.Reader.stringBody >>= _) _ = _
  rw [bind_of_ok Json.Reader.advance_cons, bind_of_ok (Json.Reader.stringBody_quote _)]
  simp only [ofName?_name]
  rfl

theorem readOnce_colon {reader : Json.Reader α} (h : Reads reader value a) (name : String)
    (hgap : IsGap gap) (hgap' : IsGap gap') (hvalue : Spells value cs) (rest : List Char) :
    readOnce name none reader (gap ++ ':' :: (gap' ++ (cs ++ rest))) = .ok (a, rest) := by
  change (Json.Reader.colon >>= fun _ => reader) _ = _
  rw [bind_of_ok (Json.Reader.colon_gap hgap), h hgap' hvalue]

/-- A member that fills an open place is read. -/
theorem readMember_spells (h : Fills members (key, value) members') (hgap : IsGap gap)
    (hgap' : IsGap gap') (hvalue : Spells value cs) (rest : List Char) :
    readMember members key (gap ++ ':' :: (gap' ++ (cs ++ rest))) = .ok (members', rest) := by
  cases h with
  | success b =>
    change (readOnce "success" none Json.Reader.bool >>= _) _ = _
    rw [bind_of_ok (readOnce_colon (Json.Reader.reads_bool b) _ hgap hgap' hvalue rest)]
    rfl
  | output texts =>
    change (readOnce "output" none Json.Reader.stringList >>= _) _ = _
    rw [bind_of_ok
      (readOnce_colon (Json.Reader.reads_stringList texts) _ hgap hgap' hvalue rest)]
    rfl
  | error s =>
    change (readOnce "error" none (Json.Reader.optional Json.Reader.string) >>= _) _ = _
    rw [bind_of_ok
      (readOnce_colon (Json.Reader.reads_string s).optional _ hgap hgap' hvalue rest)]
    rfl
  | failure kind =>
    change (readOnce "failure" none (Json.Reader.optional readKind) >>= _) _ = _
    rw [bind_of_ok (readOnce_colon (reads_readKind kind).optional _ hgap hgap' hvalue rest)]
    rfl

/-- Members that fill open places one after another are read up to the end of the object. -/
theorem readMembers_spells (h : FillsAll members entries members')
    (hspells : SpellsMembers isFirst entries cs) {fuel : Nat} (hfuel : entries.length < fuel) :
    readMembers fuel isFirst members (cs ++ rest) = .ok (members', '}' :: rest) := by
  induction h generalizing fuel isFirst cs with
  | nil members =>
    obtain ⟨fuel, rfl⟩ := Nat.exists_eq_add_one_of_ne_zero (Nat.ne_of_gt hfuel)
    cases hspells with
    | nil hgap =>
      rw [readMembers, List.append_assoc, List.singleton_append,
        bind_of_ok (Json.Reader.hasMember_close hgap)]
      rfl
  | cons hentry _ ih =>
    obtain ⟨fuel, rfl⟩ := Nat.exists_eq_add_one_of_ne_zero (Nat.ne_of_gt (Nat.zero_lt_of_lt hfuel))
    cases hspells with
    | cons hseparator hgap hgap' hvalue hmembers =>
      rw [readMembers, List.append_assoc, List.append_assoc, Json.Reader.quote_append,
        bind_of_ok (Json.Reader.hasMember_separator hseparator)]
      change (Json.Reader.advance >>= fun _ => Json.Reader.stringBody >>= _) _ = _
      rw [bind_of_ok Json.Reader.advance_cons, bind_of_ok (Json.Reader.stringBody_quote _)]
      simp only [List.append_assoc, List.cons_append]
      rw [bind_of_ok (readMember_spells hentry hgap hgap' hvalue _),
        ih hmembers (Nat.lt_of_succ_lt_succ hfuel)]

/-! ### Results -/

/-- The members of a result fill the places one after another. -/
theorem fillsAll_document (result : RunResult) :
    ∃ entries, result.document = .object entries ∧ FillsAll ⟨none, none, none, none⟩ entries
      ⟨some result.success, some result.output, result.error.map some,
        result.failure.map some⟩ := by
  obtain ⟨success, output, error, failure⟩ := result
  refine ⟨_, rfl, .cons (.success ..) (.cons (.output ..) ?_)⟩
  cases error with
  | none =>
    cases failure with
    | none => exact .nil _
    | some kind => exact .cons (.failure ..) (.nil _)
  | some s =>
    refine .cons (.error ..) ?_
    cases failure with
    | none => exact .nil _
    | some kind => exact .cons (.failure ..) (.nil _)

/-- A result is read back from every way to write its document. -/
theorem reads_reader (result : RunResult) : Reads reader result.document result := by
  obtain ⟨entries, hdocument, hfills⟩ := fillsAll_document result
  intro gap cs hgap hspells rest
  rw [hdocument] at hspells
  cases hspells with
  | @object _ cs hmembers =>
    have hfuel : entries.length < (cs ++ rest).length + 1 := by
      have := Json.length_le_of_spellsMembers hmembers
      simp only [if_true, List.length_append] at this ⊢
      omega
    have hresult : ofMembers ⟨some result.success, some result.output, result.error.map some,
        result.failure.map some⟩ = .ok result := by
      obtain ⟨success, output, _ | error, _ | kind⟩ := result <;> rfl
    rw [List.cons_append, reader, bind_of_ok (Json.Reader.need_gap hgap rfl)]
    change (Json.Reader.advance >>= fun _ => readObject) _ = _
    rw [bind_of_ok Json.Reader.advance_cons, readObject, bind_of_ok Json.Reader.get_eq,
      bind_of_ok (readMembers_spells hfills hmembers hfuel)]
    simp only [hresult]
    rw [bind_of_ok (Json.Reader.ending_cons rfl)]
    rfl

/-- A result is read back from both layouts of its document, and from what a run prints. -/
theorem ofJson_document (result : RunResult) :
    ofJson result.document.compact = .ok result ∧ ofJson result.document.pretty = .ok result ∧
      (CommandLine.reportResult true result).stdout.map ofJson = [.ok result] := by
  have hread : ∀ cs, Spells result.document cs → ofJson (String.ofList cs) = .ok result := by
    intro cs hspells
    have hrun := (reads_reader result).run hspells Json.isGap_nil Json.isGap_nil
    rwa [List.nil_append, List.append_nil] at hrun
  have hpretty : ofJson result.document.pretty = .ok result :=
    hread _ (Json.spells_prettyChars 0 result.document)
  refine ⟨hread _ (Json.spells_compactChars result.document), hpretty, ?_⟩
  rw [CommandLine.reportResult, if_pos rfl, List.map_singleton, hpretty]

end Sandbox.RunResult
