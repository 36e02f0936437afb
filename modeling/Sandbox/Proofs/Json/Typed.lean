import Sandbox.Proofs.Json.Layout

/-!
# Documents for readers of known types

A reader of a known type takes some documents and refuses all others, in whatever way they are
written. What it takes is a function of the document alone. A value that nobody asked for is passed
over, whatever it is and however deep it is nested.

## Main definitions

* `Document.opening` : the first character of a document.
* `Reader.Takes` : what a reader takes, for every way to write a document.

## Main results

* `Reader.takes_bool`, `Reader.takes_string`, `Reader.takes_stringList`, `Reader.Takes.optional` :
  what readers of values of known types take.
* `Reader.takes_skipValue` : all values are passed over.
-/

namespace Sandbox.Json

/-- The first character of a document. -/
def Document.opening : Document → Char
  | null => 'n'
  | bool b => if b then 't' else 'f'
  | text _ => '"'
  | array _ => '['
  | object _ => '{'

namespace Document

/-- The truth value that a document is. -/
def bool? : Document → Option Bool
  | bool b => some b
  | _ => none

/-- The text that a document is. -/
def text? : Document → Option String
  | text s => some s
  | _ => none

/-- The texts that a document lists. -/
def texts? : Document → Option (List String)
  | array items => items.mapM text?
  | _ => none

/-- Nothing for the null value, and otherwise what `value?` finds. -/
def optional? {α : Type} (value? : Document → Option α) : Document → Option (Option α)
  | null => some none
  | document => (value? document).map some

/-- Whether a document is the null value. -/
def null? : Document → Option Unit
  | null => some ()
  | _ => none

end Document

variable {α β : Type} {isFirst : Bool} {gap gap' cs ds rest separator : List Char}
  {document : Document} {reader : Reader α} {value? : Document → Option α} {fuel : Nat}

/-! ### The first character -/

theorem isSpace_opening (document : Document) : Reader.isSpace document.opening = false := by
  cases document with
  | bool b => cases b <;> rfl
  | _ => rfl

theorem opening_ne_close (document : Document) : document.opening ≠ ']' := by
  cases document with
  | bool b => cases b <;> simp [Document.opening]
  | _ => simp [Document.opening]

theorem eq_opening_cons (h : Spells document cs) : ∃ tail, cs = document.opening :: tail := by
  cases h with
  | bool b => cases b <;> exact ⟨_, rfl⟩
  | _ => exact ⟨_, rfl⟩

theorem length_pos_of_spells (h : Spells document cs) : 1 ≤ cs.length := by
  obtain ⟨tail, rfl⟩ := eq_opening_cons h
  exact Nat.le_add_left 1 _

namespace Reader

theorem need_spells (hgap : IsGap gap) (h : Spells document cs) (rest : List Char) :
    need (gap ++ (cs ++ rest)) = .ok (document.opening, cs ++ rest) := by
  obtain ⟨tail, rfl⟩ := eq_opening_cons h
  exact need_gap hgap (isSpace_opening document)

theorem peek_spells (hgap : IsGap gap) (h : Spells document cs) (rest : List Char) :
    peek (gap ++ (cs ++ rest)) = .ok (some document.opening, cs ++ rest) := by
  obtain ⟨tail, rfl⟩ := eq_opening_cons h
  exact peek_gap hgap (isSpace_opening document)

theorem hasItem_spells (hseparator : IsSeparator isFirst separator) (h : Spells document cs)
    (rest : List Char) : hasItem isFirst (separator ++ (cs ++ rest)) = .ok (true, cs ++ rest) := by
  obtain ⟨tail, rfl⟩ := eq_opening_cons h
  exact hasItem_separator hseparator (isSpace_opening document) (opening_ne_close document)

theorem ending_gap (hgap : IsGap gap) {close : Char} (hclose : isSpace close = false) :
    ending close (gap ++ close :: rest) = .ok ((), rest) := by
  rw [ending, bind_of_ok (need_gap hgap hclose), if_pos (beq_self_eq_true close)]
  rfl

theorem toOption_ending_comma (hgap : IsGap gap) {close : Char} (hclose : close ≠ ',') :
    (ending close (gap ++ ',' :: rest)).toOption = none := by
  rw [ending, bind_of_ok (need_gap hgap rfl), if_neg (by simpa using hclose.symm)]
  rfl

/-! ### Answers without their faults -/

theorem toOption_bind (x : Reader α) (f : α → Reader β) (cs : List Char) :
    ((x >>= f) cs).toOption = (x cs).toOption.bind fun p => (f p.1 p.2).toOption := by
  change (StateT.bind x f cs).toOption = _
  simp only [StateT.bind]
  cases x cs <;> rfl

theorem toOption_map (f : α → β) (x : Reader α) (cs : List Char) :
    ((f <$> x) cs).toOption = (x cs).toOption.map fun p => (f p.1, p.2) := by
  change (StateT.map f x cs).toOption = _
  simp only [StateT.map]
  cases x cs <;> rfl

/-- A reader refuses all texts. -/
def Refuses (reader : Reader α) : Prop :=
  ∀ cs, (reader cs).toOption = none

theorem refuses_throw (fault : ReadError) : Refuses (throw fault : Reader α) :=
  fun _ => rfl

theorem Refuses.bind (x : Reader α) {f : α → Reader β} (h : ∀ a, Refuses (f a)) :
    Refuses (x >>= f) := by
  intro cs
  rw [toOption_bind]
  cases (x cs).toOption with
  | none => rfl
  | some p => exact h p.1 p.2

/-- Where a value of another type stands, there is no answer. -/
theorem refuses_unexpected (expected : String) : Refuses (unexpected expected : Reader α) := by
  refine .bind _ fun c => ?_
  dsimp only
  split
  all_goals repeat' first
    | exact refuses_throw _
    | refine Refuses.bind _ fun _ => ?_
    | split

/-- A reader takes what `value?` finds in a document, however it is written, and refuses the
documents in which it finds nothing. -/
def Takes (reader : Reader α) (value? : Document → Option α) : Prop :=
  ∀ ⦃document gap cs⦄, IsGap gap → Spells document cs → ∀ rest,
    (reader (gap ++ (cs ++ rest))).toOption = (value? document).map (·, rest)

theorem Takes.front (h : Takes reader value?) (hspells : Spells document cs) (rest : List Char) :
    (reader (cs ++ rest)).toOption = (value? document).map (·, rest) :=
  h isGap_nil hspells rest

theorem takes_bool : Takes bool Document.bool? := by
  intro document gap cs hgap hspells rest
  cases document with
  | bool b => rw [reads_bool b hgap hspells]; rfl
  | _ =>
    rw [bool, bind_of_ok (need_spells hgap hspells rest)]
    exact refuses_unexpected _ _

theorem takes_string : Takes string Document.text? := by
  intro document gap cs hgap hspells rest
  cases document with
  | text s => rw [reads_string s hgap hspells]; rfl
  | bool b =>
    rw [string, bind_of_ok (need_spells hgap hspells rest)]
    cases b <;> exact refuses_unexpected _ _
  | _ =>
    rw [string, bind_of_ok (need_spells hgap hspells rest)]
    exact refuses_unexpected _ _

/-- The texts of the items of an array, and its end. -/
theorem stringsFrom_spellsItems {items : List Document} (h : SpellsItems isFirst items cs)
    (done : List String) (hfuel : items.length < fuel) :
    (stringsFrom fuel isFirst done (cs ++ rest)).toOption =
      (items.mapM Document.text?).map fun texts => (done.reverse ++ texts, rest) := by
  induction items generalizing fuel isFirst done cs with
  | nil =>
    rw [stringsFrom_spells [] h hfuel]
    rfl
  | cons item items ih =>
    obtain ⟨fuel, rfl⟩ := Nat.exists_eq_add_one_of_ne_zero (Nat.ne_of_gt (Nat.zero_lt_of_lt hfuel))
    cases h with
    | cons hseparator hitem hitems =>
      rw [stringsFrom, List.append_assoc, List.append_assoc,
        bind_of_ok (hasItem_spells hseparator hitem _)]
      change ((string >>= _) _).toOption = _
      rw [toOption_bind, takes_string.front hitem, List.mapM_cons]
      cases item.text? with
      | none => rfl
      | some s =>
        have hrest := ih hitems (s :: done) (Nat.lt_of_succ_lt_succ hfuel)
        simp only [Option.map_some, Option.bind_some, hrest]
        cases items.mapM Document.text? <;> simp

theorem takes_stringList : Takes stringList Document.texts? := by
  intro document gap cs hgap hspells rest
  rw [stringList, bind_of_ok (need_spells hgap hspells rest)]
  cases hspells with
  | array hitems =>
    change ((advance >>= fun _ => get >>= _) _).toOption = _
    rw [List.cons_append, bind_of_ok advance_cons, bind_of_ok get_eq,
      stringsFrom_spellsItems hitems []]
    · rfl
    · have := length_le_of_spellsItems hitems
      simp only [if_true, List.length_append] at this ⊢
      omega
  | bool b => cases b <;> exact refuses_unexpected _ _
  | _ => exact refuses_unexpected _ _

theorem Takes.optional (h : Takes reader value?) :
    Takes (Reader.optional reader) (Document.optional? value?) := by
  intro document gap cs hgap hspells rest
  rw [Reader.optional, bind_of_ok (peek_spells hgap hspells rest)]
  have hsome : ((some <$> reader) (cs ++ rest)).toOption =
      ((value? document).map some).map (·, rest) := by
    rw [toOption_map, h.front hspells, Option.map_map, Option.map_map]
    rfl
  cases document with
  | null =>
    cases hspells
    change ((advance >>= fun _ => word "ull".toList >>= _)
      ('n' :: ("ull".toList ++ rest))).toOption = _
    rw [bind_of_ok advance_cons, bind_of_ok (word_append _)]
    rfl
  | bool b => cases b <;> exact hsome
  | _ => exact hsome

theorem takes_unit : Takes unit Document.null? := by
  intro document gap cs hgap hspells rest
  rw [unit, bind_of_ok (need_spells hgap hspells rest)]
  cases document with
  | null =>
    cases hspells
    change ((advance >>= fun _ => word "ull".toList) ('n' :: ("ull".toList ++ rest))).toOption = _
    rw [bind_of_ok advance_cons, word_append]
    rfl
  | bool b => cases b <;> exact refuses_unexpected _ _
  | _ => exact refuses_unexpected _ _

/-- What is read after a value. -/
theorem Takes.bind (h : Takes reader value?) (f : α → Reader β) (hgap : IsGap gap)
    (hspells : Spells document cs) (rest : List Char) :
    ((reader >>= f) (gap ++ (cs ++ rest))).toOption =
      (value? document).bind fun a => (f a rest).toOption := by
  rw [toOption_bind, h hgap hspells]
  cases value? document <;> rfl

/-! ### Values that are passed over -/

/-- A string that was written is passed over, after its opening quote. -/
theorem skipString_quote (s : String) :
    skipString (s.toList.flatMap escape ++ '"' :: rest) = .ok ((), rest) := by
  let digits : Reader Char := do
    let _ ← codeUnit
    return ' '
  have hdigits (c : Char) (rest : List Char) (hcontrol : c.toNat < 0x20) : digits
      ('0' :: '0' :: hexDigit (c.toNat / 16) :: hexDigit (c.toNat % 16) :: rest) =
      .ok (' ', rest) := by
    rw [show digits = (codeUnit >>= fun _ => pure ' ') from rfl,
      bind_of_ok (codeUnit_control hcontrol)]
    rfl
  have hskip (cs : List Char) : ∀ {fuel} done, cs.length < fuel →
      ∃ done', stringFrom digits fuel done (cs.flatMap escape ++ '"' :: rest) =
        .ok (done', rest) := by
    induction cs with
    | nil =>
      intro fuel done hfuel
      obtain ⟨fuel, rfl⟩ := Nat.exists_eq_add_one_of_ne_zero (Nat.ne_of_gt hfuel)
      exact ⟨done, rfl⟩
    | cons c cs ih =>
      intro fuel done hfuel
      obtain ⟨fuel, rfl⟩ :=
        Nat.exists_eq_add_one_of_ne_zero (Nat.ne_of_gt (Nat.zero_lt_of_lt hfuel))
      obtain ⟨c', -, hread⟩ := stringFrom_escape_of (hdigits c _) fuel done
      rw [List.flatMap_cons, List.append_assoc, hread]
      exact ih _ (Nat.lt_of_succ_lt_succ hfuel)
  have hfuel : s.toList.length < (s.toList.flatMap escape ++ '"' :: rest).length + 1 := by
    have := length_le_flatMap_escape s.toList
    simp only [List.length_append]
    omega
  obtain ⟨done', hread⟩ := hskip s.toList [] hfuel
  rw [skipString, bind_of_ok get_eq]
  change (stringFrom digits _ [] >>= _) _ = _
  rw [bind_of_ok hread]
  rfl

mutual

/-- A value is passed over, with the arrays and objects in it. -/
theorem skipFrom_spells {document : Document} {cs : List Char} (h : Spells document cs) :
    ∀ {fuel : Nat}, cs.length ≤ fuel → ∀ {gap : List Char}, IsGap gap → ∀ rest,
      skipFrom fuel (gap ++ (cs ++ rest)) = .ok ((), rest) := by
  intro fuel hfuel gap hgap rest
  obtain ⟨fuel, rfl⟩ := Nat.exists_eq_add_one_of_ne_zero
    (Nat.ne_of_gt (Nat.lt_of_lt_of_le (length_pos_of_spells h) hfuel))
  rw [skipFrom, bind_of_ok (need_spells hgap h rest)]
  match h with
  | .null =>
    change (advance >>= fun _ => word "ull".toList) ('n' :: ("ull".toList ++ rest)) = _
    rw [bind_of_ok advance_cons, word_append]
  | .bool true =>
    change (advance >>= fun _ => word "rue".toList) ('t' :: ("rue".toList ++ rest)) = _
    rw [bind_of_ok advance_cons, word_append]
  | .bool false =>
    change (advance >>= fun _ => word "alse".toList) ('f' :: ("alse".toList ++ rest)) = _
    rw [bind_of_ok advance_cons, word_append]
  | .text s =>
    change (advance >>= fun _ => skipString) _ = _
    rw [quote_append, bind_of_ok advance_cons, skipString_quote]
  | @Spells.array items cs hitems =>
    change (advance >>= fun _ => skipItems fuel true) ('[' :: (cs ++ rest)) = _
    rw [bind_of_ok advance_cons, skipItems_spells hitems (Nat.le_of_succ_le_succ hfuel)]
  | @Spells.object members cs hmembers =>
    change (advance >>= fun _ => skipMembers fuel true) ('{' :: (cs ++ rest)) = _
    rw [bind_of_ok advance_cons, skipMembers_spells hmembers (Nat.le_of_succ_le_succ hfuel)]

theorem skipItems_spells {isFirst : Bool} {items : List Document} {cs : List Char}
    (h : SpellsItems isFirst items cs) : ∀ {fuel : Nat}, cs.length ≤ fuel → ∀ rest,
      skipItems fuel isFirst (cs ++ rest) = .ok ((), rest) := by
  intro fuel hfuel rest
  match h with
  | .nil hgap =>
    simp only [List.length_append, List.length_cons, List.length_nil] at hfuel
    obtain ⟨fuel, rfl⟩ := Nat.exists_eq_add_one_of_ne_zero (show fuel ≠ 0 by omega)
    rw [skipItems, List.append_assoc, List.singleton_append, bind_of_ok (hasItem_close hgap)]
    exact ending_cons rfl
  | @SpellsItems.cons _ item items separator cs ds hseparator hitem hitems =>
    have hone := length_pos_of_spells hitem
    have hmore : 1 ≤ ds.length :=
      Nat.le_trans (Nat.le_add_left 1 _) (length_le_of_spellsItems hitems)
    simp only [List.length_append] at hfuel
    obtain ⟨fuel, rfl⟩ := Nat.exists_eq_add_one_of_ne_zero (show fuel ≠ 0 by omega)
    have hskip : skipFrom fuel (cs ++ (ds ++ rest)) = .ok ((), ds ++ rest) :=
      skipFrom_spells hitem (by omega) isGap_nil (ds ++ rest)
    rw [skipItems, List.append_assoc, List.append_assoc,
      bind_of_ok (hasItem_spells hseparator hitem _)]
    change (skipFrom fuel >>= fun _ => skipItems fuel false) _ = _
    rw [bind_of_ok hskip, skipItems_spells hitems (by omega)]

theorem skipMembers_spells {isFirst : Bool} {members : List (String × Document)} {cs : List Char}
    (h : SpellsMembers isFirst members cs) : ∀ {fuel : Nat}, cs.length ≤ fuel → ∀ rest,
      skipMembers fuel isFirst (cs ++ rest) = .ok ((), rest) := by
  intro fuel hfuel rest
  match h with
  | .nil hgap =>
    simp only [List.length_append, List.length_cons, List.length_nil] at hfuel
    obtain ⟨fuel, rfl⟩ := Nat.exists_eq_add_one_of_ne_zero (show fuel ≠ 0 by omega)
    rw [skipMembers, List.append_assoc, List.singleton_append, bind_of_ok (hasMember_close hgap)]
    exact ending_cons rfl
  | @SpellsMembers.cons _ key value members separator gap gap' cs ds hseparator hgap hgap' hvalue
      hmembers =>
    have hone := length_pos_of_spells hvalue
    have hmore : 1 ≤ ds.length :=
      Nat.le_trans (Nat.le_add_left 1 _) (length_le_of_spellsMembers hmembers)
    simp only [List.length_append, List.length_cons] at hfuel
    obtain ⟨fuel, rfl⟩ := Nat.exists_eq_add_one_of_ne_zero (show fuel ≠ 0 by omega)
    have hskip := skipFrom_spells hvalue (show cs.length ≤ fuel by omega) hgap' (ds ++ rest)
    rw [skipMembers, List.append_assoc, List.append_assoc, quote_append,
      bind_of_ok (hasMember_separator hseparator)]
    change (advance >>= fun _ => skipString >>= fun _ => colon >>= fun _ =>
      skipFrom fuel >>= fun _ => skipMembers fuel false) _ = _
    rw [bind_of_ok advance_cons, bind_of_ok (skipString_quote key)]
    simp only [List.append_assoc, List.cons_append]
    rw [bind_of_ok (colon_gap hgap), bind_of_ok hskip, skipMembers_spells hmembers (by omega)]

end

theorem takes_skipValue : Takes skipValue fun _ => some () := by
  intro document gap cs hgap hspells rest
  have hlength : cs.length ≤ 2 * (gap ++ (cs ++ rest)).length + 2 := by
    simp only [List.length_append]
    omega
  rw [skipValue, bind_of_ok get_eq, skipFrom_spells hspells hlength hgap]
  rfl

/-- A whole text is taken or refused as its document is; spaces may stand around it. -/
theorem Takes.run (h : Takes reader value?) (hgap : IsGap gap) (hspells : Spells document cs)
    (hgap' : IsGap gap') :
    (reader.run (String.ofList (gap ++ (cs ++ gap')))).toOption = value? document := by
  have hread := h hgap hspells gap'
  have hrest : gap'.all isSpace = true := List.all_eq_true.mpr hgap'
  simp only [Reader.run, String.toList_ofList, StateT.run]
  cases hreader : reader (gap ++ (cs ++ gap')) with
  | error fault =>
    rw [hreader] at hread
    exact (Option.map_eq_none_iff.mp hread.symm).symm
  | ok read =>
    rw [hreader] at hread
    obtain ⟨a, hvalue, rfl⟩ := Option.map_eq_some_iff.mp hread.symm
    rw [hvalue]
    change (if gap'.all isSpace then _ else _ : Except _ _).toOption = _
    rw [if_pos hrest]
    rfl

end Reader

end Sandbox.Json
