import Sandbox.Json.Reader
import Sandbox.Json.Writer

/-!
# Layouts of documents

A document can be written in many ways, which differ in the spaces between its tokens. The two
layouts that are written are among them, and a reader of known type gets the same value from all of
them.

## Main definitions

* `IsGap` : spaces between tokens.
* `Spells` : the ways to write a document.
* `Reader.Reads` : a reader gets a value from every way to write a document.

## Main results

* `spells_compactChars`, `spells_prettyChars` : both layouts are ways to write a document.
* `Reader.stringBody_quote` : a text is read back from its string, whatever its characters are.
* `Reader.reads_bool`, `Reader.reads_string`, `Reader.reads_stringList`, `Reader.Reads.optional` :
  the values of known types are read back.
* `Reader.Reads.run` : a whole text is read, spaces around the document included.
-/

namespace Sandbox.Json

/-- Spaces between tokens. -/
def IsGap (cs : List Char) : Prop :=
  ∀ c ∈ cs, Reader.isSpace c = true

/-- What separates an item from what stands before it: a comma, unless it is the first one. -/
inductive IsSeparator : (isFirst : Bool) → List Char → Prop where
  /-- Before the first item stands nothing. -/
  | first {gap : List Char} (hgap : IsGap gap) : IsSeparator true gap
  /-- Before any other item stands a comma. -/
  | later {gap gap' : List Char} (hgap : IsGap gap) (hgap' : IsGap gap') :
    IsSeparator false (gap ++ ',' :: gap')

mutual

/-- The ways to write a document, which differ in the spaces between its tokens. -/
inductive Spells : Document → List Char → Prop where
  /-- The null value. -/
  | null : Spells .null "null".toList
  /-- A truth value. -/
  | bool (b : Bool) : Spells (.bool b) (if b then "true" else "false").toList
  /-- A string. -/
  | text (s : String) : Spells (.text s) (quote s.toList)
  /-- An array. -/
  | array {items : List Document} {cs : List Char} (hitems : SpellsItems true items cs) :
    Spells (.array items) ('[' :: cs)
  /-- An object. -/
  | object {members : List (String × Document)} {cs : List Char}
    (hmembers : SpellsMembers true members cs) : Spells (.object members) ('{' :: cs)

/-- The ways to write the items of an array and its end. -/
inductive SpellsItems : (isFirst : Bool) → List Document → List Char → Prop where
  /-- No item is left. -/
  | nil {isFirst : Bool} {gap : List Char} (hgap : IsGap gap) :
    SpellsItems isFirst [] (gap ++ [']'])
  /-- An item, and those after it. -/
  | cons {isFirst : Bool} {item : Document} {items : List Document} {separator cs ds : List Char}
    (hseparator : IsSeparator isFirst separator) (hitem : Spells item cs)
    (hitems : SpellsItems false items ds) :
    SpellsItems isFirst (item :: items) (separator ++ (cs ++ ds))

/-- The ways to write the members of an object and its end. -/
inductive SpellsMembers : (isFirst : Bool) → List (String × Document) → List Char → Prop where
  /-- No member is left. -/
  | nil {isFirst : Bool} {gap : List Char} (hgap : IsGap gap) :
    SpellsMembers isFirst [] (gap ++ ['}'])
  /-- A member, and those after it. -/
  | cons {isFirst : Bool} {key : String} {value : Document} {members : List (String × Document)}
    {separator gap gap' cs ds : List Char}
    (hseparator : IsSeparator isFirst separator) (hgap : IsGap gap) (hgap' : IsGap gap')
    (hvalue : Spells value cs) (hmembers : SpellsMembers false members ds) :
    SpellsMembers isFirst ((key, value) :: members)
      (separator ++ (quote key.toList ++ (gap ++ ':' :: (gap' ++ (cs ++ ds)))))

end

variable {α β : Type} {isFirst : Bool} {gap gap' cs ds rest separator : List Char} {c : Char}
  {document : Document} {a : α} {s : String}

/-! ### Gaps and separators -/

theorem isGap_nil : IsGap [] := by
  simp [IsGap]

theorem isGap_space : IsGap [' '] := by
  simp [IsGap, Reader.isSpace]

theorem isGap_indent (level : Nat) : IsGap (indent level) := by
  intro c hc
  obtain rfl | ⟨-, rfl⟩ : c = '\n' ∨ _ ∧ c = ' ' := by simpa [indent] using hc
  all_goals rfl

/-- The comma of the layout without spaces. -/
theorem isSeparator_compact (isFirst : Bool) :
    IsSeparator isFirst (if isFirst then [] else [',']) := by
  cases isFirst with
  | true => exact .first isGap_nil
  | false => exact .later isGap_nil isGap_nil

/-- Each item but the first takes at least its comma. -/
theorem length_separator (hseparator : IsSeparator isFirst separator) :
    (if isFirst then 0 else 1) ≤ separator.length := by
  cases hseparator with
  | first _ => exact Nat.zero_le _
  | later _ _ =>
    simp only [Bool.false_eq_true, if_false, List.length_append, List.length_cons]
    omega

/-- The items of an array are no more than the characters up to its end. -/
theorem length_le_of_spellsItems {items : List Document} (h : SpellsItems isFirst items cs) :
    items.length + (if isFirst then 0 else 1) ≤ cs.length := by
  induction items generalizing isFirst cs with
  | nil =>
    cases h
    simp only [List.length_append, List.length_nil]
    split <;> simp
  | cons item items ih =>
    cases h with
    | cons hseparator _ hitems =>
      have hrest := ih hitems
      have := length_separator hseparator
      simp only [Bool.false_eq_true, if_false, List.length_append, List.length_cons] at hrest ⊢
      omega

/-- The members of an object are no more than the characters up to its end. -/
theorem length_le_of_spellsMembers {members : List (String × Document)}
    (h : SpellsMembers isFirst members cs) :
    members.length + (if isFirst then 0 else 1) ≤ cs.length := by
  induction members generalizing isFirst cs with
  | nil =>
    cases h
    simp only [List.length_append, List.length_nil]
    split <;> simp
  | cons member members ih =>
    cases h with
    | cons hseparator _ _ _ hmembers =>
      have hrest := ih hmembers
      have := length_separator hseparator
      simp only [Bool.false_eq_true, if_false, List.length_append, List.length_cons] at hrest ⊢
      omega

/-! ### The layouts that are written -/

mutual

theorem spells_compactChars : (document : Document) → Spells document document.compactChars
  | .null => .null
  | .bool true => .bool true
  | .bool false => .bool false
  | .text s => .text s
  | .array items => by
    simpa [Document.compactChars] using Spells.array (spellsItems_compactItems true items)
  | .object members => by
    simpa [Document.compactChars] using Spells.object (spellsMembers_compactMembers true members)

theorem spellsItems_compactItems (isFirst : Bool) : (items : List Document) →
    SpellsItems isFirst items (Document.compactItems isFirst items ++ [']'])
  | [] => .nil isGap_nil
  | item :: items => by
    simpa [Document.compactItems] using SpellsItems.cons (isSeparator_compact isFirst)
      (spells_compactChars item) (spellsItems_compactItems false items)

theorem spellsMembers_compactMembers (isFirst : Bool) : (members : List (String × Document)) →
    SpellsMembers isFirst members (Document.compactMembers isFirst members ++ ['}'])
  | [] => .nil isGap_nil
  | (key, value) :: members => by
    simpa [Document.compactMembers] using SpellsMembers.cons
      (isSeparator_compact isFirst) isGap_nil isGap_nil
      (spells_compactChars value) (spellsMembers_compactMembers false members)

end

mutual

theorem spells_prettyChars (level : Nat) : (document : Document) →
    Spells document (document.prettyChars level)
  | .null => .null
  | .bool true => .bool true
  | .bool false => .bool false
  | .text s => .text s
  | .array [] => .array (.nil isGap_nil)
  | .array (item :: items) => by
    simpa [Document.prettyChars] using Spells.array (.cons (.first (isGap_indent (level + 1)))
      (spells_prettyChars (level + 1) item) (spellsItems_prettyItems level items))
  | .object [] => .object (.nil isGap_nil)
  | .object ((key, value) :: members) => by
    simpa [Document.prettyChars] using Spells.object (.cons
      (.first (isGap_indent (level + 1))) isGap_nil isGap_space
      (spells_prettyChars (level + 1) value) (spellsMembers_prettyMembers level members))

theorem spellsItems_prettyItems (level : Nat) : (items : List Document) →
    SpellsItems false items (Document.prettyItems level items ++ (indent level ++ [']']))
  | [] => .nil (isGap_indent level)
  | item :: items => by
    simpa [Document.prettyItems] using SpellsItems.cons
      (.later isGap_nil (isGap_indent (level + 1)))
      (spells_prettyChars (level + 1) item) (spellsItems_prettyItems level items)

theorem spellsMembers_prettyMembers (level : Nat) : (members : List (String × Document)) →
    SpellsMembers false members (Document.prettyMembers level members ++ (indent level ++ ['}']))
  | [] => .nil (isGap_indent level)
  | (key, value) :: members => by
    simpa [Document.prettyMembers] using SpellsMembers.cons
      (.later isGap_nil (isGap_indent (level + 1))) isGap_nil isGap_space
      (spells_prettyChars (level + 1) value) (spellsMembers_prettyMembers level members)

end

namespace Reader

/-- One reader after another. -/
theorem bind_of_ok {x : Reader α} {f : α → Reader β} (h : x cs = .ok (a, ds)) :
    (x >>= f) cs = f a ds := by
  change StateT.bind x f cs = _
  simp only [StateT.bind, h]
  rfl

theorem get_eq : (get : Reader (List Char)) cs = .ok (cs, cs) :=
  rfl

theorem set_eq : (set ds : Reader PUnit) cs = .ok ((), ds) :=
  rfl

/-! ### Between tokens -/

theorem peek_gap (hgap : IsGap gap) (hc : isSpace c = false) :
    peek (gap ++ c :: rest) = .ok (some c, c :: rest) := by
  have hdrop : (gap ++ c :: rest).dropWhile isSpace = c :: rest := by
    rw [List.dropWhile_append_of_pos hgap]
    simp [hc]
  change Except.ok (((gap ++ c :: rest).dropWhile isSpace).head?,
    (gap ++ c :: rest).dropWhile isSpace) = _
  rw [hdrop, List.head?_cons]

theorem need_gap (hgap : IsGap gap) (hc : isSpace c = false) :
    need (gap ++ c :: rest) = .ok (c, c :: rest) := by
  rw [need, bind_of_ok (peek_gap hgap hc)]
  rfl

theorem need_cons (hc : isSpace c = false) : need (c :: rest) = .ok (c, c :: rest) :=
  need_gap isGap_nil hc

theorem advance_cons : advance (c :: rest) = .ok ((), rest) :=
  rfl

theorem word_append (w : List Char) : word w (w ++ rest) = .ok ((), rest) := by
  induction w with
  | nil => rfl
  | cons c w ih =>
    rw [word, List.cons_append, bind_of_ok get_eq]
    change (if (c == c) = true then set (w ++ rest) >>= fun _ => word w
      else throw ReadError.malformed) (c :: (w ++ rest)) = _
    rw [if_pos (beq_self_eq_true c), bind_of_ok set_eq, ih]

theorem hasItem_separator (hseparator : IsSeparator isFirst separator)
    (hc : isSpace c = false) (hclose : c ≠ ']') :
    hasItem isFirst (separator ++ c :: rest) = .ok (true, c :: rest) := by
  cases hseparator with
  | first hgap =>
    rw [hasItem, bind_of_ok (need_gap hgap hc)]
    split
    · exact absurd rfl hclose
    · rfl
  | later hgap hgap' =>
    rw [hasItem, List.append_assoc, List.cons_append, bind_of_ok (need_gap hgap rfl)]
    change (advance >>= _) _ = _
    rw [bind_of_ok advance_cons, bind_of_ok (need_gap hgap' hc)]
    split
    · exact absurd rfl hclose
    · rfl

theorem hasItem_close (hgap : IsGap gap) :
    hasItem isFirst (gap ++ ']' :: rest) = .ok (false, ']' :: rest) := by
  rw [hasItem, bind_of_ok (need_gap hgap rfl)]
  rfl

theorem hasMember_separator (hseparator : IsSeparator isFirst separator) :
    hasMember isFirst (separator ++ '"' :: rest) = .ok (true, '"' :: rest) := by
  cases hseparator with
  | first hgap =>
    rw [hasMember, bind_of_ok (need_gap hgap rfl)]
    rfl
  | later hgap hgap' =>
    rw [hasMember, List.append_assoc, List.cons_append, bind_of_ok (need_gap hgap rfl)]
    change (advance >>= _) _ = _
    rw [bind_of_ok advance_cons, bind_of_ok (need_gap hgap' rfl)]
    rfl

theorem hasMember_close (hgap : IsGap gap) :
    hasMember isFirst (gap ++ '}' :: rest) = .ok (false, '}' :: rest) := by
  rw [hasMember, bind_of_ok (need_gap hgap rfl)]
  rfl

theorem colon_gap (hgap : IsGap gap) : colon (gap ++ ':' :: rest) = .ok ((), rest) := by
  rw [colon, bind_of_ok (need_gap hgap rfl)]
  rfl

theorem ending_cons (hc : isSpace c = false) : ending c (c :: rest) = .ok ((), rest) := by
  rw [ending, bind_of_ok (need_cons hc), if_pos (beq_self_eq_true c)]
  rfl

/-! ### Strings -/

/-- The four digits after a backslash and `u` are those of the control that was escaped. -/
theorem codeUnit_control {n : Nat} (hn : n < 0x20) :
    codeUnit ('0' :: '0' :: hexDigit (n / 16) :: hexDigit (n % 16) :: rest) = .ok (n, rest) := by
  have hquad : ∀ n < 0x20,
      hexQuad? ['0', '0', hexDigit (n / 16), hexDigit (n % 16)] = some n := by decide
  have hbytes : ∀ n < 0x20, ¬ (['0', '0', hexDigit (n / 16), hexDigit (n % 16)].foldl
      (fun n c => n + c.utf8Size) 0) < 4 := by decide
  rw [codeUnit, bind_of_ok get_eq]
  dsimp only
  rw [if_neg (by exact hbytes n hn)]
  simp only [List.take_succ_cons, List.take_zero, hquad n hn]
  rfl

theorem unicodeEscape_control {n : Nat} (hn : n < 0x20) :
    unicodeEscape ('0' :: '0' :: hexDigit (n / 16) :: hexDigit (n % 16) :: rest) =
      .ok (Char.ofNat n, rest) := by
  rw [unicodeEscape, bind_of_ok (codeUnit_control hn), if_neg (by omega), if_neg (by omega)]
  rfl

/-- A character that was written is read as itself, or as what is read for the digits of its
escape. -/
theorem stringFrom_escape_of {asUnicode : Reader Char} {c shown : Char}
    (hunicode : c.toNat < 0x20 → asUnicode
      ('0' :: '0' :: hexDigit (c.toNat / 16) :: hexDigit (c.toNat % 16) :: rest) =
      .ok (shown, rest)) (fuel : Nat) (done : List Char) :
    ∃ c', (c' = c ∨ c' = shown) ∧ stringFrom asUnicode (fuel + 1) done (escape c ++ rest) =
      stringFrom asUnicode fuel (c' :: done) rest := by
  unfold escape
  split
  iterate 7 exact ⟨_, .inl rfl, rfl⟩
  next hquote hbackslash _ _ _ _ _ =>
  split
  · next hcontrol =>
    have hescaped : escaped asUnicode
        ('u' :: '0' :: '0' :: hexDigit (c.toNat / 16) :: hexDigit (c.toNat % 16) :: rest) =
        .ok (shown, rest) := by
      rw [escaped, bind_of_ok get_eq]
      change ((set _ : Reader PUnit) >>= fun _ => asUnicode) _ = _
      rw [bind_of_ok set_eq, hunicode hcontrol]
    refine ⟨shown, .inr rfl, ?_⟩
    rw [stringFrom, List.cons_append, bind_of_ok get_eq]
    change ((set _ : Reader PUnit) >>= fun _ => escaped asUnicode >>= _) _ = _
    rw [bind_of_ok set_eq]
    exact bind_of_ok hescaped
  · next hplain =>
    refine ⟨c, .inl rfl, ?_⟩
    rw [stringFrom, List.cons_append, bind_of_ok get_eq]
    change ((set rest : Reader PUnit) >>= _) _ = _
    rw [bind_of_ok set_eq, if_neg (by simpa using hquote), if_neg (by simpa using hbackslash),
      if_neg hplain]

/-- A character that was written is read as itself, whether it was escaped or not. -/
theorem stringFrom_escape (fuel : Nat) (done : List Char) (c : Char) :
    stringFrom unicodeEscape (fuel + 1) done (escape c ++ rest) =
      stringFrom unicodeEscape fuel (c :: done) rest := by
  have hunicode (hcontrol : c.toNat < 0x20) : unicodeEscape
      ('0' :: '0' :: hexDigit (c.toNat / 16) :: hexDigit (c.toNat % 16) :: rest) =
      .ok (c, rest) := by
    rw [unicodeEscape_control hcontrol, Char.ofNat_toNat]
  obtain ⟨c', hc', hread⟩ := stringFrom_escape_of hunicode fuel done
  obtain rfl : c' = c := hc'.elim id id
  exact hread

/-- A text is read back from its string, after the opening quote. -/
theorem stringFrom_quote (cs : List Char) {fuel : Nat} {done : List Char} (h : cs.length < fuel) :
    stringFrom unicodeEscape fuel done (cs.flatMap escape ++ '"' :: rest) =
      .ok (cs.reverse ++ done, rest) := by
  induction cs generalizing fuel done with
  | nil =>
    obtain ⟨fuel, rfl⟩ := Nat.exists_eq_add_one_of_ne_zero (Nat.ne_of_gt h)
    rfl
  | cons c cs ih =>
    obtain ⟨fuel, rfl⟩ := Nat.exists_eq_add_one_of_ne_zero (Nat.ne_of_gt (Nat.zero_lt_of_lt h))
    rw [List.flatMap_cons, List.append_assoc, stringFrom_escape,
      ih (Nat.lt_of_succ_lt_succ h)]
    simp

theorem length_le_flatMap_escape (cs : List Char) : cs.length ≤ (cs.flatMap escape).length := by
  have hescape : ∀ c, 1 ≤ (escape c).length := by
    intro c
    unfold escape
    split
    iterate 7 simp
    split <;> simp
  induction cs with
  | nil => simp
  | cons c cs ih =>
    have := hescape c
    simp only [List.flatMap_cons, List.length_append, List.length_cons]
    omega

/-- A text is read back from its string, after the opening quote. -/
theorem stringBody_quote (s : String) :
    stringBody (s.toList.flatMap escape ++ '"' :: rest) = .ok (s, rest) := by
  have hfuel : s.toList.length < (s.toList.flatMap escape ++ '"' :: rest).length + 1 := by
    have := length_le_flatMap_escape s.toList
    simp only [List.length_append]
    omega
  rw [stringBody, bind_of_ok get_eq, bind_of_ok (stringFrom_quote s.toList hfuel)]
  change Except.ok (String.ofList (s.toList.reverse ++ []).reverse, rest) = _
  rw [List.append_nil, List.reverse_reverse, String.ofList_toList]

/-! ### Values of a known type -/

/-- A reader gets `a` from a document, however it is written. -/
def Reads (reader : Reader α) (document : Document) (a : α) : Prop :=
  ∀ ⦃gap cs⦄, IsGap gap → Spells document cs → ∀ rest, reader (gap ++ (cs ++ rest)) = .ok (a, rest)

theorem Reads.front {reader : Reader α} (h : Reads reader document a) (hspells : Spells document cs)
    (rest : List Char) : reader (cs ++ rest) = .ok (a, rest) :=
  h isGap_nil hspells rest

theorem reads_bool (b : Bool) : Reads bool (.bool b) b := by
  rintro gap cs hgap ⟨⟩ rest
  cases b with
  | true =>
    change bool (gap ++ 't' :: ("rue".toList ++ rest)) = _
    rw [bool, bind_of_ok (need_gap hgap rfl)]
    change (advance >>= fun _ => word "rue".toList >>= _) _ = _
    rw [bind_of_ok advance_cons, bind_of_ok (word_append _)]
    rfl
  | false =>
    change bool (gap ++ 'f' :: ("alse".toList ++ rest)) = _
    rw [bool, bind_of_ok (need_gap hgap rfl)]
    change (advance >>= fun _ => word "alse".toList >>= _) _ = _
    rw [bind_of_ok advance_cons, bind_of_ok (word_append _)]
    rfl

theorem quote_append (cs : List Char) :
    quote cs ++ rest = '"' :: (cs.flatMap escape ++ '"' :: rest) := by
  simp [quote]

theorem reads_string (s : String) : Reads string (.text s) s := by
  rintro gap cs hgap ⟨⟩ rest
  rw [quote_append, string, bind_of_ok (need_gap hgap rfl)]
  change (advance >>= fun _ => stringBody) _ = _
  rw [bind_of_ok advance_cons, stringBody_quote]

theorem stringsFrom_spells (texts : List String) {fuel : Nat} {done : List String}
    (h : SpellsItems isFirst (texts.map .text) cs) (hfuel : texts.length < fuel) :
    stringsFrom fuel isFirst done (cs ++ rest) = .ok (done.reverse ++ texts, rest) := by
  induction texts generalizing fuel isFirst done cs with
  | nil =>
    obtain ⟨fuel, rfl⟩ := Nat.exists_eq_add_one_of_ne_zero (Nat.ne_of_gt hfuel)
    cases h with
    | nil hgap =>
      rw [stringsFrom, List.append_assoc, List.singleton_append, bind_of_ok (hasItem_close hgap)]
      change (ending ']' >>= _) _ = _
      rw [bind_of_ok (ending_cons rfl), List.append_nil]
      rfl
  | cons s texts ih =>
    obtain ⟨fuel, rfl⟩ := Nat.exists_eq_add_one_of_ne_zero (Nat.ne_of_gt (Nat.zero_lt_of_lt hfuel))
    cases h with
    | cons hseparator hitem hitems =>
      cases hitem
      rw [stringsFrom, List.append_assoc, List.append_assoc, quote_append,
        bind_of_ok (hasItem_separator hseparator rfl (by decide)), ← quote_append]
      change (string >>= _) _ = _
      rw [bind_of_ok ((reads_string s).front (.text s) _),
        ih hitems (Nat.lt_of_succ_lt_succ hfuel)]
      simp

theorem reads_stringList (texts : List String) :
    Reads stringList (.array (texts.map .text)) texts := by
  intro gap cs hgap hspells rest
  cases hspells with
  | array hitems =>
    rw [List.cons_append, stringList, bind_of_ok (need_gap hgap rfl)]
    change (advance >>= fun _ => get >>= _) _ = _
    rw [bind_of_ok advance_cons, bind_of_ok get_eq, stringsFrom_spells texts hitems]
    · rfl
    · have := length_le_of_spellsItems hitems
      simp only [List.length_map, List.length_append] at this ⊢
      omega

theorem Reads.optional {value : Reader α} (h : Reads value (.text s) a) :
    Reads (Reader.optional value) (.text s) (some a) := by
  rintro gap cs hgap ⟨⟩ rest
  rw [quote_append, Reader.optional, bind_of_ok (peek_gap hgap rfl)]
  change (value >>= fun a => pure (some a)) _ = _
  rw [← quote_append, bind_of_ok (h.front (.text s) rest)]
  rfl

/-- A whole text is read; spaces may stand around the document. -/
theorem Reads.run {reader : Reader α} (h : Reads reader document a) (hspells : Spells document cs)
    (hgap : IsGap gap) (hgap' : IsGap gap') :
    reader.run (String.ofList (gap ++ (cs ++ gap'))) = .ok a := by
  have hrest : gap'.all isSpace = true := List.all_eq_true.mpr hgap'
  simp only [Reader.run, String.toList_ofList, StateT.run, h hgap hspells gap']
  change (if gap'.all isSpace then _ else _) = _
  rw [if_pos hrest]
  rfl

end Reader

end Sandbox.Json
