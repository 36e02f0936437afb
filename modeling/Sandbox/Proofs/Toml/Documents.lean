import Sandbox.Proofs.Toml.Values

/-!
# Documents are read back

A document that is written consists of a header and a line for each key, section by section. Read
line by line, it builds up the table that it was written from: each header adds a section at the
end, and each line adds a key at the end of the last section.

## Main definitions

* `IsBare` : keys that are written without quotes.
* `IsPlainTable`, `IsPlainDocument` : the tables that are written and read back.
* `opened`, `sectionsOf` : such tables while a document is read.

## Main results

* `Reader.linesFrom_header`, `Reader.linesFrom_member` : what a line adds.
* `parse_render` : a document is read back as the table that it was written from.
-/

namespace Sandbox.Toml

/-- Whether a key is written without quotes. -/
def IsBare (key : String) : Prop :=
  key.toList ≠ [] ∧ ∀ c ∈ key.toList, Reader.isKeyChar c = true

instance (key : String) : Decidable (IsBare key) :=
  decidable_of_iff (key.toList.isEmpty = false ∧ key.toList.all Reader.isKeyChar = true)
    (by simp [IsBare])

variable {α : Type} {fuel : Nat} {key name s : String} {v : Value} {node : Node}
  {members done root root' : Members} {table : Table} {c : Char} {ds rest : List Char}
  {current : List String}

/-! ### Members -/

theorem Members.find_append (h : key ∉ done.map Prod.fst) (members : Members) :
    Members.find (done ++ members) key = members.find key := by
  have hnone : done.find? (fun member => member.1 == key) = none := by
    rw [List.find?_eq_none]
    rintro member hmember heq
    exact h (List.mem_map.mpr ⟨member, hmember, eq_of_beq heq⟩)
  rw [Members.find, List.find?_append, hnone, Option.none_or]
  rfl

theorem Members.put_append (h : key ∉ done.map Prod.fst) (members : Members) :
    Members.put key node (done ++ members) = done ++ members.put key node := by
  induction done with
  | nil => rfl
  | cons member done ih =>
    obtain ⟨k, n⟩ := member
    simp only [List.map_cons, List.mem_cons, not_or] at h
    rw [List.cons_append, Members.put, if_neg (by simpa using Ne.symm h.1), ih h.2]
    rfl

theorem Members.find_eq_none (h : key ∉ done.map Prod.fst) : done.find key = none := by
  rw [← List.append_nil done, Members.find_append h]
  rfl

theorem Members.put_eq_append (h : key ∉ done.map Prod.fst) :
    Members.put key node done = done ++ [(key, node)] := by
  simpa [Members.put] using Members.put_append h []

/-- The members of a table, once its lines are read. -/
def opened (table : Table) : Members :=
  table.map fun member => (member.1, .value member.2)

@[simp]
theorem map_fst_opened (table : Table) : (opened table).map Prod.fst = table.map Prod.fst := by
  simp [opened]

theorem opened_append (table table' : Table) :
    opened (table ++ table') = opened table ++ opened table' :=
  List.map_append

@[simp]
theorem finishMembers_opened (table : Table) : finishMembers (opened table) = table := by
  induction table with
  | nil => rfl
  | cons member table ih =>
    change (member.1, member.2) :: finishMembers (opened table) = _
    rw [ih]

/-- A header opens a new section at the end. -/
theorem openTable_eq (h : name ∉ done.map Prod.fst) :
    openTable [] name done = .ok (done ++ [(name, .table .header [])]) := by
  rw [openTable, descend, Members.find_eq_none h, Members.put_eq_append h]

/-- A line gives a new key to the last section. -/
theorem descend_assign (hname : name ∉ done.map Prod.fst) (hkey : key ∉ table.map Prod.fst) :
    descend (assign (.value v) [key]) [name] (done ++ [(name, .table .header (opened table))]) =
      .ok (done ++ [(name, .table .header (opened (table ++ [(key, v)])))]) := by
  have hfresh : key ∉ (opened table).map Prod.fst := by rwa [map_fst_opened]
  have hfind : Members.find (done ++ [(name, .table .header (opened table))]) name =
      some (.table .header (opened table)) := by
    rw [Members.find_append hname]
    simp [Members.find]
  have hassign : assign (.value v) [key] (opened table) = .ok (opened (table ++ [(key, v)])) := by
    rw [assign, Members.find_eq_none hfresh, Members.put_eq_append hfresh, opened_append]
    rfl
  rw [descend, hfind]
  simp only [descend, hassign]
  change Except.ok (Members.put name _ _) = _
  rw [Members.put_append hname]
  simp [Members.put]

namespace Reader

/-! ### Keys -/

theorem isBlank_of_isKeyChar (h : isKeyChar c = true) : isBlank c = false := by
  simp [isBlank, ne_of_kind h ' ' rfl, ne_of_kind h '\t' rfl]

theorem exists_bare_eq (h : IsBare key) : ∃ d ds, key.toList = d :: ds ∧ isKeyChar d = true := by
  obtain ⟨d, ds, hkey⟩ := List.exists_cons_of_ne_nil h.1
  exact ⟨d, ds, hkey, h.2 d (hkey ▸ List.mem_cons_self)⟩

/-- A key without quotes is read up to the first character that is not of a key. -/
theorem simpleKey_bare (h : IsBare key) (hc : isKeyChar c = false) :
    simpleKey (key.toList ++ c :: rest) = .ok (key, c :: rest) := by
  obtain ⟨d, ds, hkey, hd⟩ := exists_bare_eq h
  have hpeek : peek (key.toList ++ c :: rest) = .ok (some d, key.toList ++ c :: rest) := by
    rw [hkey, List.cons_append, peek_cons]
  rw [simpleKey, bind_of_ok hpeek]
  simp only [Option.some.injEq, ne_of_kind hd '"' rfl, ne_of_kind hd '\x27' rfl,
    imp_self]
  rw [bind_of_ok get_eq, takeWhile_append_of_forall h.2 hc, if_neg (by simpa using h.1),
    List.drop_left, bind_of_ok set_eq, String.ofList_toList]
  rfl

/-- A key of one part is read, with the blanks after it. -/
theorem key_bare (h : IsBare name) (hblank : ∀ d ∈ ds, isBlank d = true) (hc : isToken c = true)
    (hkey : isKeyChar c = false) (hpoint : c ≠ '.') :
    Reader.key (name.toList ++ (ds ++ c :: rest)) = .ok ([name], c :: rest) := by
  obtain ⟨d, cs, hname, hd⟩ := exists_bare_eq h
  have hfront : blanks (name.toList ++ (ds ++ c :: rest)) =
      .ok ((), name.toList ++ (ds ++ c :: rest)) := by
    rw [hname, List.cons_append, blanks_cons (isBlank_of_isKeyChar hd)]
  have hsimple : simpleKey (name.toList ++ (ds ++ c :: rest)) = .ok (name, ds ++ c :: rest) := by
    cases ds with
    | nil => exact simpleKey_bare h hkey
    | cons b ds =>
      refine simpleKey_bare h ?_
      cases hb : isKeyChar b with
      | false => rfl
      | true => exact absurd (isBlank_of_isKeyChar hb) (by simp [hblank b List.mem_cons_self])
  rw [Reader.key, bind_of_ok get_eq, keyFrom, bind_of_ok hfront, bind_of_ok hsimple,
    bind_of_ok (blanks_append hblank (isBlank_of_isToken hc)), bind_of_ok peek_cons,
    if_neg (by simpa using hpoint)]
  rfl

/-! ### Lines -/

theorem advance_cons : advance 1 (c :: rest) = .ok ((), rest) :=
  rfl

theorem expect_cons : expect c (c :: rest) = .ok ((), rest) := by
  rw [expect, bind_of_ok get_eq]
  dsimp only
  rw [if_pos (beq_self_eq_true c), set_eq]

theorem lineEnd_newline : lineEnd ('\n' :: rest) = .ok ((), rest) := by
  rw [lineEnd, bind_of_ok (blanks_cons rfl)]
  rfl

theorem lift_of_ok {x : Except Fault α} {a : α} (h : x = .ok a) (cs : List Char) :
    (liftM x : Reader α) cs = .ok (a, cs) := by
  subst h
  rfl

/-- A header opens its section. -/
theorem linesFrom_header (hname : IsBare name) (hroot : openTable [] name root = .ok root') :
    linesFrom (fuel + 1) current root (("[" ++ name ++ "]\n").toList ++ rest) =
      linesFrom fuel [name] root' rest := by
  obtain ⟨d, cs, heq, hd⟩ := exists_bare_eq hname
  have htext : ("[" ++ name ++ "]\n").toList ++ rest =
      '[' :: (name.toList ++ ([] ++ ']' :: '\n' :: rest)) := by simp
  have hsingle : ¬ "[[".toList.isPrefixOf
      ('[' :: (name.toList ++ ([] ++ ']' :: '\n' :: rest))) := by
    have hd' : '[' ≠ d := (ne_of_kind hd _ rfl).symm
    simp [heq, hd']
  rw [htext, linesFrom, bind_of_ok (blanks_cons rfl), bind_of_ok peek_cons]
  change (startsWith "[[" >>= _) _ = _
  rw [bind_of_ok (startsWith_eq _), if_neg hsingle, bind_of_ok advance_cons,
    bind_of_ok (key_bare hname (by simp) rfl rfl (by decide)),
    bind_of_ok expect_cons, bind_of_ok lineEnd_newline]
  exact bind_of_ok (lift_of_ok hroot _)

theorem value_inline (h : IsPlain deepest v) (hs : inline? v = some s) (hrest : EndsValue rest) :
    value (s.toList ++ rest) = .ok (v, rest) := by
  rw [value, bind_of_ok get_eq]
  refine readsBack_of_isPlain h hs ?_ hrest
  rw [List.length_append]
  omega

/-- The line of a key adds it to the section that is open. -/
theorem linesFrom_member (hname : IsBare name) (hv : IsPlain deepest v) (hs : inline? v = some s)
    (hroot : descend (assign (.value v) [name]) current root = .ok root') :
    linesFrom (fuel + 1) current root ((name ++ " = " ++ s ++ "\n").toList ++ rest) =
      linesFrom fuel current root' rest := by
  obtain ⟨d, cs, heq, hd⟩ := exists_bare_eq hname
  obtain ⟨e, es, hhead, htoken, -⟩ := hv.exists_head hs
  have htext : (name ++ " = " ++ s ++ "\n").toList ++ rest =
      name.toList ++ ([' '] ++ '=' :: ' ' :: (s.toList ++ '\n' :: rest)) := by simp
  have hgap : blanks (' ' :: (s.toList ++ '\n' :: rest)) = .ok ((), s.toList ++ '\n' :: rest) := by
    have hspace : ∀ d ∈ [' '], isBlank d = true := by simp [isBlank]
    rw [hhead]
    exact blanks_append hspace (isBlank_of_isToken htoken)
  have hfront : ∀ cs : List Char, blanks (name.toList ++ cs) = .ok ((), name.toList ++ cs) := by
    intro cs
    rw [heq, List.cons_append, blanks_cons (isBlank_of_isKeyChar hd)]
  have hpeek : ∀ cs : List Char, peek (name.toList ++ cs) = .ok (some d, name.toList ++ cs) := by
    intro cs
    rw [heq, List.cons_append, peek_cons]
  rw [htext, linesFrom, bind_of_ok (hfront _), bind_of_ok (hpeek _)]
  simp only [ne_of_kind hd '[' rfl, imp_self]
  rw [if_neg (by simp [ne_of_kind hd '#' rfl, ne_of_kind hd '\n' rfl,
      ne_of_kind hd '\r' rfl]),
    bind_of_ok (key_bare hname (by simp [isBlank]) rfl rfl (by decide)), bind_of_ok expect_cons,
    bind_of_ok hgap, bind_of_ok (value_inline hv hs ⟨_, _, rfl, .inl rfl⟩),
    bind_of_ok lineEnd_newline]
  exact bind_of_ok (lift_of_ok hroot _)

/-- An empty line adds nothing. -/
theorem linesFrom_newline :
    linesFrom (fuel + 1) current root ('\n' :: rest) = linesFrom fuel current root rest := by
  rw [linesFrom, bind_of_ok (blanks_cons rfl), bind_of_ok peek_cons]
  change (lineEnd >>= fun _ => linesFrom fuel current root) _ = _
  rw [bind_of_ok lineEnd_newline]

theorem linesFrom_nil : linesFrom fuel current root [] = .ok (root, []) := by
  cases fuel <;> rfl

end Reader

/-! ### Tables and documents -/

/-- A table that is written line by line and read back. -/
structure IsPlainTable (table : Table) : Prop where
  /-- Its keys are written without quotes. -/
  isBare : ∀ member ∈ table, IsBare member.1
  /-- Its values are written on one line. -/
  isPlain : ∀ member ∈ table, IsPlain Reader.deepest member.2
  /-- No key is given twice. -/
  nodup : (table.map Prod.fst).Nodup

/-- A document that is written section by section and read back. -/
structure IsPlainDocument (document : Table) : Prop where
  /-- The names of its sections are written without quotes. -/
  isBare : ∀ part ∈ document, IsBare part.1
  /-- Its sections are written line by line. -/
  isPlainTable : ∀ part ∈ document, ∃ table, part.2 = .table table ∧ IsPlainTable table
  /-- No section is given twice. -/
  nodup : (document.map Prod.fst).Nodup

/-- The sections of a document, once its lines are read. -/
def sectionsOf (document : Table) : Members :=
  document.map fun part =>
    match part.2 with
    | .table table => (part.1, .table .header (opened table))
    | value => (part.1, .value value)

theorem finishMembers_sectionsOf (document : Table) :
    finishMembers (sectionsOf document) = document := by
  induction document with
  | nil => rfl
  | cons part document ih =>
    obtain ⟨name, v⟩ := part
    have hcons : sectionsOf ((name, v) :: document) =
      sectionsOf [(name, v)] ++ sectionsOf document := rfl
    cases v with
    | table table =>
      change (name, Value.table (finishMembers (opened table))) ::
        finishMembers (sectionsOf document) = _
      rw [finishMembers_opened, ih]
    | text | integer | float | bool | datetime | array =>
      exact congrArg _ ih

theorem exists_renderMembers (h : ∀ member ∈ table, IsPlain Reader.deepest member.2) :
    ∃ lines, renderMembers? table = some lines := by
  induction table with
  | nil => exact ⟨[], rfl⟩
  | cons member table ih =>
    obtain ⟨s, hs⟩ := (h member List.mem_cons_self).exists_inline
    obtain ⟨lines, hlines⟩ := ih fun member hmember => h member (List.mem_cons_of_mem _ hmember)
    exact ⟨_, by simp only [renderMembers?, hs, hlines]; rfl⟩

namespace Reader

/-- The lines of a table are added one after another to the section that is open. -/
theorem exists_linesFrom_members {before : Table} {lines : List String}
    (h : IsPlainTable (before ++ table)) (hname : name ∉ done.map Prod.fst)
    (hlines : renderMembers? table = some lines)
    (hfuel : ((String.join lines).toList ++ rest).length < fuel) :
    ∃ fuel', rest.length < fuel' ∧
      linesFrom fuel [name] (done ++ [(name, .table .header (opened before))])
          ((String.join lines).toList ++ rest) =
        linesFrom fuel' [name] (done ++ [(name, .table .header (opened (before ++ table)))])
          rest := by
  induction table generalizing before lines fuel with
  | nil =>
    cases hlines
    exact ⟨fuel, hfuel, by rw [List.append_nil]; rfl⟩
  | cons member table ih =>
    obtain ⟨key, v⟩ := member
    have hmem : (key, v) ∈ before ++ (key, v) :: table := by simp
    obtain ⟨s, hs⟩ := (h.isPlain _ hmem).exists_inline
    obtain ⟨later, hlater⟩ := exists_renderMembers fun member hmember =>
      h.isPlain member (List.mem_append_right _ (List.mem_cons_of_mem _ hmember))
    obtain rfl : (key ++ " = " ++ s ++ "\n") :: later = lines := by
      simpa [renderMembers?, hs, hlater] using hlines
    have hkey : key ∉ before.map Prod.fst := by
      have hnodup := h.nodup
      rw [List.map_append, List.nodup_append] at hnodup
      exact fun hmem => hnodup.2.2 key hmem key (by simp) rfl
    have hsplit : before ++ (key, v) :: table = before ++ [(key, v)] ++ table := by simp
    rw [String.join_cons, String.toList_append, List.append_assoc] at hfuel ⊢
    obtain ⟨fuel, rfl⟩ := Nat.exists_eq_add_one_of_ne_zero (Nat.ne_of_gt (Nat.zero_lt_of_lt hfuel))
    rw [linesFrom_member (h.isBare _ hmem) (h.isPlain _ hmem) hs (descend_assign hname hkey)]
    rw [hsplit] at h ⊢
    refine ih h hlater ?_
    simp at hfuel ⊢
    omega

/-- A section is added to those before it. -/
theorem exists_linesFrom_section (current : List String) (rest : List Char)
    (h : IsPlainTable table) (hbare : IsBare name) (hname : name ∉ done.map Prod.fst)
    (hs : renderSection? name (.table table) = some s)
    (hfuel : (s.toList ++ rest).length < fuel) :
    ∃ fuel', rest.length < fuel' ∧
      linesFrom fuel current done (s.toList ++ rest) =
        linesFrom fuel' [name] (done ++ sectionsOf [(name, .table table)]) rest := by
  obtain ⟨lines, hlines⟩ := exists_renderMembers h.isPlain
  obtain rfl : "[" ++ name ++ "]\n" ++ String.join lines = s := by
    simpa [renderSection?, hlines] using hs
  rw [String.toList_append, List.append_assoc] at hfuel ⊢
  obtain ⟨fuel, rfl⟩ := Nat.exists_eq_add_one_of_ne_zero (Nat.ne_of_gt (Nat.zero_lt_of_lt hfuel))
  rw [linesFrom_header hbare (openTable_eq hname)]
  refine exists_linesFrom_members (show IsPlainTable ([] ++ table) from h) hname hlines ?_
  simp at hfuel ⊢
  omega

end Reader

/-- A section that is written line by line has a text, which begins with its header. -/
theorem exists_renderSection (h : IsPlainTable table) (name : String) :
    ∃ s cs, renderSection? name (.table table) = some s ∧ s.toList = '[' :: cs := by
  obtain ⟨lines, hlines⟩ := exists_renderMembers h.isPlain
  exact ⟨_, _, by rw [renderSection?, hlines]; rfl, by simp; rfl⟩

variable {document : Table}

theorem IsPlainDocument.of_cons {part : String × Value} (h : IsPlainDocument (part :: document)) :
    IsPlainDocument document where
  isBare := fun part hpart => h.isBare part (List.mem_cons_of_mem _ hpart)
  isPlainTable := fun part hpart => h.isPlainTable part (List.mem_cons_of_mem _ hpart)
  nodup := (List.nodup_cons.mp h.nodup).2

theorem IsPlainDocument.exists_mapM (h : IsPlainDocument document) :
    ∃ written, (document.mapM fun (key, value) => renderSection? key value) = some written ∧
      written.length = document.length := by
  induction document with
  | nil => exact ⟨[], rfl, rfl⟩
  | cons part document ih =>
    obtain ⟨name, v⟩ := part
    obtain ⟨table, rfl, htable⟩ := h.isPlainTable _ List.mem_cons_self
    obtain ⟨s, _, hs, -⟩ := exists_renderSection htable name
    obtain ⟨written, hwritten, hlength⟩ := ih h.of_cons
    exact ⟨s :: written, by simp [List.mapM_cons, hs, hwritten], by simp [hlength]⟩

namespace Reader

/-- The sections of a document are added one after another. -/
theorem linesFrom_sections {written : List String} (h : IsPlainDocument document)
    (hfresh : ∀ name ∈ document.map Prod.fst, name ∉ done.map Prod.fst)
    (hwritten : (document.mapM fun (key, value) => renderSection? key value) = some written)
    (hfuel : ("\n".intercalate written).toList.length < fuel) :
    linesFrom fuel current done ("\n".intercalate written).toList =
      .ok (done ++ sectionsOf document, []) := by
  induction document generalizing current done written fuel with
  | nil =>
    obtain rfl : [] = written := by simpa using hwritten
    rw [String.intercalate_nil, sectionsOf, List.map_nil, List.append_nil]
    exact linesFrom_nil
  | cons part document ih =>
    obtain ⟨name, v⟩ := part
    obtain ⟨table, rfl, htable⟩ := h.isPlainTable _ List.mem_cons_self
    obtain ⟨s, _, hs, -⟩ := exists_renderSection htable name
    obtain ⟨later, hlater, hlength⟩ := h.of_cons.exists_mapM
    obtain rfl : s :: later = written := by simpa [List.mapM_cons, hs, hlater] using hwritten
    have hbare := h.isBare _ List.mem_cons_self
    have hname : name ∉ done.map Prod.fst := hfresh name (by simp)
    have hsections : done ++ sectionsOf ((name, .table table) :: document) =
        done ++ sectionsOf [(name, .table table)] ++ sectionsOf document := by
      simp [sectionsOf]
    rw [hsections]
    cases document with
    | nil =>
      obtain rfl := List.eq_nil_of_length_eq_zero hlength
      rw [String.intercalate_singleton] at hfuel ⊢
      obtain ⟨fuel', -, heq⟩ := exists_linesFrom_section current [] htable hbare hname hs
        (by simpa using hfuel)
      rw [List.append_nil] at heq
      rw [heq, linesFrom_nil, sectionsOf, sectionsOf, List.map_nil, List.append_nil]
    | cons next document =>
      have hne : later ≠ [] := by
        rintro rfl
        cases hlength
      have htext : ("\n".intercalate (s :: later)).toList =
          s.toList ++ '\n' :: ("\n".intercalate later).toList := by
        rw [String.intercalate_cons_of_ne_nil hne]
        simp
      rw [htext] at hfuel ⊢
      obtain ⟨fuel', hfuel', heq⟩ :=
        exists_linesFrom_section current _ htable hbare hname hs hfuel
      obtain ⟨fuel', rfl⟩ :=
        Nat.exists_eq_add_one_of_ne_zero (Nat.ne_of_gt (Nat.zero_lt_of_lt hfuel'))
      rw [heq, linesFrom_newline]
      refine ih h.of_cons ?_ hlater (Nat.lt_of_succ_lt_succ hfuel')
      intro later hlater
      have hne : later ≠ name := fun heq => (List.nodup_cons.mp h.nodup).1 (heq ▸ hlater)
      simpa [sectionsOf, hne] using hfresh later (List.mem_cons_of_mem _ hlater)

end Reader

/-- A document that is written is empty, or it begins with a header. -/
theorem IsPlainDocument.head?_ne (h : IsPlainDocument document) {written : List String}
    (hwritten : (document.mapM fun (key, value) => renderSection? key value) = some written) :
    ("\n".intercalate written).toList.head? ≠ some '\uFEFF' := by
  cases document with
  | nil =>
    obtain rfl : [] = written := by simpa using hwritten
    simp
  | cons part document =>
    obtain ⟨name, v⟩ := part
    obtain ⟨table, rfl, htable⟩ := h.isPlainTable _ List.mem_cons_self
    obtain ⟨s, cs, hs, hhead⟩ := exists_renderSection htable name
    obtain ⟨later, hlater, -⟩ := h.of_cons.exists_mapM
    obtain rfl : s :: later = written := by simpa [List.mapM_cons, hs, hlater] using hwritten
    cases later <;> simp [hhead]

theorem Reader.document_eq {cs : List Char} (h : cs.head? ≠ some '\uFEFF') :
    Reader.document cs = Reader.linesFrom (cs.length + 1) [] [] cs := by
  rw [Reader.document, Reader.bind_of_ok Reader.get_eq]
  cases cs with
  | nil => rfl
  | cons c cs =>
    have hc : c ≠ '\uFEFF' := fun heq => h (by rw [heq]; rfl)
    simp only [List.cons.injEq, hc, false_and, imp_self, implies_true]
    rfl

/-- A document is read back as the table that it was written from. -/
theorem parse_render (h : IsPlainDocument document) :
    ∃ text, render? document = some text ∧ parse text = .ok document := by
  obtain ⟨written, hwritten, -⟩ := h.exists_mapM
  refine ⟨"\n".intercalate written, by rw [render?, hwritten]; rfl, ?_⟩
  have hlines : Reader.document ("\n".intercalate written).toList =
      .ok ([] ++ sectionsOf document, []) := by
    rw [Reader.document_eq (h.head?_ne hwritten)]
    exact Reader.linesFrom_sections h (fun _ _ hmem => nomatch hmem) hwritten (Nat.lt_succ_self _)
  rw [parse, StateT.run, hlines]
  change Except.ok (finishMembers (sectionsOf document)) = _
  rw [finishMembers_sectionsOf]

end Sandbox.Toml
