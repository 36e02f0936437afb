import Sandbox.Proofs.Toml.Strings

/-!
# Values are read back

A value that is written on one line is read back if the line or an array goes on after it: what
follows decides where a number or a word ends, and a string that follows another would change it.
Strings, integers, truth values and arrays of such are read back; arrays may be nested as deep as
the reader goes.

## Main definitions

* `IsPlain` : the values that are written on one line and read back.
* `Reader.EndsValue` : what stands after a value.
* `Reader.ReadsBack` : a value is read back, whatever comes after its end.

## Main results

* `Reader.integer?_toString` : an integer is read back from its digits.
* `IsPlain.exists_inline` : a plain value is written on one line.
* `Reader.itemsFrom_inline` : the items of an array are read up to its end.
* `Reader.readsBack_of_isPlain` : a plain value is read back.
-/

namespace Sandbox.Toml

namespace Reader

variable {α : Type} {fuel room n : Nat} {c : Char} {cs ds rest word : List Char}

/-! ### Digits -/

theorem head?_toDigits (h : 0 < n) : (Nat.toDigits 10 n).head? ≠ some '0' := by
  induction n using Nat.strongRecOn with
  | ind n ih =>
    rw [Nat.toDigits_eq_if (by decide)]
    split
    · next hlt =>
      have hdigit : ∀ n < 10, 0 < n → n.digitChar ≠ '0' := by decide
      simpa using hdigit n hlt h
    · next hge =>
      have hfirst := ih (n / 10) (by omega) (by omega)
      cases hdigits : Nat.toDigits 10 (n / 10) with
      | nil => exact absurd hdigits Nat.toDigits_ne_nil
      | cons d ds => simpa [hdigits] using hfirst

theorem isDigits_of_forall (h : ∀ c ∈ cs, c.isDigit = true) (hne : cs ≠ []) :
    isDigits Char.isDigit cs = true := by
  fun_induction isDigits Char.isDigit cs with
  | case1 => exact absurd rfl hne
  | case2 c => exact h c List.mem_cons_self
  | case3 c rest ih => exact absurd (h '_' (by simp)) (by decide)
  | case4 c rest hsingle hscore ih =>
    rw [h c List.mem_cons_self, Bool.true_and]
    exact ih (fun d hd => h d (List.mem_cons_of_mem c hd)) fun heq => hsingle heq

theorem isDigit_of_mem_toDigits (h : c ∈ Nat.toDigits 10 n) : c.isDigit = true :=
  Nat.isDigit_of_mem_toDigits (by decide) (by decide) h

theorem isDecimal_toDigits (n : Nat) : isDecimal (Nat.toDigits 10 n) = true := by
  rw [isDecimal, isDigits_of_forall (fun _ => isDigit_of_mem_toDigits) Nat.toDigits_ne_nil,
    Bool.true_and]
  rcases Nat.eq_zero_or_pos n with rfl | hpos
  · rfl
  · simp [head?_toDigits hpos]

theorem hexDigit?_of_isDigit (h : c.isDigit = true) :
    hexDigit? c = some (c.toNat - '0'.toNat) := by
  rw [Char.isDigit, Bool.and_eq_true, decide_eq_true_eq, decide_eq_true_eq] at h
  rw [hexDigit?, if_pos (show '0' ≤ c ∧ c ≤ '9' from h)]
  rfl

theorem foldl_spelled (h : ∀ c ∈ cs, c.isDigit = true) (start : Nat) :
    cs.foldl (fun n c => if c == '_' then n else n * 10 + (hexDigit? c).getD 0) start =
      Nat.ofDigitChars 10 cs start := by
  induction cs generalizing start with
  | nil => rfl
  | cons c cs ih =>
    have hdigit := h c List.mem_cons_self
    have hscore : (c == '_') = false := beq_eq_false_iff_ne.mpr (ne_of_kind hdigit '_' rfl)
    rw [List.foldl_cons, hscore, hexDigit?_of_isDigit hdigit, Nat.ofDigitChars_cons,
      ← ih fun d hd => h d (List.mem_cons_of_mem c hd)]
    simp [Nat.mul_comm]

/-- Digits without a sign are an integer, as they stand. -/
theorem integer?_of_forall (h : ∀ c ∈ cs, c.isDigit = true) (hdecimal : isDecimal cs = true) :
    integer? cs = some (spelled 10 cs : Int) := by
  fun_cases integer? cs
  case case1 | case2 => exact absurd (h 'x' (by simp)) (by decide)
  case case3 | case4 => exact absurd (h 'o' (by simp)) (by decide)
  case case5 | case6 => exact absurd (h 'b' (by simp)) (by decide)
  case case7 | case8 => exact absurd (h '+' (by simp)) (by decide)
  case case9 | case10 => exact absurd (h '-' (by simp)) (by decide)
  case case11 => rfl
  case case12 hnot => exact absurd hdecimal hnot

theorem spelled_toDigits (n : Nat) : spelled 10 (Nat.toDigits 10 n) = n :=
  (foldl_spelled (fun _ => isDigit_of_mem_toDigits) 0).trans Nat.ofDigitChars_ten_toDigits

theorem toList_toString_ofNat (n : Nat) :
    (toString (Int.ofNat n)).toList = Nat.toDigits 10 n := by
  change n.repr.toList = _
  rw [Nat.repr_eq_ofList_toDigits, String.toList_ofList]

theorem toList_toString_negSucc (n : Nat) :
    (toString (Int.negSucc n)).toList = '-' :: Nat.toDigits 10 (n + 1) := by
  change ("-" ++ (n + 1).repr).toList = _
  rw [Nat.repr_eq_ofList_toDigits, String.toList_append, String.toList_ofList,
    String.toList_ofList, List.singleton_append]

/-- An integer is read back from its digits. -/
theorem integer?_toString (n : Int) : integer? (toString n).toList = some n := by
  cases n with
  | ofNat n =>
    rw [toList_toString_ofNat, integer?_of_forall (fun _ => isDigit_of_mem_toDigits)
      (isDecimal_toDigits n), spelled_toDigits]
    rfl
  | negSucc n =>
    rw [toList_toString_negSucc]
    change (if isDecimal (Nat.toDigits 10 (n + 1)) then
      some (-(spelled 10 (Nat.toDigits 10 (n + 1)) : Int)) else none) = _
    rw [if_pos (isDecimal_toDigits _), spelled_toDigits]
    rfl

/-! ### Words -/

/-- What ends a value that stands in a line: the end of the line, or a mark of an array. -/
def EndsValue (rest : List Char) : Prop :=
  ∃ c ds, rest = c :: ds ∧ (c = '\n' ∨ c = ',' ∨ c = ']')

theorem takeWhile_append_of_forall {p : Char → Bool} (h : ∀ c ∈ word, p c = true)
    (hc : p c = false) : (word ++ c :: rest).takeWhile p = word := by
  rw [List.takeWhile_append_of_pos h]
  simp [hc]

/-- A word that is no truth value is read as the integer that it is. -/
theorem scalar_integer {n : Int} (hword : ∀ c ∈ word, isScalarChar c = true)
    (hrest : EndsValue rest) (hn : integer? word = some n) (hfits : fitsInteger n = true) :
    scalar (word ++ rest) = .ok (.integer n, rest) := by
  obtain ⟨c, ds, rfl, hc⟩ := hrest
  have htrue : word ≠ "true".toList := by
    rintro rfl
    cases hn
  have hfalse : word ≠ "false".toList := by
    rintro rfl
    cases hn
  have hrange : -0x80000000000000000000000000000000 ≤ n ∧
      n < 0x100000000000000000000000000000000 := by
    rw [fitsInteger, Bool.and_eq_true, decide_eq_true_eq, decide_eq_true_eq] at hfits
    omega
  have hscalar : isScalarChar c = false := by rcases hc with rfl | rfl | rfl <;> rfl
  rw [scalar, bind_of_ok get_eq]
  simp only [takeWhile_append_of_forall hword hscalar, List.drop_left]
  -- no blank stands after the word, so that it is no date before a time
  rcases hc with rfl | rfl | rfl
  all_goals
    rw [if_neg (by simp), bind_of_ok set_eq, if_neg (by simpa using htrue),
      if_neg (by simpa using hfalse), hn]
    simp only [if_pos hrange]
    rfl

theorem scalar_bool (b : Bool) (hrest : EndsValue rest) :
    scalar ((if b then "true" else "false").toList ++ rest) = .ok (.bool b, rest) := by
  obtain ⟨c, ds, rfl, rfl | rfl | rfl⟩ := hrest
  all_goals cases b <;> rfl

/-! ### Between values -/

/-- Whether a character begins something, and no gap before it. -/
def isToken (c : Char) : Bool :=
  !isBlank c && c != '#' && c != '\n' && c != '\r'

theorem isBlank_of_isToken (h : isToken c = true) : isBlank c = false := by
  simp only [isToken, Bool.and_eq_true, Bool.not_eq_true'] at h
  exact h.1.1.1

theorem peek_cons : peek (c :: rest) = .ok (some c, c :: rest) :=
  rfl

theorem blanks_append (hblank : ∀ d ∈ ds, isBlank d = true) (hc : isBlank c = false) :
    blanks (ds ++ c :: rest) = .ok ((), c :: rest) := by
  have hdrop : (ds ++ c :: rest).dropWhile isBlank = c :: rest := by
    rw [List.dropWhile_append_of_pos hblank]
    simp [hc]
  change Except.ok ((), (ds ++ c :: rest).dropWhile isBlank) = _
  rw [hdrop]

theorem blanks_cons (hc : isBlank c = false) : blanks (c :: rest) = .ok ((), c :: rest) := by
  have hblank : ∀ d ∈ ([] : List Char), isBlank d = true := fun _ h => nomatch h
  exact blanks_append hblank hc

theorem comment_cons_of_ne (hc : c ≠ '#') : comment (c :: rest) = .ok ((), c :: rest) := by
  rw [comment, bind_of_ok peek_cons, if_neg (by simpa using hc)]
  rfl

/-- The blanks before something are passed over. -/
theorem gap_append (hblank : ∀ d ∈ ds, isBlank d = true) (hc : isToken c = true) :
    gap (fuel + 1) (ds ++ c :: rest) = .ok ((), c :: rest) := by
  simp only [isToken, Bool.and_eq_true, Bool.not_eq_true', bne_iff_ne] at hc
  obtain ⟨⟨⟨hblank', hcomment⟩, hline⟩, hreturn⟩ := hc
  rw [gap, bind_of_ok (blanks_append hblank hblank'), bind_of_ok (comment_cons_of_ne hcomment),
    bind_of_ok (newline?_cons_of_ne hline hreturn)]
  rfl

end Reader

/-- The values that are written on one line and read back. Numbers with a fraction and dates are
not among them, since they are kept as they are written. -/
inductive IsPlain : (room : Nat) → Value → Prop where
  /-- A string. -/
  | text (room : Nat) (s : String) : IsPlain room (.text s)
  /-- An integer. -/
  | integer (room : Nat) {n : Int} (hfits : fitsInteger n = true) : IsPlain room (.integer n)
  /-- A truth value. -/
  | bool (room : Nat) (b : Bool) : IsPlain room (.bool b)
  /-- An array. -/
  | array {room : Nat} {items : List Value} (hitems : ∀ item ∈ items, IsPlain room item) :
    IsPlain (room + 1) (.array items)

variable {fuel room : Nat} {v : Value} {items : List Value} {s : String} {c : Char}
  {ds rest : List Char}

theorem exists_inlineItems (h : ∀ item ∈ items, ∃ s, inline? item = some s) :
    ∃ written, inlineItems? items = some written := by
  induction items with
  | nil => exact ⟨[], rfl⟩
  | cons item items ih =>
    obtain ⟨s, hs⟩ := h item List.mem_cons_self
    obtain ⟨written, hwritten⟩ := ih fun item hitem => h item (List.mem_cons_of_mem _ hitem)
    exact ⟨s :: written, by simp [inlineItems?, hs, hwritten]⟩

/-- A plain value is written on one line. -/
theorem IsPlain.exists_inline (h : IsPlain room v) : ∃ s, inline? v = some s := by
  induction h with
  | text room s => exact ⟨_, rfl⟩
  | integer room hfits => exact ⟨_, if_pos hfits⟩
  | bool room b => exact ⟨_, rfl⟩
  | @array room items _ ih =>
    obtain ⟨written, hwritten⟩ := exists_inlineItems ih
    exact ⟨_, by rw [inline?, hwritten]; rfl⟩

theorem isToken_of_isScalarChar (h : Reader.isScalarChar c = true) :
    Reader.isToken c = true ∧ c ≠ ']' := by
  have hne := ne_of_kind h
  have hblank : Reader.isBlank c = false := by
    simp [Reader.isBlank, hne ' ' rfl, hne '\t' rfl]
  simp [Reader.isToken, hblank, hne '#' rfl, hne '\n' rfl, hne '\r' rfl, hne ']' rfl]

theorem isScalarChar_of_mem_toString {n : Int} (h : c ∈ (toString n).toList) :
    Reader.isScalarChar c = true := by
  have hdigit : ∀ m, c ∈ Nat.toDigits 10 m → Reader.isScalarChar c = true := fun m hc => by
    simp [Reader.isScalarChar, Char.isAlphanum, Reader.isDigit_of_mem_toDigits hc]
  cases n with
  | ofNat n => exact hdigit n (by rwa [Reader.toList_toString_ofNat] at h)
  | negSucc n =>
    rw [Reader.toList_toString_negSucc, List.mem_cons] at h
    rcases h with rfl | h
    · rfl
    · exact hdigit _ h

theorem exists_toString_eq (n : Int) : ∃ c ds, (toString n).toList = c :: ds := by
  cases n with
  | ofNat n =>
    rw [Reader.toList_toString_ofNat]
    exact List.exists_cons_of_ne_nil Nat.toDigits_ne_nil
  | negSucc n => exact ⟨_, _, Reader.toList_toString_negSucc n⟩

theorem exists_quote_eq (s : String) :
    ∃ form : StringForm, ∃ ds, (quote s).toList = form.mark :: ds := by
  refine ⟨.choose s.toList, ?_⟩
  rw [quote, String.toList_ofList, StringForm.write_eq]
  cases StringForm.choose s.toList <;> exact ⟨_, rfl⟩

/-- A value that is written does not begin with a gap, nor like the end of an array. -/
theorem IsPlain.exists_head (h : IsPlain room v) (hs : inline? v = some s) :
    ∃ c ds, s.toList = c :: ds ∧ Reader.isToken c = true ∧ c ≠ ']' := by
  cases h with
  | text room text =>
    cases hs
    obtain ⟨form, ds, heq⟩ := exists_quote_eq text
    exact ⟨_, ds, heq, by cases form <;> decide⟩
  | @integer room n hfits =>
    cases (if_pos hfits).symm.trans hs
    obtain ⟨c, ds, heq⟩ := exists_toString_eq n
    exact ⟨c, ds, heq, isToken_of_isScalarChar
      (isScalarChar_of_mem_toString (heq ▸ List.mem_cons_self))⟩
  | bool room b =>
    cases hs
    cases b <;> exact ⟨_, _, rfl, by decide⟩
  | array hitems =>
    obtain ⟨written, hwritten⟩ := exists_inlineItems fun item hitem =>
      (hitems item hitem).exists_inline
    rw [inline?, hwritten] at hs
    cases hs
    exact ⟨'[', _, by simp; rfl, by decide⟩

namespace Reader

/-- A value is read back from its line, if there is fuel for its characters. -/
def ReadsBack (room : Nat) (v : Value) : Prop :=
  ∀ ⦃s fuel rest⦄, inline? v = some s → s.toList.length ≤ fuel → EndsValue rest →
    valueFrom fuel room (s.toList ++ rest) = .ok (v, rest)

theorem readsBack_text (room : Nat) (text : String) : ReadsBack room (.text text) := by
  rintro _ fuel rest ⟨⟩ hfuel ⟨c, ds, rfl, hc⟩
  have hdouble : (c :: ds).head? ≠ some '"' := by rcases hc with rfl | rfl | rfl <;> simp
  have hsingle : (c :: ds).head? ≠ some '\x27' := by rcases hc with rfl | rfl | rfl <;> simp
  have hread := string_quote text hdouble hsingle
  obtain ⟨form, written, heq⟩ := exists_quote_eq text
  rw [heq] at hread hfuel ⊢
  obtain ⟨fuel, rfl⟩ := Nat.exists_eq_add_one_of_ne_zero (Nat.ne_of_gt (Nat.zero_lt_of_lt hfuel))
  have hvalue : valueFrom (fuel + 1) room (form.mark :: written ++ c :: ds) =
      (string >>= fun text => pure (.text text)) (form.mark :: written ++ c :: ds) := by
    cases form <;> rfl
  rw [hvalue, bind_of_ok hread]
  rfl

theorem valueFrom_scalar (hc : isScalarChar c = true) :
    valueFrom (fuel + 1) room (c :: rest) = scalar (c :: rest) := by
  have hne := ne_of_kind hc
  rw [valueFrom, bind_of_ok peek_cons]
  simp only [Option.some.injEq, hne '"' rfl, hne '\x27' rfl, hne '[' rfl, hne '{' rfl, imp_self]

theorem readsBack_integer (room : Nat) {n : Int} (hfits : fitsInteger n = true) :
    ReadsBack room (.integer n) := by
  intro s fuel rest hs hfuel hrest
  cases (if_pos hfits).symm.trans hs
  have hread := scalar_integer (fun c hc => isScalarChar_of_mem_toString hc) hrest
    (integer?_toString n) hfits
  obtain ⟨c, ds, heq⟩ := exists_toString_eq n
  have hc : isScalarChar c = true := isScalarChar_of_mem_toString (heq ▸ List.mem_cons_self)
  rw [heq] at hread hfuel ⊢
  obtain ⟨fuel, rfl⟩ := Nat.exists_eq_add_one_of_ne_zero (Nat.ne_of_gt (Nat.zero_lt_of_lt hfuel))
  rw [List.cons_append] at hread ⊢
  rw [valueFrom_scalar hc, hread]

theorem readsBack_bool (room : Nat) (b : Bool) : ReadsBack room (.bool b) := by
  rintro _ fuel rest ⟨⟩ hfuel hrest
  have hread := scalar_bool b hrest
  obtain ⟨fuel, rfl⟩ : ∃ n, fuel = n + 1 := by
    cases b <;> exact Nat.exists_eq_add_one_of_ne_zero (Nat.ne_of_gt (Nat.zero_lt_of_lt hfuel))
  cases b with
  | true => exact (valueFrom_scalar rfl).trans hread
  | false => exact (valueFrom_scalar rfl).trans hread

/-- An item is read, and what follows depends on the mark after it. -/
theorem itemsFrom_item {done : List Value} (hplain : IsPlain room v) (hread : ReadsBack room v)
    (hs : inline? v = some s) (hblank : ∀ d ∈ ds, isBlank d = true) (hfuel : s.toList.length ≤ fuel)
    (hc : c = ',' ∨ c = ']') :
    itemsFrom (fuel + 1) room done (ds ++ (s.toList ++ c :: rest)) =
      if c = ',' then itemsFrom fuel room (v :: done) rest
      else .ok ((v :: done).reverse, rest) := by
  obtain ⟨d, cs, hhead, htoken, hclose⟩ := hplain.exists_head hs
  have hends : EndsValue (c :: rest) := ⟨c, rest, rfl, .inr hc⟩
  have hvalue := hread hs hfuel hends
  rw [hhead, List.cons_append] at hvalue ⊢
  have hmark : isToken c = true := by rcases hc with rfl | rfl <;> rfl
  have hnone : ∀ d ∈ ([] : List Char), isBlank d = true := fun _ h => nomatch h
  have hgap : gap (fuel + 1) (c :: rest) = .ok ((), c :: rest) := gap_append hnone hmark
  rw [itemsFrom]
  change (gap (fuel + 1) >>= fun _ => peek >>= _) _ = _
  rw [bind_of_ok (gap_append hblank htoken), bind_of_ok peek_cons,
    if_neg (by simpa using hclose), bind_of_ok hvalue]
  change (gap (fuel + 1) >>= fun _ => peek >>= _) _ = _
  rw [bind_of_ok hgap, bind_of_ok peek_cons]
  rcases hc with rfl | rfl
  · rfl
  · rfl

/-- Items are read up to the end of their array. -/
theorem itemsFrom_inline {written : List String} {done : List Value}
    (hplain : ∀ item ∈ items, IsPlain room item) (hread : ∀ item ∈ items, ReadsBack room item)
    (hwritten : inlineItems? items = some written) (hblank : ∀ d ∈ ds, isBlank d = true)
    (hfuel : (", ".intercalate written).toList.length ≤ fuel) :
    itemsFrom (fuel + 1) room done (ds ++ ((", ".intercalate written).toList ++ ']' :: rest)) =
      .ok (done.reverse ++ items, rest) := by
  induction items generalizing written done ds fuel with
  | nil =>
    cases hwritten
    rw [String.intercalate_nil, itemsFrom]
    change (gap (fuel + 1) >>= _) (ds ++ ']' :: rest) = _
    rw [bind_of_ok (gap_append hblank rfl), List.append_nil]
    rfl
  | cons item items ih =>
    have hitem := hplain item List.mem_cons_self
    have hitems := fun item hmem => hplain item (List.mem_cons_of_mem _ hmem)
    have hreads := fun item hmem => hread item (List.mem_cons_of_mem _ hmem)
    obtain ⟨first, hfirst⟩ := hitem.exists_inline
    obtain ⟨later, hlater⟩ := exists_inlineItems fun item hmem => (hitems item hmem).exists_inline
    obtain rfl : first :: later = written := by
      simpa [inlineItems?, hfirst, hlater] using hwritten
    cases items with
    | nil =>
      cases hlater
      rw [String.intercalate_singleton] at hfuel ⊢
      rw [itemsFrom_item hitem (hread item List.mem_cons_self) hfirst hblank hfuel (.inr rfl)]
      simp
    | cons next items =>
      have hne : later ≠ [] := by
        rintro rfl
        obtain ⟨second, hsecond⟩ := (hitems next List.mem_cons_self).exists_inline
        obtain ⟨others, hothers⟩ := exists_inlineItems fun item hmem =>
          (hitems item (List.mem_cons_of_mem _ hmem)).exists_inline
        simp [inlineItems?, hsecond, hothers] at hlater
      have htext : (", ".intercalate (first :: later)).toList ++ ']' :: rest = first.toList ++
          ',' :: ([' '] ++ ((", ".intercalate later).toList ++ ']' :: rest)) := by
        rw [String.intercalate_cons_of_ne_nil hne]
        simp
      have hlength : first.toList.length + 2 + (", ".intercalate later).toList.length ≤ fuel := by
        rw [String.intercalate_cons_of_ne_nil hne] at hfuel
        simp only [String.toList_append, List.length_append] at hfuel
        exact hfuel
      obtain ⟨fuel, rfl⟩ : ∃ n, fuel = n + 1 := ⟨fuel - 1, by omega⟩
      rw [htext, itemsFrom_item hitem (hread item List.mem_cons_self) hfirst hblank (by omega)
        (.inl rfl), if_pos rfl, ih hitems hreads hlater (by simp [isBlank]) (by omega)]
      simp

theorem readsBack_array (hplain : ∀ item ∈ items, IsPlain room item)
    (hread : ∀ item ∈ items, ReadsBack room item) : ReadsBack (room + 1) (.array items) := by
  intro s fuel rest hs hfuel hrest
  obtain ⟨written, hwritten⟩ := exists_inlineItems fun item hmem =>
    (hplain item hmem).exists_inline
  rw [inline?, hwritten] at hs
  cases hs
  have htext : ("[" ++ ", ".intercalate written ++ "]").toList ++ rest =
      '[' :: ([] ++ ((", ".intercalate written).toList ++ ']' :: rest)) := by simp
  have hlength : (", ".intercalate written).toList.length + 2 ≤ fuel := by
    simp only [String.toList_append, List.length_append] at hfuel
    change 1 + _ + 1 ≤ fuel at hfuel
    omega
  obtain ⟨fuel, rfl⟩ : ∃ n, fuel = n + 2 := ⟨fuel - 2, by omega⟩
  rw [htext, valueFrom]
  change (itemsFrom (fuel + 1) room [] >>= fun items => pure (Value.array items))
    ([] ++ ((", ".intercalate written).toList ++ ']' :: rest)) = _
  rw [bind_of_ok (itemsFrom_inline hplain hread hwritten (by simp) (by omega))]
  rfl

/-- A plain value is read back from its line. -/
theorem readsBack_of_isPlain (h : IsPlain room v) : ReadsBack room v := by
  induction h with
  | text room s => exact readsBack_text room s
  | integer room hfits => exact readsBack_integer room hfits
  | bool room b => exact readsBack_bool room b
  | array hitems ih => exact readsBack_array hitems ih

end Reader

end Sandbox.Toml
