import Sandbox.Toml.Reader
import Sandbox.Toml.Writer

/-!
# Strings are read back

A string shows its text character by character: as itself, or by an escape in the forms that have
them. `Shows` says once how a character may be shown in a form. Both ways to write a text, with and
without escapes, are such, and the readers of all four forms depend on nothing else.

## Main definitions

* `StringForm.mark`, `StringForm.hasEscapes`, `StringForm.isMulti` : what tells the forms apart.
* `IsEscape` : what stands after a backslash for a character.
* `Shows` : the ways to show a text between the quotes of a form.
* `Writes` : what is written for a character in a form with escapes.

## Main results

* `shows_body_choose` : a text is shown in the form that is chosen for it.
* `Reader.string_write` : a text that is shown in a form is read from there.
* `Reader.string_quote` : every text is read back from its string.
-/

namespace Sandbox.Toml

/-- The quote of a form. -/
def StringForm.mark : StringForm → Char
  | basic | multiBasic => '"'
  | literal | multiLiteral => '\x27'

/-- Whether a form has escapes. -/
def StringForm.hasEscapes : StringForm → Bool
  | basic | multiBasic => true
  | literal | multiLiteral => false

/-- Whether a form has several lines. -/
def StringForm.isMulti : StringForm → Bool
  | basic | literal => false
  | multiBasic | multiLiteral => true

/-- The quotes at both ends of a form. -/
def StringForm.quotes (form : StringForm) : List Char :=
  if form.isMulti then [form.mark, form.mark, form.mark] else [form.mark]

/-- A text between the quotes of a form. -/
def StringForm.body (form : StringForm) (cs : List Char) : List Char :=
  if form.hasEscapes then escapeFrom form.isMulti 0 cs else cs

/-- The newline before a text that has newlines, in a form with several lines. -/
def StringForm.lead (form : StringForm) (cs : List Char) : List Char :=
  if form.isMulti && cs.contains '\n' then ['\n'] else []

theorem StringForm.write_eq (form : StringForm) (cs : List Char) :
    form.write cs = form.quotes ++ (form.lead cs ++ (form.body cs ++ form.quotes)) := by
  cases form with
  | basic | literal => rfl
  | multiBasic | multiLiteral => exact (List.append_assoc ..).trans (List.append_assoc ..)

/-- What stands after a backslash for a character. -/
def IsEscape (e : List Char) (c : Char) : Prop :=
  (∀ rest, Reader.escape (e ++ rest) = .ok (c, rest)) ∧
    ∀ rest, Reader.joinsLines (e ++ rest) = false

/-- The ways to show a text between the quotes of a form, after a run of quotes of the text. -/
inductive Shows (form : StringForm) : (run : Nat) → List Char → List Char → Prop where
  /-- Nothing is left. -/
  | nil (run : Nat) : Shows form run [] []
  /-- On several lines two quotes may stand side by side. -/
  | mark {run : Nat} {cs ds : List Char} (hmulti : form.isMulti = true) (hrun : run < 2)
    (hrest : Shows form (run + 1) cs ds) : Shows form run (form.mark :: cs) (form.mark :: ds)
  /-- On several lines a newline stands for itself. -/
  | newline {run : Nat} {cs ds : List Char} (hmulti : form.isMulti = true)
    (hrest : Shows form 0 cs ds) : Shows form run ('\n' :: cs) ('\n' :: ds)
  /-- A character that stands for itself. -/
  | plain {run : Nat} {c : Char} {cs ds : List Char} (hvisible : Reader.isVisible c = true)
    (hmark : c ≠ form.mark) (hbackslash : form.hasEscapes = true → c ≠ '\\')
    (hrest : Shows form 0 cs ds) : Shows form run (c :: cs) (c :: ds)
  /-- A character that stands after a backslash. -/
  | escaped {run : Nat} {c : Char} {e cs ds : List Char} (hescapes : form.hasEscapes = true)
    (hescape : IsEscape e c) (hrest : Shows form 0 cs ds) :
    Shows form run (c :: cs) ('\\' :: (e ++ ds))

variable {α β : Type} {form : StringForm} {run fuel : Nat} {c : Char}
  {cs ds done rest : List Char} {a : α}

theorem StringForm.mark_ne_backslash (form : StringForm) : form.mark ≠ '\\' := by
  cases form <;> decide

theorem StringForm.mark_ne_newline (form : StringForm) : form.mark ≠ '\n' := by
  cases form <;> decide

theorem Shows.length_le (h : Shows form run cs ds) : cs.length ≤ ds.length := by
  induction h with
  | nil => exact Nat.le_refl _
  | mark _ _ _ ih => simpa using ih
  | newline _ _ ih => simpa using ih
  | plain _ _ _ _ ih => simpa using ih
  | escaped _ _ _ ih =>
    simp only [List.length_cons, List.length_append]
    omega

/-- A character of a kind differs from those that are not of it. -/
theorem ne_of_kind {p : Char → Bool} (h : p c = true) (d : Char) (hd : p d = false) : c ≠ d := by
  rintro rfl
  rw [hd] at h
  cases h

theorem isVisible_of_not_needsEscape (h : needsEscape c = false) (hline : c ≠ '\n') :
    Reader.isVisible c = true := by
  simp only [needsEscape, Bool.or_eq_false_iff, Bool.and_eq_false_iff, decide_eq_false_iff_not,
    bne_eq_false_iff_eq, beq_eq_false_iff_ne] at h
  simp only [Reader.isVisible, Bool.or_eq_true, Bool.and_eq_true, decide_eq_true_eq, beq_iff_eq,
    bne_iff_ne]
  rcases h.1 with (hlow | htab) | hline'
  · exact .inr ⟨by omega, h.2⟩
  · exact .inl htab
  · exact absurd hline' hline

namespace Reader

/-- One reader after another. -/
theorem bind_of_ok {x : Reader α} {f : α → Reader β} (h : x cs = .ok (a, ds)) :
    (x >>= f) cs = f a ds := by
  change StateT.bind x f cs = _
  simp only [StateT.bind, h]
  rfl

theorem get_eq : (get : Reader (List Char)) cs = .ok (cs, cs) :=
  rfl

theorem set_eq : (set ds : Reader PUnit) cs = .ok ((), ds) :=
  rfl

end Reader

/-! ### What is written -/

theorem hexNumber_append {count value n : Nat} :
    (Reader.hexNumber count value ds).toOption = some (n, []) →
      Reader.hexNumber count value (ds ++ rest) = .ok (n, rest) := by
  induction count generalizing value ds with
  | zero =>
    intro h
    cases h
    rfl
  | succ count ih =>
    intro h
    rw [Reader.hexNumber, Reader.bind_of_ok Reader.get_eq] at h ⊢
    cases ds with
    | nil => cases h
    | cons d ds =>
      simp only [List.cons_append] at h ⊢
      cases hd : Reader.hexDigit? d with
      | none => simp only [hd] at h; cases h
      | some digit =>
        simp only [hd] at h ⊢
        rw [Reader.bind_of_ok Reader.set_eq] at h ⊢
        exact ih h

/-- A control is read back from its four digits. -/
theorem isEscape_hexQuad (h : needsEscape c = true) : IsEscape ('u' :: hexQuad c.toNat) c := by
  have hcode : c.toNat < 0x80 := by
    simp only [needsEscape, Bool.or_eq_true, Bool.and_eq_true, decide_eq_true_eq, beq_iff_eq] at h
    rcases h with ⟨⟨hlow, -⟩, -⟩ | rfl
    · omega
    · decide
  have hdigits : ∀ n < 0x80, (Reader.hexNumber 4 0 (hexQuad n)).toOption = some (n, []) := by
    decide +kernel
  refine ⟨fun rest => ?_, fun rest => rfl⟩
  change (Reader.hexNumber 4 0 >>= Reader.codePoint) (hexQuad c.toNat ++ rest) = _
  rw [Reader.bind_of_ok (hexNumber_append (hdigits _ hcode)), Reader.codePoint,
    if_pos (.inl (by omega)), Char.ofNat_toNat]
  rfl

/-- What is written for a character in a form with escapes, after a run of quotes. -/
inductive Writes (multi : Bool) (run : Nat) : Char → List Char → Prop where
  /-- On several lines, a quote after one other at most. -/
  | mark (hmulti : multi = true) (hrun : run < 2) : Writes multi run '"' ['"']
  /-- On several lines, a newline. -/
  | newline (hmulti : multi = true) : Writes multi run '\n' ['\n']
  /-- A character that stands for itself. -/
  | plain {c : Char} (hvisible : Reader.isVisible c = true) (hmark : c ≠ '"')
    (hbackslash : c ≠ '\\') : Writes multi run c [c]
  /-- The escape of a character. -/
  | escaped {c : Char} {e : List Char} (hescape : IsEscape e c) : Writes multi run c ('\\' :: e)

theorem writes_escapeChar (multi : Bool) (run : Nat) (c : Char) :
    Writes multi run c (escapeChar multi run c) := by
  unfold escapeChar
  split
  iterate 2 exact .escaped ⟨fun _ => rfl, fun _ => rfl⟩
  · cases multi with
    | true => exact .newline rfl
    | false => exact .escaped ⟨fun _ => rfl, fun _ => rfl⟩
  iterate 2 exact .escaped ⟨fun _ => rfl, fun _ => rfl⟩
  · split
    · next hraw =>
      rw [Bool.and_eq_true, decide_eq_true_eq] at hraw
      exact .mark hraw.1 hraw.2
    · exact .escaped ⟨fun _ => rfl, fun _ => rfl⟩
  · exact .escaped ⟨fun _ => rfl, fun _ => rfl⟩
  · next hline _ _ hmark hbackslash =>
    split
    · next hescape => exact .escaped (isEscape_hexQuad hescape)
    · next hescape =>
      exact .plain (isVisible_of_not_needsEscape (Bool.eq_false_iff.mpr hescape) hline) hmark
        hbackslash

theorem StringForm.mark_of_hasEscapes (h : form.hasEscapes = true) : form.mark = '"' := by
  cases form <;> first | rfl | cases h

/-- A text is shown by what is written in a form with escapes. -/
theorem shows_escapeFrom (h : form.hasEscapes = true) (run : Nat) (cs : List Char) :
    Shows form run cs (escapeFrom form.isMulti run cs) := by
  have hmark := StringForm.mark_of_hasEscapes h
  induction cs generalizing run with
  | nil => exact .nil run
  | cons c cs ih =>
    have hwrites := writes_escapeChar form.isMulti run c
    rw [escapeFrom]
    generalize escapeChar form.isMulti run c = written at hwrites
    cases hwrites with
    | mark hmulti hrun =>
      rw [if_pos (beq_self_eq_true _), ← hmark]
      exact .mark hmulti hrun (ih (run + 1))
    | newline hmulti => exact .newline hmulti (ih 0)
    | plain hvisible hquote hbackslash =>
      rw [if_neg (by simpa using hquote)]
      exact .plain hvisible (hmark ▸ hquote) (fun _ => hbackslash) (ih 0)
    | escaped hescape =>
      rw [if_neg (by simp), List.cons_append]
      exact .escaped h hescape (ih 0)

/-- One more character of a search for the longest run: the length of the longest one so far, and of
the run at the end. -/
def extendRun (c : Char) : Nat × Nat → Char → Nat × Nat
  | (best, now), d =>
    let now := if d == c then now + 1 else 0
    (max best now, now)

theorem longestRun_eq (c : Char) (cs : List Char) :
    longestRun c cs = (cs.foldl (extendRun c) (0, 0)).1 :=
  rfl

theorem le_foldl_extendRun (c : Char) (cs : List Char) (best now : Nat) :
    best ≤ (cs.foldl (extendRun c) (best, now)).1 := by
  induction cs generalizing best now with
  | nil => exact Nat.le_refl _
  | cons d cs ih => exact Nat.le_trans (Nat.le_max_left _ _) (ih _ _)

/-- A text without escapes is shown by itself, if its runs of quotes are short enough. -/
theorem shows_self (h : form.hasEscapes = false) (hescape : ∀ c ∈ cs, needsEscape c = false)
    (hline : form.isMulti = false → '\n' ∉ cs) {best : Nat}
    (hrun : (cs.foldl (extendRun form.mark) (best, run)).1 ≤ if form.isMulti then 2 else 0) :
    Shows form run cs cs := by
  induction cs generalizing best run with
  | nil => exact .nil run
  | cons c cs ih =>
    have hnext : ∀ run', (extendRun form.mark (best, run) c).2 = run' → Shows form run' cs cs := by
      rintro _ rfl
      exact ih (fun d hd => hescape d (List.mem_cons_of_mem c hd))
        (fun hmulti hmem => hline hmulti (List.mem_cons_of_mem c hmem)) hrun
    by_cases hquote : c = form.mark
    · have hnow := Nat.le_trans (le_foldl_extendRun form.mark cs _ _) hrun
      have hlimit : run + 1 ≤ if form.isMulti then 2 else 0 := by
        refine Nat.le_trans (Nat.le_max_right best (run + 1)) ?_
        simpa [extendRun, hquote] using hnow
      cases hmulti : form.isMulti with
      | false => simp [hmulti] at hlimit
      | true =>
        rw [if_pos hmulti] at hlimit
        subst hquote
        exact .mark hmulti hlimit (hnext _ (by simp [extendRun]))
    · have hrest : Shows form 0 cs cs := hnext _ (by simp [extendRun, hquote])
      by_cases hnewline : c = '\n'
      · subst hnewline
        refine .newline ?_ hrest
        cases hmulti : form.isMulti with
        | false => exact absurd List.mem_cons_self (hline hmulti)
        | true => rfl
      · exact .plain (isVisible_of_not_needsEscape (hescape c List.mem_cons_self) hnewline) hquote
          (fun hescapes => by simp [h] at hescapes) hrest

/-- A form without escapes is chosen only for a text that needs none. -/
theorem fits_of_choose (cs : List Char) (h : (StringForm.choose cs).hasEscapes = false) :
    (∀ c ∈ cs, needsEscape c = false) ∧
      ((StringForm.choose cs).isMulti = false → '\n' ∉ cs) ∧
      longestRun (StringForm.choose cs).mark cs ≤
        if (StringForm.choose cs).isMulti then 2 else 0 := by
  revert h
  fun_cases StringForm.choose cs
  case case2 hliteral =>
    simp only [Bool.and_eq_true, Bool.not_eq_true', beq_iff_eq] at hliteral
    obtain ⟨⟨hescapes, hsingle⟩, (hline : cs.contains '\n' = false)⟩ := hliteral
    intro _
    exact ⟨fun c hc => by simpa using List.any_eq_false.mp hescapes c hc,
      fun _ hmem => by simp [hmem] at hline, Nat.le_of_eq hsingle⟩
  case case4 hliteral =>
    simp only [Bool.and_eq_true, Bool.not_eq_true', decide_eq_true_eq] at hliteral
    obtain ⟨hescapes, hsingle⟩ := hliteral
    intro _
    exact ⟨fun c hc => by simpa using List.any_eq_false.mp hescapes c hc,
      fun hmulti => Bool.noConfusion hmulti, hsingle⟩
  all_goals exact fun h => Bool.noConfusion h

/-- A text is shown in the form that is chosen for it. -/
theorem shows_body_choose (cs : List Char) :
    Shows (.choose cs) 0 cs ((StringForm.choose cs).body cs) := by
  cases hescapes : (StringForm.choose cs).hasEscapes with
  | true =>
    rw [StringForm.body, if_pos hescapes]
    exact shows_escapeFrom hescapes 0 cs
  | false =>
    obtain ⟨hescape, hline, hrun⟩ := fits_of_choose cs hescapes
    rw [longestRun_eq] at hrun
    rw [StringForm.body, if_neg (by simp [hescapes])]
    exact shows_self hescapes hescape hline hrun

namespace Reader

/-! ### What is read -/

/-- A string on one line, with escapes, is read up to its closing quote. -/
theorem basicFrom_shows (h : Shows .basic run cs ds) (hfuel : cs.length < fuel) :
    basicFrom fuel done (ds ++ '"' :: rest) = .ok (String.ofList (done.reverse ++ cs), rest) := by
  induction h generalizing fuel done with
  | nil run =>
    obtain ⟨fuel, rfl⟩ := Nat.exists_eq_add_one_of_ne_zero (Nat.ne_of_gt hfuel)
    rw [List.append_nil]
    rfl
  | mark hmulti => cases hmulti
  | newline hmulti => cases hmulti
  | @plain run c cs ds hvisible hmark hbackslash _ ih =>
    obtain ⟨fuel, rfl⟩ := Nat.exists_eq_add_one_of_ne_zero (Nat.ne_of_gt (Nat.zero_lt_of_lt hfuel))
    have hquote : c ≠ '"' := hmark
    rw [basicFrom, List.cons_append, bind_of_ok get_eq]
    change ((set (ds ++ '"' :: rest) : Reader PUnit) >>= _) _ = _
    rw [bind_of_ok set_eq, if_neg (by simpa using hquote), if_neg (by simpa using hbackslash rfl),
      if_pos hvisible, ih (Nat.lt_of_succ_lt_succ hfuel)]
    simp
  | @escaped run c e cs ds _ hescape _ ih =>
    obtain ⟨fuel, rfl⟩ := Nat.exists_eq_add_one_of_ne_zero (Nat.ne_of_gt (Nat.zero_lt_of_lt hfuel))
    rw [basicFrom, List.cons_append, List.append_assoc, bind_of_ok get_eq]
    change ((set (e ++ (ds ++ '"' :: rest)) : Reader PUnit) >>= fun _ =>
      escape >>= fun c => basicFrom fuel (c :: done)) _ = _
    rw [bind_of_ok set_eq, bind_of_ok (hescape.1 _), ih (Nat.lt_of_succ_lt_succ hfuel)]
    simp

/-- A string on one line, without escapes, is read up to its closing quote. -/
theorem literalFrom_shows (h : Shows .literal run cs ds) (hfuel : cs.length < fuel) :
    literalFrom fuel done (ds ++ '\x27' :: rest) =
      .ok (String.ofList (done.reverse ++ cs), rest) := by
  induction h generalizing fuel done with
  | nil run =>
    obtain ⟨fuel, rfl⟩ := Nat.exists_eq_add_one_of_ne_zero (Nat.ne_of_gt hfuel)
    rw [List.append_nil]
    rfl
  | mark hmulti => cases hmulti
  | newline hmulti => cases hmulti
  | escaped hescapes => cases hescapes
  | @plain run c cs ds hvisible hmark _ _ ih =>
    obtain ⟨fuel, rfl⟩ := Nat.exists_eq_add_one_of_ne_zero (Nat.ne_of_gt (Nat.zero_lt_of_lt hfuel))
    have hquote : c ≠ '\x27' := hmark
    rw [literalFrom, List.cons_append, bind_of_ok get_eq]
    change ((set (ds ++ '\x27' :: rest) : Reader PUnit) >>= _) _ = _
    rw [bind_of_ok set_eq, if_neg (by simpa using hquote), if_pos hvisible,
      ih (Nat.lt_of_succ_lt_succ hfuel)]
    simp

theorem quoteCount_cons_self (q : Char) (cs : List Char) :
    quoteCount q (q :: cs) = quoteCount q cs + 1 := by
  simp [quoteCount]

theorem quoteCount_cons_of_ne {q : Char} (h : c ≠ q) : quoteCount q (c :: cs) = 0 := by
  simp [quoteCount, h]

theorem quoteCount_eq_zero {q : Char} (h : rest.head? ≠ some q) : quoteCount q rest = 0 := by
  cases rest with
  | nil => rfl
  | cons c rest => exact quoteCount_cons_of_ne fun heq => h (by rw [heq]; rfl)

/-- The quotes at the front of a text that is shown are too few to close the string, or they are
those that close it and at most two more. -/
theorem quoteCount_shows (h : Shows form run cs ds) (hrun : run ≤ 2)
    (hrest : rest.head? ≠ some form.mark) :
    let count := quoteCount form.mark (ds ++ form.mark :: form.mark :: form.mark :: rest)
    count + run ≤ 2 ∨ 3 ≤ count ∧ count + run ≤ 5 := by
  induction h with
  | nil run =>
    simp only [List.nil_append, quoteCount_cons_self, quoteCount_eq_zero hrest]
    omega
  | mark _ hrun' _ ih =>
    have := ih hrun'
    simp only [List.cons_append, quoteCount_cons_self] at this ⊢
    omega
  | newline =>
    simp only [List.cons_append, quoteCount_cons_of_ne form.mark_ne_newline.symm]
    omega
  | plain _ hmark =>
    simp only [List.cons_append, quoteCount_cons_of_ne hmark]
    omega
  | escaped =>
    simp only [List.cons_append, quoteCount_cons_of_ne form.mark_ne_backslash.symm]
    omega

/-- What is read at a quote depends on how many stand there. -/
theorem multiFrom_mark (q : Char) (escapes : Bool) (fuel : Nat) (done rest : List Char) :
    multiFrom q escapes (fuel + 1) done (q :: rest) =
      if quoteCount q rest < 2 then
        multiFrom q escapes fuel (List.replicate (quoteCount q rest + 1) q ++ done)
          (rest.drop (quoteCount q rest))
      else if quoteCount q rest ≤ 4 then
        .ok (String.ofList (List.replicate (quoteCount q rest - 2) q ++ done).reverse,
          rest.drop (quoteCount q rest))
      else .error .malformed := by
  rw [multiFrom, bind_of_ok get_eq]
  simp only [beq_self_eq_true, if_true, quoteCount_cons_self]
  generalize quoteCount q rest = count
  by_cases hfew : count < 2
  · rw [if_pos hfew, if_pos (by omega)]
    rfl
  · by_cases hclose : count ≤ 4
    · rw [if_neg hfew, if_pos hclose, if_neg (by omega), if_pos (by omega)]
      rfl
    · rw [if_neg hfew, if_neg hclose, if_neg (by omega), if_neg (by omega)]
      rfl

/-- A quote that belongs to the text is read as itself. -/
theorem exists_multiFrom_mark {q : Char} {escapes : Bool} (fuel : Nat) (done : List Char)
    (h : quoteCount q rest ≤ 1 ∨ 3 ≤ quoteCount q rest ∧ quoteCount q rest ≤ 4) :
    ∃ fuel', fuel ≤ fuel' ∧ multiFrom q escapes (fuel + 1) done (q :: rest) =
      multiFrom q escapes fuel' (q :: done) rest := by
  rw [multiFrom_mark]
  by_cases hlast : quoteCount q rest = 0
  · exact ⟨fuel, Nat.le_refl _, by simp [hlast]⟩
  · -- the quotes after it are read in one step, as they would be without it
    refine ⟨fuel + 1, Nat.le_succ _, ?_⟩
    obtain ⟨rest, rfl⟩ : ∃ rest', rest = q :: rest' := by
      cases rest with
      | nil => exact absurd rfl hlast
      | cons c rest =>
        by_cases hc : c = q
        · exact ⟨rest, by rw [hc]⟩
        · exact absurd (quoteCount_cons_of_ne hc) hlast
    rw [quoteCount_cons_self] at h ⊢
    rw [multiFrom_mark]
    obtain hcount | hcount | hcount : quoteCount q rest = 0 ∨ quoteCount q rest = 2 ∨
        quoteCount q rest = 3 := by omega
    all_goals simp [hcount, List.replicate_succ]

/-- A string on several lines is read up to its closing quotes. -/
theorem multiFrom_shows (h : Shows form run cs ds) (hrun : run ≤ 2)
    (hrest : rest.head? ≠ some form.mark) (hfuel : cs.length < fuel) :
    multiFrom form.mark form.hasEscapes fuel done
        (ds ++ form.mark :: form.mark :: form.mark :: rest) =
      .ok (String.ofList (done.reverse ++ cs), rest) := by
  induction h generalizing fuel done with
  | nil run =>
    obtain ⟨fuel, rfl⟩ := Nat.exists_eq_add_one_of_ne_zero (Nat.ne_of_gt hfuel)
    rw [List.nil_append, multiFrom_mark, quoteCount_cons_self, quoteCount_cons_self,
      quoteCount_eq_zero hrest]
    simp
  | @mark run cs ds _ hrun' hshows ih =>
    obtain ⟨fuel, rfl⟩ := Nat.exists_eq_add_one_of_ne_zero (Nat.ne_of_gt (Nat.zero_lt_of_lt hfuel))
    have hcount := quoteCount_shows hshows hrun' hrest
    obtain ⟨fuel', hle, heq⟩ := exists_multiFrom_mark fuel done
      (show quoteCount form.mark (ds ++ form.mark :: form.mark :: form.mark :: rest) ≤ 1 ∨ _
        by omega)
    rw [List.cons_append, heq, ih hrun' (Nat.lt_of_lt_of_le (Nat.lt_of_succ_lt_succ hfuel) hle)]
    simp
  | @newline run cs ds _ _ ih =>
    obtain ⟨fuel, rfl⟩ := Nat.exists_eq_add_one_of_ne_zero (Nat.ne_of_gt (Nat.zero_lt_of_lt hfuel))
    rw [multiFrom, List.cons_append, bind_of_ok get_eq]
    dsimp only
    rw [if_neg (by simpa using form.mark_ne_newline.symm), bind_of_ok set_eq, if_neg (by simp),
      if_pos (beq_self_eq_true _), ih (Nat.zero_le _) (Nat.lt_of_succ_lt_succ hfuel)]
    simp
  | @plain run c cs ds hvisible hmark hbackslash _ ih =>
    obtain ⟨fuel, rfl⟩ := Nat.exists_eq_add_one_of_ne_zero (Nat.ne_of_gt (Nat.zero_lt_of_lt hfuel))
    rw [multiFrom, List.cons_append, bind_of_ok get_eq]
    dsimp only
    rw [if_neg (by simpa using hmark), bind_of_ok set_eq, if_neg (by simpa using hbackslash),
      if_neg (by simpa using ne_of_kind hvisible '\n' rfl),
      if_neg (by simpa using ne_of_kind hvisible '\r' rfl), if_pos hvisible,
      ih (Nat.zero_le _) (Nat.lt_of_succ_lt_succ hfuel)]
    simp
  | @escaped run c e cs ds hescapes hescape _ ih =>
    obtain ⟨fuel, rfl⟩ := Nat.exists_eq_add_one_of_ne_zero (Nat.ne_of_gt (Nat.zero_lt_of_lt hfuel))
    rw [multiFrom, List.cons_append, List.append_assoc, bind_of_ok get_eq]
    dsimp only
    rw [if_neg (by simpa using form.mark_ne_backslash.symm), bind_of_ok set_eq,
      if_pos (by simp [hescapes]), if_neg (by simp [hescape.2]), bind_of_ok (hescape.1 _),
      ih (Nat.zero_le _) (Nat.lt_of_succ_lt_succ hfuel)]
    simp

theorem newline?_cons_of_ne (hline : c ≠ '\n') (hreturn : c ≠ '\r') :
    newline? (c :: rest) = .ok (false, c :: rest) := by
  rw [newline?, bind_of_ok get_eq]
  simp only [List.cons.injEq, hline, hreturn, false_and, imp_self, implies_true]
  rfl

/-- The newline before a text is passed over, and nothing else is. -/
theorem newline?_lead (rest : List Char) (h : Shows form run cs ds)
    (hmulti : form.isMulti = true) :
    ∃ b, newline? (form.lead cs ++ (ds ++ form.mark :: rest)) =
      .ok (b, ds ++ form.mark :: rest) := by
  by_cases hline : '\n' ∈ cs
  · refine ⟨true, ?_⟩
    rw [StringForm.lead, if_pos (by simp [hmulti, hline])]
    rfl
  · refine ⟨false, ?_⟩
    rw [StringForm.lead, if_neg (by simp [hline]), List.nil_append]
    have hreturn : form.mark ≠ '\r' := by cases form <;> decide
    cases h with
    | nil => exact newline?_cons_of_ne form.mark_ne_newline hreturn
    | mark => exact newline?_cons_of_ne form.mark_ne_newline hreturn
    | newline => exact absurd List.mem_cons_self hline
    | plain hvisible =>
      exact newline?_cons_of_ne (ne_of_kind hvisible _ rfl) (ne_of_kind hvisible _ rfl)
    | escaped => exact newline?_cons_of_ne (by decide) (by decide)

/-- A string on one line does not begin like one on several lines. -/
theorem not_isPrefixOf_shows (h : Shows form run cs ds) (hmulti : form.isMulti = false)
    (hrest : rest.head? ≠ some form.mark) :
    [form.mark, form.mark, form.mark].isPrefixOf (form.mark :: (ds ++ form.mark :: rest)) =
      false := by
  cases h with
  | nil =>
    cases rest with
    | nil => simp [List.isPrefixOf]
    | cons c rest =>
      have hc : form.mark ≠ c := fun heq => hrest (by rw [heq]; rfl)
      simp [List.isPrefixOf, hc]
  | mark h => simp [hmulti] at h
  | newline h => simp [hmulti] at h
  | plain _ hmark => simp [List.isPrefixOf, hmark.symm]
  | escaped => simp [List.isPrefixOf, form.mark_ne_backslash]

/-- How a string on several lines begins. -/
theorem string_multi (h : form.isMulti = true) (cs : List Char) :
    string (form.mark :: form.mark :: form.mark :: cs) =
      (newline? >>= fun _ => multiFrom form.mark form.hasEscapes (cs.length + 4) []) cs := by
  cases form with
  | basic | literal => cases h
  | multiBasic | multiLiteral => rfl

theorem startsWith_eq (front : String) :
    startsWith front cs = .ok (front.toList.isPrefixOf cs, cs) :=
  rfl

/-- How a string on one line, with escapes, begins. -/
theorem string_basic (h : ['"', '"', '"'].isPrefixOf ('"' :: cs) = false) :
    string ('"' :: cs) = basicFrom (cs.length + 2) [] cs := by
  rw [string, bind_of_ok get_eq, bind_of_ok (startsWith_eq _),
    if_neg (by rw [Bool.not_eq_true]; exact h)]
  rfl

/-- How a string on one line, without escapes, begins. -/
theorem string_literal (h : ['\x27', '\x27', '\x27'].isPrefixOf ('\x27' :: cs) = false) :
    string ('\x27' :: cs) = literalFrom (cs.length + 2) [] cs := by
  rw [string, bind_of_ok get_eq, bind_of_ok (startsWith_eq _), if_neg (by simp),
    bind_of_ok (startsWith_eq _), if_neg (by rw [Bool.not_eq_true]; exact h)]
  rfl

/-- A text that is shown in a form is read from there. -/
theorem string_write (h : Shows form 0 cs (form.body cs)) (hrest : rest.head? ≠ some form.mark) :
    string (form.write cs ++ rest) = .ok (String.ofList cs, rest) := by
  have hlength := h.length_le
  cases hmulti : form.isMulti with
  | false =>
    have hprefix := not_isPrefixOf_shows h hmulti hrest
    have htext : form.write cs ++ rest = form.mark :: (form.body cs ++ form.mark :: rest) := by
      simp [form.write_eq, StringForm.quotes, StringForm.lead, hmulti]
    have hfuel : cs.length < (form.body cs ++ form.mark :: rest).length + 2 := by
      simp only [List.length_append]
      omega
    rw [htext]
    cases form with
    | basic => exact (string_basic hprefix).trans (basicFrom_shows h hfuel)
    | literal => exact (string_literal hprefix).trans (literalFrom_shows h hfuel)
    | multiBasic | multiLiteral => cases hmulti
  | true =>
    have htext : form.write cs ++ rest = form.mark :: form.mark :: form.mark ::
        (form.lead cs ++ (form.body cs ++ form.mark :: form.mark :: form.mark :: rest)) := by
      simp [form.write_eq, StringForm.quotes, hmulti]
    obtain ⟨b, hlead⟩ := newline?_lead (form.mark :: form.mark :: rest) h hmulti
    rw [htext, string_multi hmulti, bind_of_ok hlead]
    refine multiFrom_shows h (Nat.zero_le _) hrest ?_
    simp only [List.length_append]
    omega

/-- A text is read back from its string, whatever its characters are. -/
theorem string_quote (text : String) (hdouble : rest.head? ≠ some '"')
    (hsingle : rest.head? ≠ some '\x27') :
    string ((quote text).toList ++ rest) = .ok (text, rest) := by
  have hrest : rest.head? ≠ some (StringForm.choose text.toList).mark := by
    cases StringForm.choose text.toList <;> assumption
  rw [quote, String.toList_ofList, string_write (shows_body_choose _) hrest, String.ofList_toList]

end Reader

end Sandbox.Toml
