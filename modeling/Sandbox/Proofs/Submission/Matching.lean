import Sandbox.Submission.EntryPoint

/-!
# Where entry points stand

An entry point is a text of a certain form that stands where a word may begin. A source is cut into
pieces from left to right, and an entry point that begins inside another one would be missed; but
none does, so that the pieces show all entry points there are.

## Main definitions

* `IsSpan` : the texts that are entry points.
* `StandsAt` : the places of a source at which an entry point begins.
* `offsets` : the places at which the entry points among the pieces begin.

## Main results

* `spanLength?_eq_some_iff` : the length that is found is that of an entry point at the front.
* `IsSpan.hasNoInt` : no entry point begins inside another one.
* `mem_offsets_iff` : the pieces show all entry points of a source.
-/

namespace Sandbox.EntryPoint

/-- The texts that are entry points: `int`, blanks, `main`, perhaps blanks, and a parenthesis. -/
def IsSpan (span : List Char) : Prop :=
  ∃ gap space, gap ≠ [] ∧ (∀ c ∈ gap, Text.isBlank c = true) ∧
    (∀ c ∈ space, Text.isBlank c = true) ∧
    span = "int".toList ++ (gap ++ ("main".toList ++ (space ++ ['('])))

/-- An entry point begins at a place of a source if such a text stands there, and no word character
before it. -/
def StandsAt (source : List Char) (place : Nat) : Prop :=
  ∃ left span right, source = left ++ (span ++ right) ∧ left.length = place ∧ IsSpan span ∧
    ∀ c, left.getLast? = some c → Text.isWordChar c = false

/-- The places at which the entry points among pieces begin, if the pieces begin at `place`. -/
def offsets : (place : Nat) → List Piece → List Nat
  | _, [] => []
  | place, .plain _ :: pieces => offsets (place + 1) pieces
  | place, .entry span :: pieces => place :: offsets (place + span.length) pieces

variable {before : Option Char} {c : Char} {cs gap rest span : List Char} {n : Nat}

/-! ### Spans -/

/-- The blanks at the front, and what follows them. -/
theorem exists_blanks (cs : List Char) : ∃ gap rest, cs = gap ++ rest ∧
    (∀ c ∈ gap, Text.isBlank c = true) ∧ blankCount cs = gap.length :=
  ⟨cs.takeWhile Text.isBlank, cs.dropWhile Text.isBlank, List.takeWhile_append_dropWhile.symm,
    fun _ hc => List.all_eq_true.mp List.all_takeWhile _ hc, rfl⟩

/-- Blanks are counted up to the first character that is none. -/
theorem blankCount_append (hgap : ∀ c ∈ gap, Text.isBlank c = true)
    (hc : Text.isBlank c = false) (rest : List Char) :
    blankCount (gap ++ c :: rest) = gap.length := by
  rw [blankCount, List.takeWhile_append_of_pos hgap]
  simp [hc]

theorem spanLength?_append (h : IsSpan span) (rest : List Char) :
    spanLength? (span ++ rest) = some span.length := by
  obtain ⟨gap, space, hne, hgap, hspace, rfl⟩ := h
  have hcount : blankCount (gap ++ ("main".toList ++ (space ++ '(' :: rest))) = gap.length :=
    blankCount_append hgap (by decide) _
  have hcount' : blankCount (space ++ '(' :: rest) = space.length :=
    blankCount_append hspace (by decide) _
  have hpos : gap.length ≠ 0 := by simpa using hne
  simp only [spanLength?, List.append_assoc, List.singleton_append, Text.stripStart?_append,
    Option.bind_eq_bind, Option.bind_some, hcount, hpos, if_false, List.drop_left, hcount',
    List.length_append, List.length_singleton]
  simp
  omega

/-- The length that is found is that of an entry point at the front. -/
theorem spanLength?_eq_some_iff :
    spanLength? cs = some n ↔ ∃ span rest, cs = span ++ rest ∧ IsSpan span ∧ span.length = n := by
  constructor
  · intro h
    unfold spanLength? at h
    simp only [Option.bind_eq_bind, Option.bind_eq_some_iff] at h
    obtain ⟨afterInt, hint, h⟩ := h
    split at h
    · cases h
    next hgap =>
    simp only [Option.bind_eq_some_iff] at h
    obtain ⟨afterMain, hmain, h⟩ := h
    split at h
    next _ rest hparenthesis =>
      obtain ⟨gap, afterGap, rfl, hgaps, hcount⟩ := exists_blanks afterInt
      obtain ⟨space, afterSpace, rfl, hspaces, hcount'⟩ := exists_blanks afterMain
      rw [hcount', List.drop_left] at hparenthesis
      rw [hcount, List.drop_left] at hmain
      obtain rfl := hparenthesis
      obtain rfl := Text.eq_append_of_stripStart? hmain
      obtain rfl := Text.eq_append_of_stripStart? hint
      rw [hcount] at hgap
      refine ⟨_, rest, ?_, ⟨gap, space, ?_, hgaps, hspaces, rfl⟩, ?_⟩
      · simp only [List.append_assoc, List.singleton_append]
      · rintro rfl
        exact hgap rfl
      · rw [hcount, hcount'] at h
        simp at h ⊢
        omega
    · cases h
  · rintro ⟨span, rest, rfl, hspan, rfl⟩
    exact spanLength?_append hspan rest

theorem IsSpan.length_pos (h : IsSpan span) : 0 < span.length := by
  obtain ⟨gap, space, -, -, -, rfl⟩ := h
  simp

theorem IsSpan.getLast? (h : IsSpan span) : span.getLast? = some '(' := by
  obtain ⟨gap, space, -, -, -, rfl⟩ := h
  simp only [← List.append_assoc, List.getLast?_concat]

/-! ### Texts without `int` -/

/-- At none of the first places of a text the letters `int` begin. -/
def HasNoInt (count : Nat) (cs : List Char) : Prop :=
  ∀ k < count, Text.stripStart? "int".toList (cs.drop k) = none

theorem spanLength?_of_stripStart? (h : Text.stripStart? "int".toList cs = none) :
    spanLength? cs = none := by
  rw [spanLength?, h]
  rfl

theorem hasNoInt_zero (cs : List Char) : HasNoInt 0 cs :=
  fun _ hk => absurd hk (Nat.not_lt_zero _)

theorem HasNoInt.cons {count : Nat} (h : HasNoInt count cs)
    (hc : Text.stripStart? "int".toList (c :: cs) = none) : HasNoInt (count + 1) (c :: cs) := by
  intro k hk
  cases k with
  | zero => exact hc
  | succ k => exact h k (Nat.lt_of_succ_lt_succ hk)

theorem stripStart?_of_ne (hc : c ≠ 'i') : Text.stripStart? "int".toList (c :: cs) = none := by
  have : ('i' == c) = false := by simpa using hc.symm
  simp [Text.stripStart?, this]

theorem ne_of_isBlank {d : Char} (hc : Text.isBlank c = true) (hd : Text.isBlank d = false) :
    c ≠ d := by
  rintro rfl
  rw [hc] at hd
  cases hd

theorem HasNoInt.blanks {count : Nat} (h : HasNoInt count cs)
    (hgap : ∀ c ∈ gap, Text.isBlank c = true) : HasNoInt (gap.length + count) (gap ++ cs) := by
  induction gap with
  | nil => simpa using h
  | cons c gap ih =>
    obtain ⟨hc, hgap⟩ := List.forall_mem_cons.mp hgap
    rw [List.length_cons, Nat.add_right_comm]
    exact (ih hgap).cons (stripStart?_of_ne (ne_of_isBlank hc (by decide)))

/-- No entry point begins inside another one. -/
theorem IsSpan.hasNoInt (h : IsSpan span) (rest : List Char) :
    HasNoInt (span.length - 1) ((span ++ rest).drop 1) := by
  obtain ⟨gap, space, -, hgap, hspace, rfl⟩ := h
  -- the `in` of `main` is followed by a blank or by the parenthesis
  have hmain : Text.stripStart? "int".toList ('i' :: 'n' :: (space ++ '(' :: rest)) = none := by
    cases space with
    | nil => rfl
    | cons c space =>
      have hc : ('t' == c) = false := by
        simpa using (ne_of_isBlank (hspace c List.mem_cons_self) (by decide : _ = false)).symm
      simp [Text.stripStart?, hc]
  have hend : HasNoInt (space.length + 1) (space ++ '(' :: rest) :=
    ((hasNoInt_zero rest).cons (stripStart?_of_ne (by decide))).blanks hspace
  have hword := (((hend.cons (stripStart?_of_ne (c := 'n') (by decide))).cons hmain).cons
    (stripStart?_of_ne (c := 'a') (by decide))).cons (stripStart?_of_ne (c := 'm') (by decide))
  have hafter := ((hword.blanks hgap).cons (stripStart?_of_ne (c := 't') (by decide))).cons
    (stripStart?_of_ne (c := 'n') (by decide))
  simpa [Nat.add_assoc, Nat.add_comm, Nat.add_left_comm] using hafter

/-! ### Places -/

/-- An entry point begins where the scan finds one. -/
theorem standsAt_length_iff (left cs : List Char) :
    StandsAt (left ++ cs) left.length ↔ ∃ n, entryLength? left.getLast? cs = some n := by
  constructor
  · rintro ⟨left', span, right, heq, hlength, hspan, hleft⟩
    obtain ⟨rfl, rfl⟩ := List.append_inj heq hlength.symm
    have hmay : mayBegin left.getLast? = true := by
      cases hlast : left.getLast? with
      | none => rfl
      | some c => simp [mayBegin, hleft c hlast]
    exact ⟨span.length, by rw [entryLength?, if_pos hmay, spanLength?_append hspan]⟩
  · rintro ⟨n, hn⟩
    unfold entryLength? at hn
    split at hn
    next hmay =>
      obtain ⟨span, right, rfl, hspan, -⟩ := spanLength?_eq_some_iff.mp hn
      refine ⟨left, span, right, rfl, rfl, hspan, fun c hc => ?_⟩
      rw [hc] at hmay
      simpa [mayBegin] using hmay
    · cases hn

/-- No entry point begins inside another one, and the next one begins behind it or further on. -/
theorem not_standsAt_inside {left : List Char} (h : IsSpan span) {place : Nat}
    (hafter : left.length < place) (hbefore : place < left.length + span.length) :
    ¬ StandsAt (left ++ (span ++ rest)) place := by
  rintro ⟨left', span', right, heq, rfl, ⟨gap, space, -, -, -, rfl⟩, -⟩
  obtain ⟨k, hk⟩ := Nat.exists_eq_add_of_le hafter
  have hnone := h.hasNoInt rest k (by omega)
  have hdrop := congrArg (List.drop left'.length) heq
  rw [List.drop_left, hk, Nat.succ_add_eq_add_succ, List.drop_length_add_append,
    Nat.succ_eq_add_one, Nat.add_comm, ← List.drop_drop] at hdrop
  rw [hdrop, List.append_assoc, Text.stripStart?_append] at hnone
  cases hnone

theorem StandsAt.lt_length {source : List Char} {place : Nat} (h : StandsAt source place) :
    place < source.length := by
  obtain ⟨left, span, right, rfl, rfl, hspan, -⟩ := h
  have := hspan.length_pos
  simp only [List.length_append]
  omega

/-- The pieces show all entry points from any place on. -/
theorem mem_offsets_piecesAfter (left cs : List Char) (place : Nat) :
    place ∈ offsets left.length (piecesAfter left.getLast? cs) ↔
      left.length ≤ place ∧ StandsAt (left ++ cs) place := by
  generalize hbefore : left.getLast? = before
  fun_induction piecesAfter before cs generalizing left with
  | case1 before =>
    rw [List.append_nil]
    refine ⟨fun hmem => (List.not_mem_nil hmem).elim, fun hplace => ?_⟩
    exact absurd hplace.2.lt_length (Nat.not_lt.mpr hplace.1)
  | case2 before c rest n hn ih =>
    subst hbefore
    have hstands := (standsAt_length_iff left (c :: rest)).mpr ⟨n, hn⟩
    unfold entryLength? at hn
    split at hn
    · obtain ⟨span, right, heq, hspan, rfl⟩ := spanLength?_eq_some_iff.mp hn
      obtain ⟨d, span, rfl⟩ := List.exists_cons_of_length_pos hspan.length_pos
      rw [List.cons_append] at heq
      obtain ⟨rfl, rfl⟩ := List.cons.inj heq
      have hih := ih (left ++ c :: span) (by rw [List.getLast?_append, hspan.getLast?]; rfl)
      simp only [List.length_cons, Nat.add_sub_cancel, List.take_left, List.drop_left, offsets,
        List.mem_cons] at hih ⊢
      rw [List.length_append, List.length_cons, List.append_assoc, List.cons_append] at hih
      rw [hih]
      constructor
      · rintro (rfl | ⟨hle, hplace⟩)
        · exact ⟨Nat.le_refl _, hstands⟩
        · exact ⟨by omega, hplace⟩
      · rintro ⟨hle, hplace⟩
        rcases Nat.eq_or_lt_of_le hle with rfl | hlt
        · exact .inl rfl
        · refine .inr ⟨Nat.not_lt.mp fun hinside => ?_, hplace⟩
          exact not_standsAt_inside hspan hlt hinside hplace
    · cases hn
  | case3 before c rest hnone ih =>
    subst hbefore
    have hstands : ¬ StandsAt (left ++ c :: rest) left.length := by
      rw [standsAt_length_iff, hnone]
      simp
    have hih := ih (left ++ [c]) List.getLast?_concat
    rw [List.length_append, List.length_singleton, List.append_assoc, List.singleton_append] at hih
    rw [offsets, hih]
    constructor
    · rintro ⟨hle, hplace⟩
      exact ⟨by omega, hplace⟩
    · rintro ⟨hle, hplace⟩
      rcases Nat.eq_or_lt_of_le hle with rfl | hlt
      · exact absurd hplace hstands
      · exact ⟨hlt, hplace⟩

/-- The pieces of a source show all its entry points. -/
theorem mem_offsets_iff (source : List Char) (place : Nat) :
    place ∈ offsets 0 (pieces source) ↔ StandsAt source place := by
  have h := mem_offsets_piecesAfter [] source place
  rw [List.nil_append, List.length_nil, and_iff_right (Nat.zero_le _)] at h
  exact h

end Sandbox.EntryPoint
