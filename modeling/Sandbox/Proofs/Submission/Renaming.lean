import Sandbox.Proofs.Submission.Composition

/-!
# Renaming entry points

Cutting a source into pieces finds every entry point, each with its whole text, and no two of them
overlap. Renaming puts the new name exactly where they stand: a character outside of them stays as
it is and where it is between them. The renamed source has no entry point, so that renaming it again
changes nothing.

What renaming does is stated place by place, without the pieces: `shownAt` is what comes of the
character at a place.

## Main definitions

* `SpanAt` : a text is an entry point that begins at a place.
* `found` : the entry points among pieces, with their places.
* `Covered`, `shownAt` : the places inside entry points, and what comes of the character at a place.

## Main results

* `mem_found_iff` : the entry points that are found are all there are.
* `flatMap_shownAt` : the renamed pieces, place by place.
* `not_standsAt_neutralize` : no entry point is left.
* `neutralize_renames` : what renaming does to a source.
-/

namespace Sandbox.EntryPoint

/-- The text `span` is an entry point that begins at a place of a source, where a word may begin. -/
def SpanAt (source : List Char) (place : Nat) (span : List Char) : Prop :=
  ∃ left right, source = left ++ (span ++ right) ∧ left.length = place ∧ IsSpan span ∧
    ∀ c, left.getLast? = some c → Text.isWordChar c = false

/-- The entry points among pieces, each after the place at which it begins, if the pieces begin at
`place`. -/
def found : (place : Nat) → List Piece → List (Nat × List Char)
  | _, [] => []
  | place, .plain _ :: pieces => found (place + 1) pieces
  | place, .entry span :: pieces => (place, span) :: found (place + span.length) pieces

/-- The place `i` belongs to an entry point. -/
def Covered (source : List Char) (i : Nat) : Prop :=
  ∃ place span, SpanAt source place span ∧ place ≤ i ∧ i < place + span.length

variable {left span span' cs source : List Char} {place : Nat}

/-! ### The entry point at a place -/

theorem standsAt_iff : StandsAt source place ↔ ∃ span, SpanAt source place span :=
  ⟨fun ⟨left, span, h⟩ => ⟨span, left, h⟩, fun ⟨span, left, h⟩ => ⟨left, span, h⟩⟩

/-- At most one entry point begins at a place. -/
theorem SpanAt.unique (h : SpanAt source place span) (h' : SpanAt source place span') :
    span = span' := by
  obtain ⟨left, right, rfl, hplace, hspan, -⟩ := h
  obtain ⟨left', right', heq, hplace', hspan', -⟩ := h'
  obtain ⟨-, hrest⟩ := List.append_inj heq (hplace.trans hplace'.symm)
  have hlength : some span.length = some span'.length := by
    rw [← spanLength?_append hspan right, hrest, spanLength?_append hspan']
  exact (List.append_inj hrest (Option.some.inj hlength)).1

theorem SpanAt.length_pos (h : SpanAt source place span) : 0 < span.length := by
  obtain ⟨left, right, -, -, hspan, -⟩ := h
  exact hspan.length_pos

/-- No entry point begins inside another one. -/
theorem SpanAt.not_standsAt {i : Nat} (h : SpanAt source place span) (hafter : place < i)
    (hbefore : i < place + span.length) : ¬ StandsAt source i := by
  obtain ⟨left, right, rfl, rfl, hspan, -⟩ := h
  exact not_standsAt_inside hspan hafter hbefore

/-- What stands in a source stands in any longer one. -/
theorem StandsAt.append (h : StandsAt source place) (rest : List Char) :
    StandsAt (source ++ rest) place := by
  obtain ⟨left, span, right, rfl, hplace, hspan, hleft⟩ := h
  exact ⟨left, span, right ++ rest, by simp only [List.append_assoc], hplace, hspan, hleft⟩

/-- An entry point that the scan finds stands there, from its first letter to its last. -/
theorem exists_of_entryLength? {c : Char} {rest : List Char} {n : Nat}
    (h : entryLength? left.getLast? (c :: rest) = some n) :
    ∃ span right, rest = span ++ right ∧ n - 1 = span.length ∧ IsSpan (c :: span) ∧
      SpanAt (left ++ c :: rest) left.length (c :: span) := by
  unfold entryLength? at h
  split at h
  next hmay =>
    obtain ⟨span, right, heq, hspan, rfl⟩ := spanLength?_eq_some_iff.mp h
    obtain ⟨d, span, rfl⟩ := List.exists_cons_of_length_pos hspan.length_pos
    obtain ⟨rfl, rfl⟩ := List.cons.inj heq
    refine ⟨span, right, rfl, rfl, hspan, left, right, rfl, rfl, hspan, fun d hd => ?_⟩
    rw [hd] at hmay
    simpa [mayBegin] using hmay
  · cases h

/-! ### The entry points that are found -/

theorem map_fst_found (place : Nat) (pieces : List Piece) :
    (found place pieces).map Prod.fst = offsets place pieces := by
  induction pieces generalizing place with
  | nil => rfl
  | cons piece pieces ih =>
    cases piece with
    | plain c => exact ih (place + 1)
    | entry span => exact congrArg (place :: ·) (ih (place + span.length))

theorem length_found (place : Nat) (pieces : List Piece) :
    (found place pieces).length = pieces.countP Piece.isEntry := by
  induction pieces generalizing place with
  | nil => rfl
  | cons piece pieces ih =>
    cases piece with
    | plain c => exact (ih (place + 1)).trans (List.countP_cons_of_neg Bool.false_ne_true).symm
    | entry span => rw [found, List.length_cons, ih, List.countP_cons_of_pos rfl]

theorem le_of_mem_found {pieces : List Piece} {e : Nat × List Char}
    (h : e ∈ found place pieces) : place ≤ e.1 := by
  induction pieces generalizing place with
  | nil => cases h
  | cons piece pieces ih =>
    cases piece with
    | plain c => exact Nat.le_trans (Nat.le_succ place) (ih h)
    | entry span =>
      rcases List.mem_cons.mp h with rfl | hrest
      · exact Nat.le_refl _
      · exact Nat.le_trans (Nat.le_add_right place span.length) (ih hrest)

/-- An entry point that is found ends before the next one begins. -/
theorem pairwise_found (place : Nat) (pieces : List Piece) :
    (found place pieces).Pairwise fun a b => a.1 + a.2.length ≤ b.1 := by
  induction pieces generalizing place with
  | nil => exact List.Pairwise.nil
  | cons piece pieces ih =>
    cases piece with
    | plain c => exact ih (place + 1)
    | entry span => exact List.Pairwise.cons (fun b hb => le_of_mem_found hb) (ih _)

/-- What is found from a place on stands there. -/
theorem spanAt_of_mem_found
    (h : (place, span) ∈ found left.length (piecesAfter left.getLast? cs)) :
    SpanAt (left ++ cs) place span := by
  generalize hbefore : left.getLast? = before at h
  fun_induction piecesAfter before cs generalizing left with
  | case1 before => cases h
  | case2 before c rest n hn ih =>
    subst hbefore
    obtain ⟨inner, right, rfl, hlength, hspan, hat⟩ := exists_of_entryLength? hn
    rw [hlength, List.take_left, List.drop_left] at h
    rcases List.mem_cons.mp h with heq | hrest
    · obtain ⟨rfl, rfl⟩ := Prod.mk.inj heq
      exact hat
    · have hih := @ih (left ++ c :: inner) (by rw [List.getLast?_append, hspan.getLast?]; rfl)
      rw [hlength, List.drop_left, List.length_append, List.append_assoc, List.cons_append] at hih
      exact hih hrest
  | case3 before c rest hnone ih =>
    subst hbefore
    have hih := @ih (left ++ [c]) List.getLast?_concat
    rw [List.length_append, List.length_singleton, List.append_assoc, List.singleton_append] at hih
    exact hih h

/-- The entry points that are found are all there are, each with its whole text. -/
theorem mem_found_iff (source : List Char) (place : Nat) (span : List Char) :
    (place, span) ∈ found 0 (pieces source) ↔ SpanAt source place span := by
  have hfinds {span : List Char} (h : (place, span) ∈ found 0 (pieces source)) :
      SpanAt source place span := @spanAt_of_mem_found [] _ _ _ h
  refine ⟨hfinds, fun h => ?_⟩
  have hplace := (mem_offsets_iff source place).mpr (standsAt_iff.mpr ⟨span, h⟩)
  rw [← map_fst_found] at hplace
  obtain ⟨⟨_, span'⟩, hfound, rfl⟩ := List.mem_map.mp hplace
  rwa [h.unique (hfinds hfound)]

/-! ### Renaming, place by place -/

instance (source : List Char) (place : Nat) : Decidable (StandsAt source place) :=
  decidable_of_iff (place ∈ offsets 0 (pieces source)) (mem_offsets_iff source place)

instance (source : List Char) (i : Nat) : Decidable (Covered source i) :=
  decidable_of_iff (∃ e ∈ found 0 (pieces source), e.1 ≤ i ∧ i < e.1 + e.2.length) <| by
    simp only [Covered, ← mem_found_iff, Prod.exists]

/-- What comes of the character at a place: the new text where an entry point begins, nothing for
the other characters of an entry point, and the character itself for all others. -/
def shownAt (source : List Char) (i : Nat) : List Char :=
  if StandsAt source i then replacement
  else if Covered source i then []
  else source[i]?.toList

theorem shownAt_of_spanAt (h : SpanAt source place span) : shownAt source place = replacement :=
  if_pos (standsAt_iff.mpr ⟨span, h⟩)

/-- The other characters of an entry point give way to the new text. -/
theorem shownAt_inside {i : Nat} (h : SpanAt source place span) (hafter : place < i)
    (hbefore : i < place + span.length) : shownAt source i = [] := by
  have hcovered : Covered source i := ⟨place, span, h, Nat.le_of_lt hafter, hbefore⟩
  rw [shownAt, if_neg (h.not_standsAt hafter hbefore), if_pos hcovered]

/-- No entry point that begins before the end of `left` reaches beyond it. -/
def Closes (source left : List Char) : Prop :=
  ∀ place span, SpanAt source place span → place < left.length →
    place + span.length ≤ left.length

/-- At an entry point, nothing reaches beyond its own end. -/
theorem Closes.append_span {rest : List Char} (hclosed : Closes (left ++ rest) left)
    (h : SpanAt (left ++ rest) left.length span) : Closes (left ++ rest) (left ++ span) := by
  intro place span' h' hlt
  rw [List.length_append] at hlt ⊢
  rcases Nat.lt_trichotomy place left.length with hbefore | rfl | hafter
  · exact Nat.le_trans (hclosed place span' h' hbefore) (Nat.le_add_right _ _)
  · exact Nat.le_of_eq (congrArg (left.length + List.length ·) (h'.unique h))
  · exact absurd (standsAt_iff.mpr ⟨span', h'⟩) (h.not_standsAt hafter hlt)

theorem Closes.append_character {c : Char} {rest : List Char}
    (hclosed : Closes (left ++ c :: rest) left)
    (h : ¬ StandsAt (left ++ c :: rest) left.length) :
    Closes (left ++ c :: rest) (left ++ [c]) := by
  intro place span hspan hlt
  rw [List.length_append, List.length_singleton] at hlt ⊢
  rcases Nat.lt_or_eq_of_le (Nat.le_of_lt_succ hlt) with hbefore | rfl
  · exact Nat.le_succ_of_le (hclosed place span hspan hbefore)
  · exact absurd (standsAt_iff.mpr ⟨span, hspan⟩) h

/-- A character at which no entry point begins stays, if none reaches it. -/
theorem shownAt_outside {c : Char} {rest : List Char} (hclosed : Closes (left ++ c :: rest) left)
    (h : ¬ StandsAt (left ++ c :: rest) left.length) :
    shownAt (left ++ c :: rest) left.length = [c] := by
  have hcovered : ¬ Covered (left ++ c :: rest) left.length := by
    rintro ⟨place, span, hspan, hle, hlt⟩
    rcases Nat.lt_or_eq_of_le hle with hbefore | rfl
    · exact Nat.not_le_of_lt hlt (hclosed place span hspan hbefore)
    · exact h (standsAt_iff.mpr ⟨span, hspan⟩)
  rw [shownAt, if_neg h, if_neg hcovered, List.getElem?_append_right (Nat.le_refl _), Nat.sub_self]
  rfl

/-- The characters of an entry point give the new text once. -/
theorem flatMap_shownAt_span (h : SpanAt source place span) :
    (List.range' place span.length).flatMap (shownAt source) = replacement := by
  obtain ⟨n, hn⟩ : ∃ n, span.length = n + 1 :=
    Nat.exists_eq_succ_of_ne_zero (Nat.ne_of_gt h.length_pos)
  have hinner : (List.range' (place + 1) n).flatMap (shownAt source) = [] := by
    refine List.flatMap_eq_nil_iff.mpr fun i hi => ?_
    obtain ⟨hlow, hhigh⟩ := List.mem_range'_1.mp hi
    exact shownAt_inside h hlow (by omega)
  rw [hn, List.range'_succ, List.flatMap_cons, shownAt_of_spanAt h, hinner, List.append_nil]

/-- The renamed pieces are what comes of the characters, place by place. -/
theorem flatMap_shownAt (hclosed : Closes (left ++ cs) left) :
    (piecesAfter left.getLast? cs).flatMap Piece.neutralized =
      (List.range' left.length cs.length).flatMap (shownAt (left ++ cs)) := by
  generalize hbefore : left.getLast? = before
  fun_induction piecesAfter before cs generalizing left with
  | case1 before => rfl
  | case2 before c rest n hn ih =>
    subst hbefore
    obtain ⟨inner, right, rfl, hlength, hspan, hat⟩ := exists_of_entryLength? hn
    have hih := @ih (left ++ c :: inner)
    rw [hlength, List.drop_left, List.append_assoc, List.cons_append] at hih
    rw [List.flatMap_cons, Piece.neutralized, hlength, List.drop_left,
      hih (hclosed.append_span hat) (by rw [List.getLast?_append, hspan.getLast?]; rfl),
      ← List.cons_append, List.length_append, List.length_append, ← List.range'_append_1,
      List.flatMap_append, List.cons_append, flatMap_shownAt_span hat]
  | case3 before c rest hnone ih =>
    subst hbefore
    have hstands : ¬ StandsAt (left ++ c :: rest) left.length := by
      rw [standsAt_length_iff, hnone]
      simp
    have hih := @ih (left ++ [c])
    rw [List.length_append, List.length_singleton, List.append_assoc, List.singleton_append] at hih
    rw [List.flatMap_cons, Piece.neutralized,
      hih (hclosed.append_character hstands) List.getLast?_concat, List.length_cons,
      List.range'_succ, List.flatMap_cons, shownAt_outside hclosed hstands]

/-! ### What is left -/

/-- Pieces without an entry point are the characters of the source. -/
theorem eq_map_plain {pieces : List Piece} (h : pieces.countP Piece.isEntry = 0) :
    pieces = (pieces.flatMap Piece.text).map .plain := by
  induction pieces with
  | nil => rfl
  | cons piece pieces ih =>
    cases piece with
    | plain c =>
      rw [List.countP_cons_of_neg Bool.false_ne_true] at h
      rw [List.flatMap_cons, Piece.text, List.singleton_append, List.map_cons, ← ih h]
    | entry span =>
      rw [List.countP_cons_of_pos rfl] at h
      cases h

theorem pieces_of_forall_not_standsAt (h : ∀ place, ¬ StandsAt source place) :
    pieces source = source.map .plain := by
  have hnone : found 0 (pieces source) = [] := by
    refine List.eq_nil_iff_forall_not_mem.mpr fun ⟨place, span⟩ hmem => ?_
    exact h place (standsAt_iff.mpr ⟨span, (mem_found_iff source place span).mp hmem⟩)
  have hcount : (pieces source).countP Piece.isEntry = 0 := by
    rw [← length_found 0, hnone, List.length_nil]
  rw [eq_map_plain hcount, pieces, flatMap_text_piecesAfter]

/-- Neither the new text nor what stands around it makes an entry point. A line behind the renamed
source shows it, since no entry point runs into the slash with which it begins. -/
theorem not_standsAt_neutralize (code : String) (place : Nat) :
    ¬ StandsAt (neutralize code).toList place := by
  intro h
  rw [neutralize, String.toList_ofList] at h
  have hslash : entryLength? (some '\n') ['/'] = none :=
    entryLength?_of_spanLength? (spanLength?_of_stripStart? (stripStart?_of_ne (by decide)))
  have hpieces := piecesAfter_neutralized none code.toList []
  rw [piecesAfter_cons_of_eq_none hslash, piecesAfter] at hpieces
  have hplace := (mem_offsets_iff _ place).mpr (h.append ['\n', '/'])
  rw [pieces, pieces, hpieces, offsets_plain] at hplace
  cases hplace

/-! ### Renaming -/

/-- Of any source, the entry points that are found are all there are, each with its whole text, and
none overlaps the next. They are counted, and they are what is renamed: a new text stands for each
of them, and all other characters stay as they are between them. No entry point is left, so that
renaming again changes nothing. -/
theorem neutralize_renames (code : String) :
    let source := code.toList
    let spans := found 0 (pieces source)
    (∀ place span, (place, span) ∈ spans ↔ SpanAt source place span) ∧
    spans.Pairwise (fun a b => a.1 + a.2.length ≤ b.1) ∧
    count code = spans.length ∧
    (neutralize code).toList = (List.range source.length).flatMap (shownAt source) ∧
    String.ofList replacement = "int __user_main_disabled(" ∧
    (∀ place, ¬ StandsAt (neutralize code).toList place) ∧
    count (neutralize code) = 0 ∧
    neutralize (neutralize code) = neutralize code := by
  intro source spans
  have hleft : ∀ place, ¬ StandsAt (neutralize code).toList place := not_standsAt_neutralize code
  have hpieces : pieces (neutralize code).toList = (neutralize code).toList.map .plain :=
    pieces_of_forall_not_standsAt hleft
  have hshown : (neutralize code).toList = (List.range source.length).flatMap (shownAt source) := by
    have hclosed : Closes ([] ++ source) [] := fun place _ _ hlt => absurd hlt (Nat.not_lt_zero _)
    rw [neutralize, String.toList_ofList, List.range_eq_range']
    exact flatMap_shownAt hclosed
  refine ⟨mem_found_iff source, pairwise_found 0 (pieces source), (length_found 0 _).symm, hshown,
    rfl, hleft, ?_, ?_⟩
  · rw [count, hpieces, countP_plain]
  · rw [neutralize, hpieces, neutralized_plain, String.ofList_toList]

/-- An entry point may stand directly behind another one, but not inside a word. -/
example : neutralize "int main(int  main ( éint main(" =
    "int __user_main_disabled(int __user_main_disabled( éint main(" := by decide +kernel

end Sandbox.EntryPoint
