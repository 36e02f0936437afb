import Sandbox.Proofs.Submission.Matching
import Sandbox.Submission.Basic

/-!
# Entry points of composed programs

The translation unit of a submission with a validation script has the entry points of the script and
no others: those of the learner are renamed, the new name makes no entry point with what stands
around it, and the end of the learner's code makes none with the separator.

## Main definitions

* `Halts` : a text that no entry point can run into.

## Main results

* `spanLength?_of_halts` : an entry point before such a text does not depend on it.
* `piecesAfter_neutralized` : the pieces of renamed code before a new line.
* `pieces_translationUnit` : the pieces of a translation unit.
* `Submission.entryPoints_translationUnit` : the entry points of a translation unit.
-/

namespace Sandbox

namespace EntryPoint

variable {before : Option Char} {c : Char} {cs front back rest : List Char} {n : Nat}

/-! ### Pieces without entry points -/

theorem piecesAfter_cons_of_eq_none (h : entryLength? before (c :: rest) = none) :
    piecesAfter before (c :: rest) = .plain c :: piecesAfter (some c) rest := by
  rw [piecesAfter, h]

theorem entryLength?_of_spanLength? (h : spanLength? cs = none) :
    entryLength? before cs = none := by
  rw [entryLength?, h, ite_self]

/-- A new line counts as the beginning of a text. -/
theorem piecesAfter_newline (cs : List Char) :
    piecesAfter (some '\n') cs = piecesAfter none cs := by
  have hmay : mayBegin (some '\n') = mayBegin none := by decide
  cases cs with
  | nil => simp only [piecesAfter]
  | cons c rest => simp only [piecesAfter, entryLength?, hmay]

/-- A text without the letters `int` has characters only. -/
theorem piecesAfter_of_hasNoInt (h : HasNoInt front.length (front ++ back)) :
    piecesAfter before (front ++ back) =
      front.map .plain ++ piecesAfter (front.getLast?.or before) back := by
  induction front generalizing before with
  | nil => rfl
  | cons c front ih =>
    have hc : entryLength? before (c :: (front ++ back)) = none :=
      entryLength?_of_spanLength? (spanLength?_of_stripStart? (h 0 (Nat.succ_pos _)))
    have hfront : HasNoInt front.length (front ++ back) := fun k hk =>
      h (k + 1) (Nat.succ_lt_succ hk)
    rw [List.cons_append, piecesAfter_cons_of_eq_none hc, ih hfront]
    cases front <;> simp [List.getLast?_cons]

/-- A text that neither has the letters `int` nor ends with some of them, whatever follows it. -/
theorem hasNoInt_append (back : List Char)
    (h : ∀ k < front.length, "int".toList.take (front.length - k) ≠ (front.drop k).take 3) :
    HasNoInt front.length (front ++ back) := by
  intro k hk
  cases hstrip : Text.stripStart? "int".toList ((front ++ back).drop k) with
  | none => rfl
  | some rest =>
    have heq := Text.eq_append_of_stripStart? hstrip
    rw [List.drop_append_of_le_length (Nat.le_of_lt hk)] at heq
    refine absurd ?_ (h k hk)
    calc "int".toList.take (front.length - k)
        = (("int".toList ++ rest).take 3).take (front.length - k) := by
          rw [List.take_left' (by decide)]
      _ = ((front.drop k ++ back).take (front.length - k)).take 3 := by
          rw [heq, List.take_take, List.take_take, Nat.min_comm]
      _ = (front.drop k).take 3 := by rw [List.take_left' List.length_drop]

/-! ### Renamed code -/

/-- What follows a renamed part of a text: another renamed part, or the end of the code, after which
there is a line that begins with a slash. No entry point runs into either. -/
def Halts (cs : List Char) : Prop :=
  (∃ rest, cs = "int".toList ++ rest) ∨ ∃ rest, cs = '\n' :: '/' :: rest

theorem not_mem_span {span : List Char} (h : IsSpan span) : '/' ∉ span := by
  obtain ⟨gap, space, -, hgap, hspace, rfl⟩ := h
  have hblank : ∀ {blanks : List Char}, (∀ c ∈ blanks, Text.isBlank c = true) → '/' ∉ blanks :=
    fun hblanks hmem => ne_of_isBlank (hblanks _ hmem) (by decide : Text.isBlank '/' = false) rfl
  simp [hblank hgap, hblank hspace]

/-- An entry point that begins before a text that halts it ends before that text. -/
theorem length_le_of_halts {span : List Char} (hspan : IsSpan span) (hback : Halts back)
    (hfront : front ≠ []) (heq : front ++ back = span ++ rest) : span.length ≤ front.length := by
  refine Nat.not_lt.mp fun hlt => ?_
  have hpos := List.length_pos_iff.mpr hfront
  obtain ⟨after, rfl⟩ | ⟨after, rfl⟩ := hback
  · have hnone := hspan.hasNoInt rest (front.length - 1) (by omega)
    rw [List.drop_drop, Nat.add_sub_cancel' hpos, ← heq, List.drop_left,
      Text.stripStart?_append] at hnone
    cases hnone
  · obtain ⟨inner, rfl, hinner⟩ | ⟨inner, rfl, hinner⟩ := List.append_eq_append_iff.mp heq
    · -- the span goes on with the new line, and has to end with it or to go on with the slash
      cases inner with
      | nil => simp at hlt
      | cons newline inner =>
        obtain ⟨rfl, hslash⟩ := List.cons.inj hinner
        cases inner with
        | nil =>
          have hlast := hspan.getLast?
          rw [List.getLast?_concat] at hlast
          cases hlast
        | cons slash inner =>
          obtain ⟨rfl, -⟩ := List.cons.inj hslash
          exact not_mem_span hspan (by simp)
    · simp only [List.length_append] at hlt
      omega

/-- An entry point that begins before a text that halts it is there whatever follows. -/
theorem spanLength?_of_halts (hfront : front ≠ []) (hback : Halts back)
    (h : spanLength? (front ++ back) = some n) (rest : List Char) :
    spanLength? (front ++ rest) = some n := by
  obtain ⟨span, after, heq, hspan, rfl⟩ := spanLength?_eq_some_iff.mp h
  have hle := length_le_of_halts hspan hback hfront heq
  obtain ⟨inner, hinner⟩ : ∃ inner, front = span ++ inner := by
    refine ⟨front.drop span.length, ?_⟩
    have htake := congrArg (List.take span.length) heq
    rw [List.take_left, List.take_append_of_le_length hle] at htake
    conv => lhs; rw [← List.take_append_drop span.length front, htake]
  rw [hinner, List.append_assoc, spanLength?_append hspan]

/-- Pieces begin with characters that are the same when they are renamed, up to the first entry
point or to the end. -/
theorem exists_plain_front (pieces : List Piece) {tail : List Char} (htail : Halts tail) :
    ∃ front back rest, pieces.flatMap Piece.neutralized ++ tail = front ++ back ∧
      pieces.flatMap Piece.text = front ++ rest ∧ Halts back := by
  induction pieces with
  | nil => exact ⟨[], tail, [], rfl, rfl, htail⟩
  | cons piece pieces ih =>
    cases piece with
    | plain c =>
      obtain ⟨front, back, rest, hneutral, htext, hback⟩ := ih
      refine ⟨c :: front, back, rest, ?_, ?_, hback⟩
      · simp [Piece.neutralized, hneutral]
      · simp [Piece.text, htext]
    | entry span =>
      have hint : replacement = "int".toList ++ replacement.drop 3 := by decide
      refine ⟨[], _, _, rfl, rfl, .inl
        ⟨replacement.drop 3 ++ (pieces.flatMap Piece.neutralized ++ tail), ?_⟩⟩
      calc (Piece.entry span :: pieces).flatMap Piece.neutralized ++ tail
          = replacement ++ (pieces.flatMap Piece.neutralized ++ tail) := by
            rw [List.flatMap_cons, List.append_assoc, Piece.neutralized]
        _ = _ := (congrArg (· ++ _) hint).trans (List.append_assoc _ _ _)

/-- What an entry point is renamed to holds no entry point, whatever follows. -/
theorem piecesAfter_replacement (back : List Char) :
    piecesAfter before (replacement ++ back) =
      replacement.map .plain ++ piecesAfter (some '(') back := by
  have hspan : spanLength? (replacement ++ back) = none := by
    have hname : replacement = "int".toList ++ (' ' :: '_' :: replacement.drop 5) := by decide
    rw [hname, List.append_assoc, spanLength?, Text.stripStart?_append]
    rfl
  have hrest : HasNoInt replacement.tail.length (replacement.tail ++ back) :=
    hasNoInt_append back (by decide)
  have hlast : replacement.tail.getLast? = some '(' := by decide
  calc piecesAfter before (replacement ++ back)
      = .plain 'i' :: piecesAfter (some 'i') (replacement.tail ++ back) :=
        piecesAfter_cons_of_eq_none (entryLength?_of_spanLength? hspan)
    _ = .plain 'i' :: (replacement.tail.map .plain ++ piecesAfter (some '(') back) := by
        rw [piecesAfter_of_hasNoInt hrest, hlast, Option.some_or]
    _ = replacement.map .plain ++ piecesAfter (some '(') back := rfl

/-- Renaming leaves no entry point and makes none, neither inside the code nor with a line behind it
that begins with a slash. -/
theorem piecesAfter_neutralized (before : Option Char) (code rest : List Char) :
    let neutral := (piecesAfter before code).flatMap Piece.neutralized
    piecesAfter before (neutral ++ '\n' :: '/' :: rest) =
      neutral.map .plain ++ .plain '\n' :: piecesAfter (some '\n') ('/' :: rest) := by
  intro neutral
  have htail : Halts ('\n' :: '/' :: rest) := .inr ⟨rest, rfl⟩
  subst neutral
  fun_induction piecesAfter before code with
  | case1 before =>
    exact piecesAfter_cons_of_eq_none (entryLength?_of_spanLength?
      (spanLength?_of_stripStart? (stripStart?_of_ne (by decide))))
  | case2 before c code n hn ih =>
    rw [List.flatMap_cons, Piece.neutralized, List.append_assoc, piecesAfter_replacement, ih]
    simp
  | case3 before c code hnone ih =>
    rw [List.flatMap_cons, Piece.neutralized, List.singleton_append, List.cons_append,
      piecesAfter_cons_of_eq_none, ih]
    · simp
    · unfold entryLength? at hnone ⊢
      split
      next hmay =>
        rw [if_pos hmay] at hnone
        obtain ⟨front, back, after, hneutral, htext, hback⟩ :=
          exists_plain_front (piecesAfter (some c) code) htail
        rw [flatMap_text_piecesAfter] at htext
        rw [hneutral, ← List.cons_append]
        refine Option.eq_none_iff_forall_ne_some.mpr fun n hn => ?_
        have := spanLength?_of_halts (List.cons_ne_nil c front) hback hn after
        rw [List.cons_append, ← htext, hnone] at this
        cases this
      · rfl

/-! ### Characters before other pieces -/

theorem neutralized_plain (cs : List Char) :
    (cs.map Piece.plain).flatMap Piece.neutralized = cs := by
  induction cs with
  | nil => rfl
  | cons c cs ih =>
    rw [List.map_cons, List.flatMap_cons, ih, Piece.neutralized, List.singleton_append]

theorem countP_plain (cs : List Char) : (cs.map Piece.plain).countP Piece.isEntry = 0 := by
  rw [List.countP_eq_zero]
  rintro piece hpiece
  obtain ⟨c, -, rfl⟩ := List.mem_map.mp hpiece
  simp [Piece.isEntry]

theorem offsets_plain (place : Nat) (cs : List Char) (pieces : List Piece) :
    offsets place (cs.map .plain ++ pieces) = offsets (place + cs.length) pieces := by
  induction cs generalizing place with
  | nil => rfl
  | cons c cs ih =>
    rw [List.map_cons, List.cons_append, offsets, ih, List.length_cons, Nat.add_right_comm,
      Nat.add_assoc]

theorem offsets_add (place shift : Nat) (pieces : List Piece) :
    offsets (shift + place) pieces = (offsets place pieces).map (shift + ·) := by
  induction pieces generalizing place with
  | nil => rfl
  | cons piece pieces ih =>
    cases piece with
    | plain c => rw [offsets, Nat.add_assoc, ih, offsets]
    | entry span => rw [offsets, Nat.add_assoc, ih, offsets, List.map_cons]

end EntryPoint

namespace Submission

open EntryPoint

/-- The renamed code and the separator hold no entry point, and the script has those of its own. -/
theorem pieces_translationUnit (code validation : String) :
    pieces (translationUnit ⟨code, some validation⟩).toList =
      (neutralize code ++ "\n" ++ separator ++ "\n").toList.map .plain ++
        pieces validation.toList := by
  let line := (separator ++ "\n").toList
  have hline : line = '/' :: line.tail := by decide
  have hfront : (neutralize code ++ "\n" ++ separator ++ "\n").toList =
      (neutralize code).toList ++ '\n' :: line := by
    simp only [String.toList_append, List.append_assoc, line]
    rfl
  have hunit : (translationUnit ⟨code, some validation⟩).toList =
      (neutralize code).toList ++ '\n' :: (line ++ validation.toList) := by
    rw [translationUnit, String.toList_append, hfront, List.append_assoc, List.cons_append]
  have hseparator : piecesAfter (some '\n') (line ++ validation.toList) =
      line.map .plain ++ pieces validation.toList := by
    have hnone : HasNoInt line.length (line ++ validation.toList) := hasNoInt_append _ (by decide)
    have hlast : line.getLast? = some '\n' := by decide
    rw [piecesAfter_of_hasNoInt hnone, hlast, Option.some_or, piecesAfter_newline, pieces]
  have hneutral := piecesAfter_neutralized none code.toList (line.tail ++ validation.toList)
  rw [← List.cons_append, ← hline, hseparator, ← pieces] at hneutral
  rw [hunit, hfront, neutralize, String.toList_ofList, List.map_append, List.map_cons,
    List.append_assoc, List.cons_append]
  exact hneutral

/-- The entry points of a translation unit are those of the validation script, moved by the length
of what stands before the script. So there are as many, and renaming those of the unit is renaming
those of the script. -/
theorem entryPoints_translationUnit (code validation : String) :
    let front := neutralize code ++ "\n" ++ separator ++ "\n"
    let unit := translationUnit ⟨code, some validation⟩
    unit = front ++ validation ∧
    (∀ place, StandsAt unit.toList place ↔
      ∃ inner, place = front.length + inner ∧ StandsAt validation.toList inner) ∧
    offsets 0 (pieces unit.toList) =
      (offsets 0 (pieces validation.toList)).map (front.length + ·) ∧
    EntryPoint.count unit = EntryPoint.count validation ∧
    neutralize unit = translationUnit ⟨code, some (neutralize validation)⟩ := by
  intro front unit
  have hpieces : pieces unit.toList = front.toList.map .plain ++ pieces validation.toList :=
    pieces_translationUnit code validation
  have hoffsets : offsets 0 (pieces unit.toList) =
      (offsets 0 (pieces validation.toList)).map (front.length + ·) := by
    rw [hpieces, offsets_plain, Nat.zero_add, String.length_toList, ← offsets_add, Nat.add_zero]
  refine ⟨rfl, fun place => ?_, hoffsets, ?_, ?_⟩
  · rw [← mem_offsets_iff, hoffsets, List.mem_map]
    constructor
    · rintro ⟨inner, hinner, rfl⟩
      exact ⟨inner, rfl, (mem_offsets_iff _ _).mp hinner⟩
    · rintro ⟨inner, rfl, hinner⟩
      exact ⟨inner, (mem_offsets_iff _ _).mpr hinner, rfl⟩
  · rw [EntryPoint.count, hpieces, List.countP_append, countP_plain, Nat.zero_add, EntryPoint.count]
  · calc neutralize unit
        = String.ofList (front.toList ++ (pieces validation.toList).flatMap Piece.neutralized) := by
          rw [neutralize, hpieces, List.flatMap_append, neutralized_plain]
      _ = front ++ neutralize validation := by
          rw [String.ofList_append, String.ofList_toList, neutralize]

end Submission

end Sandbox
