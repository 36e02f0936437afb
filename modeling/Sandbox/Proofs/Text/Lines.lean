import Mathlib.Data.List.TakeWhile
import Sandbox.Text.Blank
import Sandbox.Text.Lines
import Sandbox.Text.Search

/-!
# Lines, blanks and occurrences

Splitting a text into lines loses line ends only, which are blanks, so that a text and its lines
have the same characters that are none. Trimming takes the blanks from both ends of a text.
Searching a text finds every occurrence.

## Main definitions

* `Trims` : a text is another one without the blanks at both ends.
* `Occurs` : a text occurs in another one.

## Main results

* `newline_not_mem_lines` : no line has a newline.
* `allBlank_lines_iff` : the lines of a text are all blank exactly if the text is.
* `trim_eq_iff` : trimming, said by what is taken away.
* `contains_iff` : searching, said by what stands around an occurrence.
-/

namespace Sandbox.Text

/-- Whether `trimmed` is `cs` without the blanks at both ends. -/
def Trims (cs trimmed : List Char) : Prop :=
  ∃ left right, cs = left ++ (trimmed ++ right) ∧
    (∀ c ∈ left, isBlank c = true) ∧ (∀ c ∈ right, isBlank c = true) ∧
    (∀ c, trimmed.head? = some c → isBlank c = false) ∧
    ∀ c, trimmed.getLast? = some c → isBlank c = false

/-- Whether `part` occurs in `text`. -/
def Occurs (part text : String) : Prop :=
  ∃ before after, text = before ++ part ++ after

variable {before cs line trimmed : List Char} {c : Char}

/-! ### Lines -/

theorem mem_closeLine (h : c ∈ closeLine before) : c ∈ before := by
  unfold closeLine at h
  split at h <;> simp_all

theorem mem_closeLine_iff (hc : isBlank c = false) : c ∈ closeLine before ↔ c ∈ before := by
  refine ⟨mem_closeLine, fun h => ?_⟩
  unfold closeLine
  split
  next rest =>
    refine List.mem_reverse.mpr ((List.mem_cons.mp h).resolve_left ?_)
    rintro rfl
    exact absurd hc (by decide)
  · exact List.mem_reverse.mpr h

theorem newline_not_mem_linesFrom (hbefore : '\n' ∉ before) (h : line ∈ linesFrom before cs) :
    '\n' ∉ line := by
  fun_induction linesFrom before cs with
  | case1 before hempty => cases h
  | case2 before hempty => simp_all
  | case3 before rest ih =>
    rcases List.mem_cons.mp h with rfl | hrest
    · exact fun hmem => hbefore (mem_closeLine hmem)
    · exact ih List.not_mem_nil hrest
  | case4 before c rest hc ih =>
    refine ih ?_ h
    rw [List.mem_cons, not_or]
    exact ⟨Ne.symm hc, hbefore⟩

theorem newline_not_mem_lines {text line : String} (h : line ∈ lines text) :
    '\n' ∉ line.toList := by
  obtain ⟨cs, hcs, rfl⟩ := List.mem_map.mp h
  rw [String.toList_ofList]
  exact newline_not_mem_linesFrom List.not_mem_nil hcs

/-- A character that is no blank belongs to a line. -/
theorem exists_mem_linesFrom_iff (hc : isBlank c = false) :
    (∃ line ∈ linesFrom before cs, c ∈ line) ↔ c ∈ before ∨ c ∈ cs := by
  fun_induction linesFrom before cs with
  | case1 before hempty => simp_all
  | case2 before hempty => simp
  | case3 before rest ih =>
    have hnewline : c ≠ '\n' := by
      rintro rfl
      exact absurd hc (by decide)
    simp [mem_closeLine_iff hc, ih, hnewline]
  | case4 before d rest hd ih =>
    rw [ih, List.mem_cons, List.mem_cons, or_assoc, or_left_comm]

theorem allBlank_iff {text : String} :
    allBlank text = true ↔ ∀ c ∈ text.toList, isBlank c = true :=
  List.all_eq_true

/-- The lines of a text are all blank exactly if the text is. -/
theorem allBlank_lines_iff (text : String) :
    (∀ line ∈ lines text, allBlank line = true) ↔ allBlank text = true := by
  simp only [allBlank_iff]
  constructor
  · intro h c hmem
    by_contra hc
    rw [Bool.not_eq_true] at hc
    obtain ⟨cs, hcs, hline⟩ := (@exists_mem_linesFrom_iff [] _ _ hc).mpr (.inr hmem)
    have hblank := h (String.ofList cs) (List.mem_map_of_mem hcs) c (by rwa [String.toList_ofList])
    rw [hc] at hblank
    cases hblank
  · intro h line hline c hmem
    obtain ⟨cs, hcs, rfl⟩ := List.mem_map.mp hline
    rw [String.toList_ofList] at hmem
    by_contra hc
    rw [Bool.not_eq_true] at hc
    have hsome := (exists_mem_linesFrom_iff hc).mp ⟨cs, hcs, hmem⟩
    rw [h c (hsome.resolve_left List.not_mem_nil)] at hc
    cases hc

/-! ### Trimming -/

theorem dropWhile_of_head? (h : ∀ c, cs.head? = some c → isBlank c = false) :
    cs.dropWhile isBlank = cs := by
  cases cs with
  | nil => rfl
  | cons c rest => exact List.dropWhile_cons_of_neg (by simp [h c rfl])

theorem dropEndBlanks_append {right : List Char} (hright : ∀ c ∈ right, isBlank c = true)
    (h : ∀ c, cs.getLast? = some c → isBlank c = false) : dropEndBlanks (cs ++ right) = cs := by
  rw [dropEndBlanks, List.reverse_append,
    List.dropWhile_append_of_pos fun c hc => hright c (List.mem_reverse.mp hc),
    dropWhile_of_head? (by rwa [List.head?_reverse]), List.reverse_reverse]

/-- The blanks at the end are what trimming takes away there. -/
theorem exists_dropEndBlanks (cs : List Char) :
    ∃ right, cs = dropEndBlanks cs ++ right ∧ (∀ c ∈ right, isBlank c = true) ∧
      ∀ c, (dropEndBlanks cs).getLast? = some c → isBlank c = false := by
  refine ⟨(cs.reverse.takeWhile isBlank).reverse, ?_, fun c hc => ?_, fun c hc => ?_⟩
  · rw [dropEndBlanks, ← List.reverse_append, List.takeWhile_append_dropWhile, List.reverse_reverse]
  · exact List.all_eq_true.mp List.all_takeWhile c (List.mem_reverse.mp hc)
  · rw [dropEndBlanks, List.getLast?_reverse] at hc
    simpa [hc] using List.head?_dropWhile_not isBlank cs.reverse

/-- Trimming, said by what is taken away. -/
theorem trims_iff : Trims cs trimmed ↔ dropEndBlanks (cs.dropWhile isBlank) = trimmed := by
  constructor
  · rintro ⟨left, right, rfl, hleft, hright, hhead, hlast⟩
    rw [List.dropWhile_append_of_pos hleft]
    cases trimmed with
    | nil =>
      rw [List.nil_append, List.dropWhile_eq_nil_iff.mpr hright]
      rfl
    | cons c trimmed =>
      rw [dropWhile_of_head? (by simpa using hhead), dropEndBlanks_append hright hlast]
  · rintro rfl
    obtain ⟨right, hcs, hright, hlast⟩ := exists_dropEndBlanks (cs.dropWhile isBlank)
    refine ⟨cs.takeWhile isBlank, right, ?_, List.all_eq_true.mp List.all_takeWhile, hright,
      fun c hc => ?_, hlast⟩
    · rw [← hcs, List.takeWhile_append_dropWhile]
    · have hfirst := List.head?_dropWhile_not isBlank cs
      rw [hcs, List.head?_append, hc] at hfirst
      simpa using hfirst

theorem trim_eq_iff {text trimmed : String} :
    trim text = trimmed ↔ Trims text.toList trimmed.toList := by
  rw [trims_iff, trim, ← String.toList_inj, String.toList_ofList]

theorem Trims.mem (h : Trims cs trimmed) (hc : c ∈ trimmed) : c ∈ cs := by
  obtain ⟨left, right, rfl, -⟩ := h
  exact List.mem_append_right _ (List.mem_append_left _ hc)

/-- Nothing is left exactly if there were blanks only. -/
theorem Trims.eq_nil_iff (h : Trims cs trimmed) : trimmed = [] ↔ ∀ c ∈ cs, isBlank c = true := by
  obtain ⟨left, right, rfl, hleft, hright, hhead, -⟩ := h
  constructor
  · rintro rfl c hc
    exact (List.mem_append.mp hc).elim (hleft c) (hright c)
  · intro hall
    refine List.head?_eq_none_iff.mp (Option.eq_none_iff_forall_ne_some.mpr fun c hc => ?_)
    have hblank := hall c
      (List.mem_append_right _ (List.mem_append_left _ (List.mem_of_mem_head? hc)))
    rw [hhead c hc] at hblank
    cases hblank

theorem trim_eq_empty_iff (text : String) : trim text = "" ↔ allBlank text = true := by
  rw [← String.toList_eq_nil_iff, (trim_eq_iff.mp rfl).eq_nil_iff, allBlank_iff]

/-- Trimming leaves all characters that are no blanks. -/
theorem Trims.forall_isBlank (h : Trims cs trimmed) (hall : ∀ c ∈ trimmed, isBlank c = true) :
    ∀ c ∈ cs, isBlank c = true := by
  obtain ⟨left, right, rfl, hleft, hright, -⟩ := h
  simpa only [List.forall_mem_append] using ⟨hleft, hall, hright⟩

/-! ### Occurrences -/

theorem hasStart_iff {part xs : List Char} : hasStart part xs = true ↔ part <+: xs := by
  rw [hasStart, Option.isSome_iff_exists]
  constructor
  · rintro ⟨rest, h⟩
    exact ⟨rest, (eq_append_of_stripStart? h).symm⟩
  · rintro ⟨rest, rfl⟩
    exact ⟨rest, stripStart?_append part rest⟩

theorem occursIn_iff {part xs : List Char} : occursIn part xs = true ↔ part <:+: xs := by
  induction xs with
  | nil => rw [occursIn, hasStart_iff, List.prefix_nil, List.infix_nil]
  | cons x xs ih => rw [occursIn, Bool.or_eq_true, hasStart_iff, ih, List.infix_cons_iff]

theorem contains_iff {text part : String} : contains text part = true ↔ Occurs part text := by
  rw [contains, occursIn_iff]
  constructor
  · rintro ⟨before, after, h⟩
    exact ⟨String.ofList before, String.ofList after, String.toList_inj.mp (by simp [← h])⟩
  · rintro ⟨before, after, rfl⟩
    exact ⟨before.toList, after.toList, by simp⟩

end Sandbox.Text
