import Sandbox.Text.Lowercase

/-!
# Lowercase is final

No small letter has another small letter, and neither have the two characters that U+0130 becomes
or the two small sigmas. So what is in lowercase stays as it is, although a capital sigma is mapped
by what stands around it: no text in lowercase has one.

The runs are compared as intervals with a parity, which takes one test for each two runs instead of
one for each letter and run.

## Main definitions

* `Covers`, `small` : the capitals of a run, and their small letters.
* `Apart` : no small letter of one run is a capital of another one.
* `IsFixed` : characters that the mapping leaves alone wherever they stand.

## Main results

* `isFixed_of_mem_lowerChar` : what one character is mapped to is left alone.
* `lowercase_lowercase` : what is in lowercase stays as it is.
-/

namespace Sandbox.Text

/-- The first and last capital of a run, the step between capitals, and the small letter of the
first. -/
abbrev Run : Type := Nat × Nat × Nat × Nat

/-- Whether a run has a small letter for the code point `n`. -/
def Covers (run : Run) (n : Nat) : Prop :=
  run.1 ≤ n ∧ n ≤ run.2.1 ∧ (n - run.1) % run.2.2.1 = 0

/-- The small letter of a run for the code point `n`. -/
def small (run : Run) (n : Nat) : Nat :=
  run.2.2.2 + (n - run.1)

/-- Whether the small letters of a run and the capitals of another one are apart: one interval comes
before the other, or each has every other code point only and they differ in parity. -/
def Apart (run other : Run) : Prop :=
  small run run.2.1 < other.1 ∨ other.2.1 < run.2.2.2 ∨
    other.2.2.1 = 2 ∧ (run.2.2.1 = 2 ∨ run.1 = run.2.1) ∧ (run.2.2.2 + other.1) % 2 = 1

instance (run other : Run) : Decidable (Apart run other) :=
  inferInstanceAs (Decidable (_ ∨ _))

/-- Whether the mapping leaves a character alone wherever it stands. -/
def IsFixed (c : Char) : Prop :=
  lowerChar c = [c] ∧ c ≠ '\u03A3'

instance (c : Char) : Decidable (IsFixed c) :=
  inferInstanceAs (Decidable (_ ∧ _))

variable {run other : Run} {n : Nat} {c d : Char} {before cs : List Char}

/-! ### The runs -/

theorem apart_lowerRuns (hrun : run ∈ lowerRuns) (hother : other ∈ lowerRuns) :
    Apart run other := by
  have hall : (lowerRuns.all fun run =>
      lowerRuns.all fun other => decide (Apart run other)) = true := by decide +kernel
  simp only [List.all_eq_true, decide_eq_true_eq] at hall
  exact hall run hrun other hother

/-- The small letters of a run are characters. They are beyond ASCII, apart from the small letter of
the Kelvin sign, and none is U+0130 or the capital sigma. -/
theorem small_lowerRuns : ∀ run ∈ lowerRuns,
    (small run run.2.1 < 0xD800 ∨ 0xDFFF < run.2.2.2 ∧ small run run.2.1 < 0x110000) ∧
    (0x80 ≤ run.2.2.2 ∨ run.2.2.2 = 0x6B ∧ run.1 = run.2.1) ∧
    (small run run.2.1 < 0x130 ∨ 0x130 < run.2.2.2) ∧
    (small run run.2.1 < 0x3A3 ∨ 0x3A3 < run.2.2.2) := by
  decide +kernel

theorem isFixed_toLower_ascii : ∀ n < 0x80, IsFixed (Char.ofNat n).toLower := by
  decide +kernel

theorem Apart.not_covers_small (h : Apart run other) (hrun : Covers run n) :
    ¬ Covers other (small run n) := by
  unfold Apart Covers small at *
  rcases h with hbelow | habove | ⟨hother, hstep | hsingle, hparity⟩
  · omega
  · omega
  · rw [hstep] at hrun
    rw [hother]
    omega
  · rw [hother]
    omega

/-- A character without a run is its own small letter. -/
theorem lowerByRuns_eq_self (h : ∀ run ∈ lowerRuns, ¬ Covers run c.toNat) : lowerByRuns c = c := by
  have hnone : lowerRuns.find? (fun run =>
      decide (run.1 ≤ c.toNat) && decide (c.toNat ≤ run.2.1) &&
        (c.toNat - run.1) % run.2.2.1 == 0) = none := by
    refine List.find?_eq_none.mpr fun run hrun hcovers => h run hrun ?_
    simpa [Covers, and_assoc] using hcovers
  rw [lowerByRuns, hnone]

/-- A character has a run, which gives its small letter, or is its own small letter. -/
theorem lowerByRuns_cases (c : Char) :
    (∃ run ∈ lowerRuns, Covers run c.toNat ∧ lowerByRuns c = Char.ofNat (small run c.toNat)) ∨
      lowerByRuns c = c := by
  unfold lowerByRuns
  split
  next run hfind =>
    refine .inl ⟨run, List.mem_of_find?_eq_some hfind, ?_, rfl⟩
    simpa [Covers, and_assoc] using List.find?_some hfind
  · exact .inr rfl

/-! ### Characters -/

theorem isFixed_of_lowerByRuns_eq_self (hascii : ¬ c.toNat < 0x80) (hdotted : c ≠ '\u0130')
    (hsigma : c ≠ '\u03A3') (hself : lowerByRuns c = c) : IsFixed c := by
  refine ⟨?_, hsigma⟩
  rw [lowerChar, if_neg hascii, if_neg hdotted, hself]

/-- What the runs give for a character is left alone. -/
theorem isFixed_small (hmem : run ∈ lowerRuns) (hrun : Covers run n) :
    IsFixed (Char.ofNat (small run n)) := by
  obtain ⟨hchar, hascii, hdotted, hsigma⟩ := small_lowerRuns run hmem
  have hnot (other : Run) (hother : other ∈ lowerRuns) : ¬ Covers other (small run n) :=
    (apart_lowerRuns hmem hother).not_covers_small hrun
  obtain ⟨hfirst, hlast, -⟩ := hrun
  have hlow : run.2.2.2 ≤ small run n := Nat.le_add_right _ _
  have hhigh : small run n ≤ small run run.2.1 :=
    Nat.add_le_add_left (Nat.sub_le_sub_right hlast _) _
  generalize small run n = k at hnot hlow hhigh ⊢
  have hvalid : k.isValidChar := by
    unfold Nat.isValidChar
    omega
  have hk : (Char.ofNat k).toNat = k := by
    rw [Char.ofNat, dif_pos hvalid]
    rfl
  have hne {d : Char} (hd : k ≠ d.toNat) : Char.ofNat k ≠ d := fun heq => hd (by rw [← heq, hk])
  have hdotted : Char.ofNat k ≠ '\u0130' := hne (by change k ≠ 0x130; omega)
  have hsigma : Char.ofNat k ≠ '\u03A3' := hne (by change k ≠ 0x3A3; omega)
  rcases hascii with hbeyond | ⟨hkelvin, hsingle⟩
  · exact isFixed_of_lowerByRuns_eq_self (by omega) hdotted hsigma
      (lowerByRuns_eq_self (by rwa [hk]))
  · have hsmall : k = 0x6B := by
      unfold small at hhigh
      omega
    rw [hsmall]
    decide

/-- What one character is mapped to is left alone. -/
theorem isFixed_of_mem_lowerChar (hc : c ≠ '\u03A3') (h : d ∈ lowerChar c) : IsFixed d := by
  unfold lowerChar at h
  split at h
  next hascii =>
    rw [List.mem_singleton.mp h, ← Char.ofNat_toNat c]
    exact isFixed_toLower_ascii _ hascii
  next hascii =>
    split at h
    · simp only [List.mem_cons, List.not_mem_nil, or_false] at h
      rcases h with rfl | rfl <;> decide
    next hdotted =>
      rw [List.mem_singleton.mp h]
      rcases lowerByRuns_cases c with ⟨run, hmem, hrun, hlower⟩ | hself
      · rw [hlower]
        exact isFixed_small hmem hrun
      · rw [hself]
        exact isFixed_of_lowerByRuns_eq_self hascii hdotted hc hself

/-! ### Texts -/

theorem isFixed_of_mem_lowerFrom (h : c ∈ lowerFrom before cs) : IsFixed c := by
  induction cs generalizing before with
  | nil => cases h
  | cons d cs ih =>
    rcases List.mem_append.mp h with hfirst | hrest
    · split at hfirst
      · rw [List.mem_singleton.mp hfirst]
        split <;> decide
      next hd => exact isFixed_of_mem_lowerChar hd hfirst
    · exact ih hrest

theorem lowerFrom_eq_self (h : ∀ c ∈ cs, IsFixed c) : lowerFrom before cs = cs := by
  induction cs generalizing before with
  | nil => rfl
  | cons c cs ih =>
    obtain ⟨⟨hlower, hsigma⟩, hrest⟩ := List.forall_mem_cons.mp h
    rw [lowerFrom, if_neg hsigma, hlower, ih hrest, List.singleton_append]

/-- What is in lowercase stays as it is. -/
theorem lowercase_lowercase (text : String) : lowercase (lowercase text) = lowercase text := by
  unfold lowercase
  rw [String.toList_ofList, lowerFrom_eq_self fun c => isFixed_of_mem_lowerFrom]

/-- The last of two capital sigmas has a small letter of its own. -/
example : lowercase "\u03A3\u039F\u03A3" = "\u03C3\u03BF\u03C2" := by decide +kernel

end Sandbox.Text
