import Mathlib.Data.List.Induction
import Sandbox.Text.Utf8

/-!
# Lossy decoding and single bytes

Decoding with replacement commutes with cutting at bytes below `0x80`: such a byte completes no
character, ends an incomplete one as ill-formed, and is a character by itself. The characters of
line ends come from their own bytes only, since every longer character has a code point from `0x80`
on.

`Reader.Fed` says once what reading a byte can do. All facts about decoded texts follow from it.

## Main definitions

* `decoded` : the characters of a byte sequence, with U+FFFD for each ill-formed part.
* `Incomplete.IsProper`, `Reader.IsProper` : incomplete characters lead to code points from `0x80`
  on.
* `Reader.Fed` : the ways in which a reader goes on.

## Main results

* `Reader.IsProper.fed` : a byte that is read does one of these things.
* `decoded_append_cons` : decoding around a byte below `0x80`.
* `newline_mem_decoded_iff`, `getLast?_decoded_eq_return_iff` : where the characters of line ends
  come from.
-/

namespace Sandbox.Text.Utf8

/-! ### What reading a byte does -/

/-- Whether whatever completes the character gives a code point from `0x80` on. -/
def Incomplete.IsProper (c : Incomplete) : Prop :=
  0x80 ≤ c.low.toNat ∧ (2 ≤ c.value ∨ 2 ≤ c.owed ∧ 2 ≤ c.value * 64 + (c.low.toNat - 0x80))

/-- Whether the incomplete character of a reader, if there is one, is proper. -/
def Reader.IsProper (r : Reader) : Prop :=
  ∀ c, r.inside = some c → c.IsProper

/-- How a reader goes on with a byte. -/
inductive Reader.Fed (r : Reader) (b : UInt8) : Reader → Prop
  /-- A byte below `0x80` is a character and ends what was incomplete. -/
  | single (hb : b.toNat < 0x80) : Fed r b ⟨some (Char.ofNat b.toNat) :: r.finish.reverse, none⟩
  /-- The byte completes a character. -/
  | completes (hb : 0x80 ≤ b.toNat) (hr : r.inside.isSome) (value : Nat) (hvalue : 0x80 ≤ value) :
      Fed r b ⟨some (Char.ofNat value) :: r.done, none⟩
  /-- The byte continues a character. -/
  | continues (hb : 0x80 ≤ b.toNat) (hr : r.inside.isSome) (c : Incomplete) (hc : c.IsProper) :
      Fed r b ⟨r.done, some c⟩
  /-- The byte begins a character and ends what was incomplete. -/
  | opens (hb : 0x80 ≤ b.toNat) (c : Incomplete) (hc : c.IsProper) :
      Fed r b ⟨r.finish.reverse, some c⟩
  /-- The byte is ill-formed and ends what was incomplete. -/
  | invalid (hb : 0x80 ≤ b.toNat) : Fed r b ⟨none :: r.finish.reverse, none⟩

theorem lead_of_lt {b : UInt8} (hb : b.toNat < 0x80) : lead b = .single (Char.ofNat b.toNat) :=
  if_pos (UInt8.lt_iff_toNat_lt.mpr hb)

theorem lead_of_le {b : UInt8} (hb : 0x80 ≤ b.toNat) :
    lead b = .invalid ∨ ∃ c, lead b = .opens c ∧ c.IsProper := by
  simp only [lead, UInt8.lt_iff_toNat_lt, UInt8.reduceToNat, Nat.not_lt.mpr hb, if_false]
  by_cases h2 : b.toNat < 0xC2
  · exact Or.inl (if_pos h2)
  by_cases h3 : b.toNat < 0xE0
  · refine Or.inr ⟨_, by rw [if_neg h2, if_pos h3], Nat.le_refl _, Or.inl ?_⟩
    dsimp only
    omega
  by_cases h4 : b.toNat < 0xF0
  · refine Or.inr ⟨_, by rw [if_neg h2, if_neg h3, if_pos h4], ?_, Or.inr ⟨Nat.le_refl _, ?_⟩⟩
    · dsimp only
      split <;> decide
    · by_cases hlow : b = 0xE0
      · subst hlow
        decide
      · have hne : b.toNat ≠ 0xE0 := fun h => hlow (UInt8.toNat_inj.mp h)
        dsimp only
        omega
  by_cases h5 : b.toNat < 0xF5
  · refine Or.inr ⟨_, by rw [if_neg h2, if_neg h3, if_neg h4, if_pos h5], ?_,
      Or.inr ⟨Nat.le_succ 2, ?_⟩⟩
    · dsimp only
      split <;> decide
    · by_cases hlow : b = 0xF0
      · subst hlow
        decide
      · have hne : b.toNat ≠ 0xF0 := fun h => hlow (UInt8.toNat_inj.mp h)
        dsimp only
        omega
  · exact Or.inl (by rw [if_neg h2, if_neg h3, if_neg h4, if_neg h5])

theorem Reader.fed_begin (r : Reader) (b : UInt8) :
    r.Fed b (Reader.begin r.finish.reverse b) := by
  rcases Nat.lt_or_ge b.toNat 0x80 with hb | hb
  · rw [Reader.begin, lead_of_lt hb]
    exact .single hb
  · rcases lead_of_le hb with h | ⟨c, h, hc⟩
    · rw [Reader.begin, h]
      exact .invalid hb
    · rw [Reader.begin, h]
      exact .opens hb c hc

/-- A byte that is read does one of the things that `Reader.Fed` lists. -/
theorem Reader.IsProper.fed {r : Reader} (hr : r.IsProper) (b : UInt8) : r.Fed b (r.feed b) := by
  have hbegin := r.fed_begin b
  obtain ⟨done, inside⟩ := r
  rcases inside with _ | c
  · simpa [Reader.feed, Reader.finish] using hbegin
  · obtain ⟨hlow, hvalue⟩ := hr c rfl
    by_cases hin : c.low ≤ b ∧ b ≤ c.high
    · have hle : c.low.toNat ≤ b.toNat := UInt8.le_iff_toNat_le.mp hin.1
      simp only [Reader.feed, hin, and_self, if_true]
      by_cases howed : c.owed ≤ 1
      · rw [if_pos howed]
        exact .completes (by omega) rfl _ (by omega)
      · rw [if_neg howed]
        refine .continues (by omega) rfl _ ⟨Nat.le_refl _, Or.inl ?_⟩
        dsimp only
        omega
    · simpa [Reader.feed, Reader.finish, hin] using hbegin

theorem Reader.Fed.isProper {r next : Reader} {b : UInt8} (h : r.Fed b next) : next.IsProper := by
  intro c hc
  cases h with
  | single | completes | invalid => cases hc
  | continues _ _ d hd | opens _ d hd => exact Option.some.inj hc ▸ hd

/-- What a reader has after one more byte: one more symbol at the end, which is the byte's own
character if the byte is below `0x80`, and no character below `0x80` otherwise. -/
theorem Reader.Fed.finish_eq {r next : Reader} {b : UInt8} (h : r.Fed b next) :
    ∃ before last, next.finish = before ++ [last] ∧
      (∀ c : Char, some c ∈ before ↔ some c ∈ r.finish) ∧
      (b.toNat < 0x80 ∧ last = some (Char.ofNat b.toNat) ∨
        0x80 ≤ b.toNat ∧ ∀ c, last = some c → ∃ value, 0x80 ≤ value ∧ c = Char.ofNat value) := by
  have hdone (hr : r.inside.isSome) (c : Char) : some c ∈ r.done.reverse ↔ some c ∈ r.finish := by
    obtain ⟨done, inside⟩ := r
    obtain ⟨c', rfl⟩ := Option.isSome_iff_exists.mp hr
    simp [Reader.finish]
  cases h with
  | single hb => exact ⟨r.finish, _, by simp [Reader.finish], fun _ => Iff.rfl, Or.inl ⟨hb, rfl⟩⟩
  | completes hb hr value hvalue =>
    refine ⟨r.done.reverse, some (Char.ofNat value), by simp [Reader.finish], hdone hr,
      Or.inr ⟨hb, ?_⟩⟩
    rintro c ⟨⟩
    exact ⟨value, hvalue, rfl⟩
  | continues hb hr =>
    exact ⟨r.done.reverse, none, by simp [Reader.finish], hdone hr, Or.inr ⟨hb, nofun⟩⟩
  | opens hb | invalid hb =>
    exact ⟨r.finish, none, by simp [Reader.finish], fun _ => Iff.rfl, Or.inr ⟨hb, nofun⟩⟩

/-! ### Symbols of whole sequences -/

/-- The reader after some bytes. -/
def readerAfter (bytes : List UInt8) : Reader :=
  bytes.foldl Reader.feed Reader.start

theorem readerAfter_concat (bytes : List UInt8) (b : UInt8) :
    readerAfter (bytes ++ [b]) = (readerAfter bytes).feed b := by
  rw [readerAfter, List.foldl_append]
  rfl

theorem isProper_readerAfter (bytes : List UInt8) : (readerAfter bytes).IsProper := by
  induction bytes using List.reverseRecOn with
  | nil => exact nofun
  | append_singleton bytes b ih =>
    rw [readerAfter_concat]
    exact (ih.fed b).isProper

theorem symbols_concat (bytes : List UInt8) (b : UInt8) :
    ∃ before last, symbols (bytes ++ [b]) = before ++ [last] ∧
      (∀ c : Char, some c ∈ before ↔ some c ∈ symbols bytes) ∧
      (b.toNat < 0x80 ∧ last = some (Char.ofNat b.toNat) ∨
        0x80 ≤ b.toNat ∧ ∀ c, last = some c → ∃ value, 0x80 ≤ value ∧ c = Char.ofNat value) := by
  have h := ((isProper_readerAfter bytes).fed b).finish_eq
  rwa [← readerAfter_concat] at h

private theorem ofNat_ne_ofNat {value n : Nat} (hvalue : 0x80 ≤ value) (hpos : 0 < n)
    (hn : n < 0x80) : Char.ofNat value ≠ Char.ofNat n := by
  have htoNat {m : Nat} (hm : m.isValidChar) : (Char.ofNat m).toNat = m := by
    rw [Char.ofNat, dif_pos hm]
    rfl
  intro h
  have hvalid : n.isValidChar := Or.inl (by omega)
  by_cases hv : value.isValidChar
  · have := congrArg Char.toNat h
    rw [htoNat hv, htoNat hvalid] at this
    omega
  · have := congrArg Char.toNat h
    rw [htoNat hvalid, Char.ofNat, dif_neg hv] at this
    change 0 = n at this
    omega

section OwnByte

variable {k : UInt8} (hpos : 0 < k.toNat) (hk : k.toNat < 0x80)

include hpos hk

private theorem last_eq_iff {b : UInt8} {last : Symbol}
    (h : b.toNat < 0x80 ∧ last = some (Char.ofNat b.toNat) ∨
      0x80 ≤ b.toNat ∧ ∀ c, last = some c → ∃ value, 0x80 ≤ value ∧ c = Char.ofNat value) :
    last = some (Char.ofNat k.toNat) ↔ b = k := by
  rcases h with ⟨hb, rfl⟩ | ⟨hb, hlast⟩
  · refine ⟨fun h => ?_, fun h => h ▸ rfl⟩
    have hchar := congrArg Char.toNat (Option.some.inj h)
    rw [Char.ofNat, dif_pos (Or.inl (by omega)), Char.ofNat, dif_pos (Or.inl (by omega))] at hchar
    exact UInt8.toNat_inj.mp hchar
  · refine ⟨fun h => ?_, fun h => absurd hk (by rw [← h]; omega)⟩
    obtain ⟨value, hvalue, heq⟩ := hlast _ h
    exact absurd heq.symm (ofNat_ne_ofNat hvalue hpos hk)

/-- A character below `0x80` comes from its own byte only. -/
theorem mem_symbols_iff (bytes : List UInt8) :
    some (Char.ofNat k.toNat) ∈ symbols bytes ↔ k ∈ bytes := by
  induction bytes using List.reverseRecOn with
  | nil => simp [symbols, Reader.start, Reader.finish]
  | append_singleton bytes b ih =>
    obtain ⟨before, last, heq, hbefore, hlast⟩ := symbols_concat bytes b
    rw [heq, List.mem_append, List.mem_append, List.mem_singleton, List.mem_singleton, hbefore, ih,
      eq_comm (b := last), last_eq_iff hpos hk hlast, eq_comm (b := b)]

/-- A character below `0x80` is the last one if and only if its byte is. -/
theorem getLast?_symbols_eq_iff (bytes : List UInt8) :
    (symbols bytes).getLast? = some (some (Char.ofNat k.toNat)) ↔ bytes.getLast? = some k := by
  induction bytes using List.reverseRecOn with
  | nil => simp [symbols, Reader.start, Reader.finish]
  | append_singleton bytes b _ =>
    obtain ⟨before, last, heq, -, hlast⟩ := symbols_concat bytes b
    rw [heq, List.getLast?_concat, List.getLast?_concat, Option.some.injEq, Option.some.injEq,
      last_eq_iff hpos hk hlast]

end OwnByte

theorem symbols_eq_nil_iff (bytes : List UInt8) : symbols bytes = [] ↔ bytes = [] := by
  induction bytes using List.reverseRecOn with
  | nil => simp [symbols, Reader.start, Reader.finish]
  | append_singleton bytes b _ =>
    obtain ⟨before, last, heq, -⟩ := symbols_concat bytes b
    simp [heq]

/-! ### Cutting at a byte -/

private theorem feed_append_done (r : Reader) (done : List Symbol) (b : UInt8) :
    (⟨r.done ++ done, r.inside⟩ : Reader).feed b =
      ⟨(r.feed b).done ++ done, (r.feed b).inside⟩ := by
  have hbegin (d : List Symbol) : Reader.begin (d ++ done) b =
      ⟨(Reader.begin d b).done ++ done, (Reader.begin d b).inside⟩ := by
    unfold Reader.begin
    cases lead b <;> rfl
  obtain ⟨d, inside⟩ := r
  rcases inside with _ | c
  · exact hbegin d
  · simp only [Reader.feed]
    split
    · split <;> rfl
    · exact hbegin (none :: d)

private theorem foldl_feed_append_done (r : Reader) (done : List Symbol) (bytes : List UInt8) :
    bytes.foldl Reader.feed ⟨r.done ++ done, r.inside⟩ =
      ⟨(bytes.foldl Reader.feed r).done ++ done, (bytes.foldl Reader.feed r).inside⟩ := by
  induction bytes generalizing r with
  | nil => rfl
  | cons b bytes ih => rw [List.foldl_cons, feed_append_done, ih, List.foldl_cons]

/-- Decoding around a byte below `0x80`: what stands before it and what stands after it are decoded
on their own, whatever they are. -/
theorem symbols_append_cons {k : UInt8} (hk : k.toNat < 0x80) (front back : List UInt8) :
    symbols (front ++ k :: back) = symbols front ++ some (Char.ofNat k.toNat) :: symbols back := by
  have hfed : (readerAfter front).feed k =
      ⟨some (Char.ofNat k.toNat) :: (symbols front).reverse, none⟩ := by
    have h := (isProper_readerAfter front).fed k
    generalize (readerAfter front).feed k = next at h
    cases h with
    | single => rfl
    | completes hb | continues hb | opens hb | invalid hb => omega
  have hback := foldl_feed_append_done Reader.start
    (some (Char.ofNat k.toNat) :: (symbols front).reverse) back
  rw [symbols, List.foldl_append, List.foldl_cons, ← readerAfter, hfed]
  rw [Reader.start, List.nil_append] at hback
  have hsymbols : symbols back = (back.foldl Reader.feed ⟨[], none⟩).finish := rfl
  rw [hback, hsymbols]
  generalize back.foldl Reader.feed ⟨[], none⟩ = r
  obtain ⟨done, inside⟩ := r
  cases inside <;> simp [Reader.finish]

/-! ### Decoded characters -/

/-- The characters of a byte sequence, with U+FFFD for each ill-formed part. -/
def decoded (bytes : List UInt8) : List Char :=
  (symbols bytes).map fun symbol => symbol.getD '\uFFFD'

theorem decodeLossy_eq (bytes : List UInt8) : decodeLossy bytes = String.ofList (decoded bytes) :=
  rfl

@[simp] theorem decoded_nil : decoded [] = [] := rfl

theorem decoded_eq_nil_iff (bytes : List UInt8) : decoded bytes = [] ↔ bytes = [] := by
  rw [decoded, List.map_eq_nil_iff, symbols_eq_nil_iff]

theorem decoded_append_cons {k : UInt8} (hk : k.toNat < 0x80) (front back : List UInt8) :
    decoded (front ++ k :: back) = decoded front ++ Char.ofNat k.toNat :: decoded back := by
  simp only [decoded, symbols_append_cons hk, List.map_append, List.map_cons, Option.getD_some]

private theorem getD_eq_iff {c : Char} (hc : '\uFFFD' ≠ c) (symbol : Symbol) :
    symbol.getD '\uFFFD' = c ↔ symbol = some c := by
  cases symbol <;> simp [hc]

/-- A decoded text has a newline where its bytes have one, and nowhere else. -/
theorem newline_mem_decoded_iff (bytes : List UInt8) :
    '\n' ∈ decoded bytes ↔ (10 : UInt8) ∈ bytes := by
  have h := mem_symbols_iff (k := 10) (by decide) (by decide) bytes
  rw [← h, decoded, List.mem_map]
  simp only [getD_eq_iff (c := '\n') (by decide)]
  exact ⟨fun ⟨_, hmem, heq⟩ => heq ▸ hmem, fun hmem => ⟨_, hmem, rfl⟩⟩

/-- A decoded text ends with a carriage return if and only if its bytes do. -/
theorem getLast?_decoded_eq_return_iff (bytes : List UInt8) :
    (decoded bytes).getLast? = some '\r' ↔ bytes.getLast? = some 13 := by
  have h := getLast?_symbols_eq_iff (k := 13) (by decide) (by decide) bytes
  rw [← h, decoded, List.getLast?_map, Option.map_eq_some_iff]
  simp only [getD_eq_iff (c := '\r') (by decide)]
  exact ⟨fun ⟨_, hlast, heq⟩ => heq ▸ hlast, fun hlast => ⟨_, hlast, rfl⟩⟩

end Sandbox.Text.Utf8
