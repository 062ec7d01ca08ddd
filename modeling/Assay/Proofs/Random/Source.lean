import Assay.Random.Uniform
import Mathlib.Data.Nat.Basic

/-!
The words of a source, one after another. A stream has `2 ^ 64` blocks of sixteen words and begins
again after the last one, so whatever word a source ever gives comes early. Drawing an offset
therefore ends with the first word that is accepted, however late that is.
-/

namespace Assay.Random

namespace Words

variable (w : Words) (s : Source)

/-- The source after `count` words. -/
def after : Nat → Source
  | 0 => s
  | count + 1 => (w.next (after count)).2

/-- The word with the given number, counted from zero. -/
def word (i : Nat) : Nat := (w.next (w.after s i)).1

theorem after_add (m count : Nat) : w.after s (m + count) = w.after (w.after s m) count := by
  induction count with
  | zero => rfl
  | succ count ih => rw [← Nat.add_assoc, after, after, ih]

theorem after_succ (count : Nat) : w.after s (count + 1) = w.after (w.next s).2 count := by
  rw [Nat.add_comm, after_add]
  rfl

theorem word_succ (i : Nat) : w.word s (i + 1) = w.word (w.next s).2 i := by
  rw [word, after_succ]
  rfl

end Words

namespace Source

/-- The source that has read `place + 1` words of a stream. -/
def atPlace (stream : UInt64 → Block) (place : Nat) : Source :=
  ⟨stream, .ofNat (place / 16), stream (.ofNat (place / 16)), place % 16 + 1⟩

theorem snd_next32_atPlace (stream : UInt64 → Block) (place : Nat) :
    (atPlace stream place).next32.2 = atPlace stream (place + 1) := by
  unfold next32
  split
  · next h =>
    have hindex : place % 16 + 1 < 16 := h
    have hblock : (place + 1) / 16 = place / 16 := by omega
    have hplace : (place + 1) % 16 = place % 16 + 1 := by omega
    simp only [atPlace, hblock, hplace]
  · next h =>
    have hindex : ¬place % 16 + 1 < 16 := h
    have hblock : (place + 1) / 16 = place / 16 + 1 := by omega
    have hplace : (place + 1) % 16 = 0 := by omega
    simp only [atPlace, hblock, hplace, UInt64.ofNat_add]
    rfl

theorem atPlace_period (stream : UInt64 → Block) (place : Nat) :
    atPlace stream (place + 2 ^ 68) = atPlace stream place := by
  have hblock : (place + 2 ^ 68) / 16 = place / 16 + 2 ^ 64 := by omega
  have hplace : (place + 2 ^ 68) % 16 = place % 16 := by omega
  have hwrap : UInt64.ofNat (place / 16 + 2 ^ 64) = UInt64.ofNat (place / 16) := by
    rw [UInt64.ofNat_add]
    exact UInt64.add_zero _
  simp only [atPlace, hblock, hplace, hwrap]

theorem after_atPlace (stream : UInt64 → Block) (place count : Nat) :
    Words.single.after (atPlace stream place) count = atPlace stream (place + count) := by
  induction count with
  | zero => rfl
  | succ count ih =>
    rw [Words.after, ih]
    exact snd_next32_atPlace stream (place + count)

/-- The rest of the block that is being read, and one more word. -/
theorem exists_atPlace_of_index {rest : Nat} (s : Source) (h : 16 - s.index = rest) :
    ∃ place, Words.single.after s (rest + 1) = atPlace s.stream place := by
  induction rest generalizing s with
  | zero =>
    have hfull : ¬s.index < 16 := by omega
    have hplace : (s.number + 1).toNat * 16 / 16 = (s.number + 1).toNat := by omega
    refine ⟨(s.number + 1).toNat * 16, ?_⟩
    change s.next32.2 = _
    unfold next32
    rw [dif_neg hfull]
    simp only [atPlace, hplace, UInt64.ofNat_toNat, Nat.mul_mod_left]
  | succ rest ih =>
    have hopen : s.index < 16 := by omega
    have hnext : (Words.single.next s).2 = { s with index := s.index + 1 } := by
      change s.next32.2 = _
      unfold next32
      rw [dif_pos hopen]
    rw [Words.after_succ, hnext]
    exact ih _ (by dsimp only; omega)

theorem exists_atPlace (s : Source) :
    ∃ place, Words.single.after s 17 = atPlace s.stream place := by
  obtain ⟨place, hplace⟩ := exists_atPlace_of_index s rfl
  refine ⟨place + (16 - (16 - s.index)), ?_⟩
  rw [← after_atPlace, ← hplace, ← Words.after_add]
  congr 1
  omega

end Source

namespace Words

theorem after_single_period (s : Source) {i : Nat} (hi : 17 ≤ i) :
    single.after s (i + 2 ^ 68) = single.after s i := by
  obtain ⟨place, hplace⟩ := s.exists_atPlace
  obtain ⟨j, rfl⟩ := Nat.exists_eq_add_of_le hi
  rw [Nat.add_assoc, after_add, after_add single s 17 j, hplace, Source.after_atPlace,
    Source.after_atPlace, ← Nat.add_assoc, Source.atPlace_period]

theorem after_double (s : Source) (i : Nat) : double.after s i = single.after s (2 * i) := by
  induction i with
  | zero => rfl
  | succ i ih =>
    rw [after, ih]
    rfl

theorem after_double_period (s : Source) {i : Nat} (hi : 9 ≤ i) :
    double.after s (i + 2 ^ 67) = double.after s i := by
  have htwice : 2 * (i + 2 ^ 67) = 2 * i + 2 ^ 68 := by omega
  rw [after_double, after_double, htwice, after_single_period s (by omega)]

/-- A word that was not there before comes within the attempts. -/
def Early (w : Words) : Prop := ∀ s i, (∀ j < i, w.word s j ≠ w.word s i) → i ≤ attempts

theorem early_of_period {w : Words} (start period : Nat) (hpos : 0 < period)
    (hperiod : ∀ s i, start ≤ i → w.after s (i + period) = w.after s i)
    (hattempts : start + period ≤ attempts) : w.Early := by
  intro s i hnew
  by_contra hlate
  have hagain : w.after s (i - period + period) = w.after s (i - period) :=
    hperiod s _ (by omega)
  rw [Nat.sub_add_cancel (by omega)] at hagain
  have hsame : w.word s (i - period) = w.word s i := by rw [word, word, hagain]
  exact hnew (i - period) (by omega) hsame

theorem early_single : single.Early := by
  apply early_of_period 17 (2 ^ 68) (Nat.two_pow_pos 68)
  · intro s i hi
    exact after_single_period s hi
  · decide

theorem early_double : double.Early := by
  apply early_of_period 9 (2 ^ 67) (Nat.two_pow_pos 67)
  · intro s i hi
    exact after_double_period s hi
  · decide

end Words

/-- An offset is drawn with the first word that is accepted. -/
theorem drawOffset_of_first {w : Words} {n fuel i k : Nat} {s : Source} (hfuel : i ≤ fuel)
    (hrejected : ∀ j < i, offset? w.bits n (w.word s j) = none)
    (haccepted : offset? w.bits n (w.word s i) = some k) :
    drawOffset w n fuel s = (k, w.after s (i + 1)) := by
  induction fuel generalizing i s with
  | zero =>
    obtain rfl : i = 0 := by omega
    unfold offset? at haccepted
    split at haccepted
    · cases haccepted
      rfl
    · cases haccepted
  | succ fuel ih =>
    unfold drawOffset
    cases i with
    | zero =>
      change offset? w.bits n (w.next s).1 = some k at haccepted
      simp only [haccepted]
      rfl
    | succ i =>
      have hfirst : offset? w.bits n (w.next s).1 = none := hrejected 0 (by omega)
      simp only [hfirst]
      rw [Words.after_succ]
      rw [Words.word_succ] at haccepted
      refine ih (by omega) (fun j hj => ?_) haccepted
      rw [← Words.word_succ]
      exact hrejected (j + 1) (by omega)

theorem drawOffset_attempts {w : Words} (hearly : w.Early) {n i k : Nat} {s : Source}
    (hrejected : ∀ j < i, offset? w.bits n (w.word s j) = none)
    (haccepted : offset? w.bits n (w.word s i) = some k) :
    drawOffset w n attempts s = (k, w.after s (i + 1)) := by
  apply drawOffset_of_first _ hrejected haccepted
  apply hearly s i
  intro j hj hsame
  rw [← hsame, hrejected j hj] at haccepted
  cases haccepted

end Assay.Random
