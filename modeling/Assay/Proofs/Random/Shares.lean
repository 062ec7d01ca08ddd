import Assay.Proofs.Random.Uniform
import Mathlib.Algebra.BigOperators.Group.Finset.Basic
import Mathlib.Algebra.Order.Floor.Div
import Mathlib.Order.Interval.Finset.Nat

/-!
How many words stand for one offset. The words of an offset are consecutive, because their
products with the width fill an interval whose length is the width times a power of two; so every
offset has that power of two for its share, and at least every other word is accepted.
-/

namespace Assay.Random

open Finset

/-- The zeros in front of the first set bit of a word. -/
def leadingZeros (bits n : Nat) : Nat := (BitVec.ofNat bits n).clz.toNat

/-- The number of words that stand for one offset below `n`. -/
def share (bits n : Nat) : Nat := 2 ^ leadingZeros bits n

theorem mul_share_pos (bits : Nat) {n : Nat} (hpos : 0 < n) : 0 < n * share bits n :=
  Nat.mul_pos hpos (Nat.two_pow_pos _)

theorem offset?_eq_some_iff_isSome {bits n v k : Nat} :
    offset? bits n v = some k ↔ (offset? bits n v).isSome ∧ v * n / 2 ^ bits = k := by
  unfold offset?
  split <;> simp

section Counting

variable {bits n v k : Nat} (hpos : 0 < n) (hlt : n < 2 ^ bits)

include hpos hlt

theorem leadingZeros_spec : leadingZeros bits n < bits ∧
    2 ^ (bits - 1 - leadingZeros bits n) ≤ n ∧ n < 2 ^ (bits - leadingZeros bits n) := by
  have hvalue : (BitVec.ofNat bits n).toNat = n := by
    rw [BitVec.toNat_ofNat, Nat.mod_eq_of_lt hlt]
  have hne : BitVec.ofNat bits n ≠ BitVec.ofNat bits 0 := by
    intro hzero
    rw [hzero, BitVec.toNat_ofNat, Nat.zero_mod] at hvalue
    omega
  have hbits : 0 < bits := by
    by_contra hzero
    obtain rfl : bits = 0 := by omega
    omega
  have hlower := BitVec.two_pow_sub_clz_le_toNat_of_ne_zero hbits hne
  have hupper := BitVec.toNat_lt_two_pow_sub_clz (x := BitVec.ofNat bits n)
  rw [hvalue] at hlower hupper
  refine ⟨?_, hlower, hupper⟩
  by_contra hle
  have hone : bits - leadingZeros bits n = 0 := by omega
  unfold leadingZeros at hone
  rw [hone] at hupper
  omega

/-- The shares of all offsets together are at least half of the words, and not more than all. -/
theorem share_bounds : 2 ^ bits ≤ 2 * (n * share bits n) ∧ n * share bits n ≤ 2 ^ bits := by
  obtain ⟨hzeros, hlower, hupper⟩ := leadingZeros_spec hpos hlt
  constructor
  · calc 2 ^ bits = 2 * (2 ^ (bits - 1 - leadingZeros bits n) * share bits n) := by
          rw [share, ← Nat.pow_add, ← Nat.pow_succ']
          congr 1
          omega
      _ ≤ 2 * (n * share bits n) := Nat.mul_le_mul_left 2 (Nat.mul_le_mul_right _ hlower)
  · calc n * share bits n ≤ 2 ^ (bits - leadingZeros bits n) * share bits n :=
          Nat.mul_le_mul_right _ (Nat.le_of_lt hupper)
      _ = 2 ^ bits := by
          rw [share, ← Nat.pow_add]
          congr 1
          omega

theorem zone_eq : zone bits n = n * share bits n - 1 := by
  obtain ⟨hzeros, hlower, hupper⟩ := leadingZeros_spec hpos hlt
  have hlog : n.log2 = bits - 1 - leadingZeros bits n := by
    rw [Nat.log2_eq_iff (by omega)]
    refine ⟨hlower, ?_⟩
    have hexponent : bits - 1 - leadingZeros bits n + 1 = bits - leadingZeros bits n := by omega
    rwa [hexponent]
  have hexponent : bits - (n.log2 + 1) = leadingZeros bits n := by omega
  rw [zone, share, hexponent]

/-- The products of the words of one offset fill an interval. -/
theorem offset?_eq_some_iff : offset? bits n v = some k ↔
    k * 2 ^ bits ≤ v * n ∧ v * n < k * 2 ^ bits + n * share bits n := by
  have hshare := mul_share_pos bits hpos
  have hfit := (share_bounds hpos hlt).2
  have hproduct := Nat.div_add_mod (v * n) (2 ^ bits)
  have hrest := Nat.mod_lt (v * n) (Nat.two_pow_pos bits)
  unfold offset?
  rw [zone_eq hpos hlt]
  constructor
  · intro h
    split at h
    · cases h
      rw [Nat.mul_comm (v * n / 2 ^ bits)]
      omega
    · cases h
  · rintro ⟨hle, hlt'⟩
    have hquotient : v * n / 2 ^ bits = k := by
      rw [Nat.div_eq_iff (Nat.two_pow_pos bits)]
      omega
    rw [hquotient, Nat.mul_comm] at hproduct
    rw [if_pos (by omega), hquotient]

/-- The words of an offset are as many as its share. -/
theorem card_words_of_offset (hk : k < n) :
    {v ∈ range (2 ^ bits) | offset? bits n v = some k}.card = share bits n := by
  have hfit := (share_bounds hpos hlt).2
  have hlast : (k + 1) * 2 ^ bits ≤ n * 2 ^ bits := Nat.mul_le_mul_right _ hk
  -- the least word whose product reaches the interval of the offset
  let first := k * 2 ^ bits ⌈/⌉ n
  have hfirst (v : Nat) : first ≤ v ↔ k * 2 ^ bits ≤ v * n := by
    rw [Nat.mul_comm v]
    exact ceilDiv_le_iff_le_mul hpos
  have hend (v : Nat) : v < first + share bits n ↔ v * n < k * 2 ^ bits + n * share bits n := by
    rw [← Nat.not_le, ← Nat.not_le, not_iff_not, Nat.mul_comm n]
    constructor
    · intro hle
      have hle' := (hfirst (v - share bits n)).1 (by omega)
      have hmul : (v - share bits n) * n + share bits n * n = v * n := by
        rw [← Nat.add_mul, Nat.sub_add_cancel (by omega)]
      omega
    · intro hle
      have hshare : share bits n ≤ v := Nat.le_of_mul_le_mul_right (by omega) hpos
      have hmul : (v - share bits n) * n + share bits n * n = v * n := by
        rw [← Nat.add_mul, Nat.sub_add_cancel hshare]
      have hle' := (hfirst (v - share bits n)).2 (by omega)
      omega
  have hwords : {v ∈ range (2 ^ bits) | offset? bits n v = some k} =
      Ico first (first + share bits n) := by
    ext v
    rw [mem_filter, mem_range, mem_Ico, offset?_eq_some_iff hpos hlt, hfirst, hend]
    constructor
    · exact And.right
    · rintro ⟨hle, hlt'⟩
      refine ⟨?_, hle, hlt'⟩
      apply Nat.lt_of_mul_lt_mul_right (a := n)
      rw [Nat.add_mul] at hlast
      rw [Nat.mul_comm (2 ^ bits)]
      omega
  rw [hwords, Nat.card_Ico, Nat.add_sub_cancel_left]

/-- All accepted words, sorted by the offsets that they stand for. -/
theorem card_accepted_words :
    {v ∈ range (2 ^ bits) | (offset? bits n v).isSome}.card = n * share bits n := by
  let accepted := {v ∈ range (2 ^ bits) | (offset? bits n v).isSome}
  have hoffset : Set.MapsTo (fun v => v * n / 2 ^ bits) accepted (range n) := by
    intro v hv
    have hword : v < 2 ^ bits := mem_range.1 (mem_filter.1 hv).1
    rw [coe_range]
    exact mul_div_pow_lt hpos hword
  have hfibre (k : Nat) : {v ∈ accepted | v * n / 2 ^ bits = k} =
      {v ∈ range (2 ^ bits) | offset? bits n v = some k} := by
    ext v
    rw [mem_filter, mem_filter, mem_filter, offset?_eq_some_iff_isSome, and_assoc]
  calc accepted.card = ∑ k ∈ range n, {v ∈ accepted | v * n / 2 ^ bits = k}.card :=
        card_eq_sum_card_fiberwise hoffset
    _ = ∑ k ∈ range n, share bits n := by
        refine sum_congr rfl fun k hk => ?_
        rw [hfibre]
        exact card_words_of_offset hpos hlt (mem_range.1 hk)
    _ = n * share bits n := by rw [sum_const, card_range, smul_eq_mul]

end Counting

end Assay.Random
