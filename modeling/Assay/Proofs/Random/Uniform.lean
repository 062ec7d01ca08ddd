import Assay.Random.Uniform
import Mathlib.Data.Nat.Basic

/-!
Uniform draws stay within their ranges, whatever the words are. The width of a range and the sum
of its lower bound and an offset wrap as words; neither wraps for a range that is not full.
-/

namespace Assay.Random

/-- The high half of a product with a word is below the other factor. -/
theorem mul_div_pow_lt {bits n v : Nat} (hn : 0 < n) (hv : v < 2 ^ bits) :
    v * n / 2 ^ bits < n := by
  rw [Nat.div_lt_iff_lt_mul (Nat.two_pow_pos bits), Nat.mul_comm n]
  exact Nat.mul_lt_mul_of_pos_right hv hn

theorem offset?_lt {bits n v k : Nat} (hn : 0 < n) (hv : v < 2 ^ bits)
    (h : offset? bits n v = some k) : k < n := by
  unfold offset? at h
  split at h
  · rw [← Option.some.inj h]
    exact mul_div_pow_lt hn hv
  · cases h

theorem drawOffset_lt (w : Words) {n : Nat} (hn : 0 < n) (fuel : Nat) (s : Source) :
    (drawOffset w n fuel s).1 < n := by
  induction fuel generalizing s with
  | zero => exact mul_div_pow_lt hn (w.next_lt s)
  | succ fuel ih =>
    simp only [drawOffset]
    split
    · next h => exact offset?_lt hn (w.next_lt s) h
    · exact ih _

theorem drawIndex_lt {n : Nat} (hn : 0 < n) (s : Source) : (drawIndex n s).1 < n :=
  drawOffset_lt .single hn attempts s

namespace IntegerRange

theorem toNat_toUInt64 (x : Int64) : (x.toUInt64.toNat : Int) = x.toInt % 2 ^ 64 := by
  have hx : x.toInt = (x.toUInt64.toNat : Int).bmod (2 ^ 64) := x.toBitVec.toInt_eq_toNat_bmod
  have hmod : (x.toUInt64.toNat : Int).bmod (2 ^ 64) % ((2 ^ 64 : Nat) : Int) =
      x.toUInt64.toNat % ((2 ^ 64 : Nat) : Int) := Int.bmod_emod
  have hlt := x.toUInt64.toNat_lt
  rw [show ((2 ^ 64 : Nat) : Int) = 2 ^ 64 from rfl] at hmod
  rw [hx, hmod]
  omega

/-- The width of a range is the number of its integers, unless that is too large for a word. -/
theorem toNat_width (r : IntegerRange) :
    (r.width.toNat : Int) = (r.high.toInt - r.low.toInt + 1) % 2 ^ 64 := by
  have hsub : ((r.high - r.low).toUInt64.toNat : Int) = (r.high.toInt - r.low.toInt) % 2 ^ 64 := by
    rw [toNat_toUInt64, Int64.toInt_sub]
    exact Int.bmod_emod
  have hadd : r.width.toNat = ((r.high - r.low).toUInt64.toNat + 1) % 2 ^ 64 := UInt64.toNat_add _ _
  omega

/-- A lower bound plus an offset does not wrap within the signed range. -/
theorem toInt_add_offset {low : Int64} {k : Nat} (h : low.toInt + k < 2 ^ 63) :
    (low + (UInt64.ofNat k).toInt64).toInt = low.toInt + k := by
  have hlow := low.le_toInt
  rw [Int64.toInt_add, UInt64.toInt64_ofNat', Int64.toInt_ofNat']
  rw [show Int64.size = 2 ^ 64 from rfl, Int.add_bmod_bmod]
  exact Int.bmod_eq_of_le (by omega) (by omega)

/-- A drawn integer lies within the range. -/
theorem draw_mem (r : IntegerRange) (s : Source) :
    r.low.toInt ≤ (r.draw s).1.toInt ∧ (r.draw s).1.toInt ≤ r.high.toInt := by
  have hwidth := r.toNat_width
  have hordered := Int64.le_iff_toInt_le.mp r.ordered
  have hlow := r.low.le_toInt
  have hhigh := r.high.toInt_lt
  unfold draw
  split
  · next hfull =>
    have hzero : r.width.toNat = 0 := by rw [hfull]; rfl
    have hdrawn := s.next64.1.toInt64.le_toInt
    have hdrawn' := s.next64.1.toInt64.toInt_lt
    dsimp only
    omega
  · next hne =>
    have hpos : 0 < r.width.toNat :=
      Nat.pos_of_ne_zero fun hzero => hne (UInt64.toNat_inj.mp hzero)
    have hk := drawOffset_lt .double hpos attempts s
    dsimp only
    rw [toInt_add_offset (by omega)]
    omega

end IntegerRange

end Assay.Random
