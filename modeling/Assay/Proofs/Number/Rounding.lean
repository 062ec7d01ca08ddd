import Assay.Number.Binary64

/-!
Rounding leaves alone what needs no rounding.
-/

namespace Assay.Number

/-- A quotient without a remainder is its own nearest whole number. -/
theorem nearestWhole_mul (n : Nat) {den : Nat} (hden : 0 < den) :
    nearestWhole (n * den) den = n := by
  unfold nearestWhole
  rw [Nat.mul_mod_left, Nat.mul_div_cancel n hden]
  exact if_pos hden

/-- A number without excess bits is not changed by rounding, however its quotient is written. -/
theorem nearest_mul {n den : Nat} (hn : n % 2 ^ excessBits n = 0) (hden : 0 < den) :
    nearest (n * den) den = n := by
  have hwhole : n = n / 2 ^ excessBits n * 2 ^ excessBits n :=
    (Nat.div_mul_cancel (Nat.dvd_of_mod_eq_zero hn)).symm
  have hnum : n * den = n / 2 ^ excessBits n * (den * 2 ^ excessBits n) := by
    rw [Nat.mul_comm den, ← Nat.mul_assoc, ← hwhole]
  unfold nearest
  simp only [Nat.mul_div_cancel n hden]
  rw [hnum, nearestWhole_mul _ (Nat.mul_pos hden (Nat.two_pow_pos _)), ← hwhole]

theorem two_pow_mod_excess (k : Nat) : 2 ^ k % 2 ^ excessBits (2 ^ k) = 0 := by
  have h := mod_excess_of_le (m := 1) k (by decide)
  rwa [Nat.one_mul] at h

theorem mul_five_pow_mul_two_pow (n k : Nat) : n * 5 ^ k * 2 ^ k = n * 10 ^ k := by
  rw [Nat.mul_assoc, ← Nat.mul_pow]

namespace Binary64

theorem ofRatio_mul (negative : Bool) {units den : Nat} (fits : Representable units)
    (hden : 0 < den) : ofRatio negative (units * den) den = .finite negative units fits := by
  have h := nearest_mul fits.1 hden
  unfold ofRatio
  simp only [h, fits.2, dite_true]

/-- The first power of two that is too large overflows. -/
theorem ofRatio_sizeLimit (negative : Bool) {den : Nat} (hden : 0 < den) :
    ofRatio negative (sizeLimit * den) den = .infinite negative := by
  have hlimit : sizeLimit % 2 ^ excessBits sizeLimit = 0 := by
    unfold sizeLimit
    exact two_pow_mod_excess 2098
  have h := nearest_mul hlimit hden
  unfold ofRatio
  simp only [h, Nat.lt_irrefl, dite_false]

theorem ofDecimal_neg (negative : Bool) (digits k : Nat) :
    ofDecimal negative digits (-(k : Nat)) = ofRatio negative (digits * unitsPerOne) (10 ^ k) := by
  cases k with
  | zero =>
    rw [show -((0 : Nat) : Int) = .ofNat 0 from rfl, ofDecimal, Nat.pow_zero, Nat.mul_one]
  | succ k => rfl

end Binary64

end Assay.Number
