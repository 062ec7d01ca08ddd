import Assay.Number.Shortest
import Assay.Proofs.Number.Order

/-!
The decimal that a double is written as reads back as the double.
-/

namespace Assay.Number

namespace Decimal

theorem units_ofNat (digits e : Nat) :
    units ⟨digits, .ofNat e⟩ = nearest (digits * 10 ^ e * unitsPerOne) 1 := rfl

theorem units_negSucc (digits e : Nat) :
    units ⟨digits, .negSucc e⟩ = nearest (digits * unitsPerOne) (10 ^ (e + 1)) := rfl

/-- A power of ten moved from the exponent to the digits does not change the number of units. -/
theorem units_mul_ten (digits : Nat) (exponent : Int) :
    units ⟨digits * 10, exponent⟩ = units ⟨digits, exponent + 1⟩ := by
  have hpow : ∀ k : Nat, 0 < 10 ^ k := fun k => Nat.pow_pos (by decide)
  have hfactor : digits * 10 * unitsPerOne = digits * unitsPerOne * 10 := Nat.mul_right_comm ..
  match exponent with
  | .ofNat e =>
    rw [show Int.ofNat e + 1 = Int.ofNat (e + 1) from rfl, units_ofNat, units_ofNat, Nat.pow_succ,
      Nat.mul_comm (10 ^ e), Nat.mul_assoc digits]
  | .negSucc 0 =>
    have h := nearest_mul_mul (digits * unitsPerOne) Nat.one_pos (c := 10) (by decide)
    rw [show Int.negSucc 0 + 1 = Int.ofNat 0 from rfl, units_ofNat, units_negSucc, hfactor,
      Nat.pow_zero, Nat.mul_one, ← h]
  | .negSucc (e + 1) =>
    have h := nearest_mul_mul (digits * unitsPerOne) (hpow (e + 1)) (c := 10) (by decide)
    rw [show Int.negSucc (e + 1) + 1 = Int.negSucc e from rfl, units_negSucc, units_negSucc,
      hfactor, Nat.pow_succ 10 (e + 1), h]

theorem units_normalise (fuel : Nat) (d : Decimal) : (normalise fuel d).units = d.units := by
  induction fuel generalizing d with
  | zero => rfl
  | succ fuel ih =>
    unfold normalise
    split
    next h =>
      have hdigits : d.digits / 10 * 10 = d.digits := Nat.div_mul_cancel (Nat.dvd_of_mod_eq_zero h.2)
      rw [ih, ← units_mul_ten, hdigits]
    next => rfl

theorem units_of_onGrid? {units : Nat} {exponent : Int} {d : Decimal}
    (h : onGrid? units exponent = some d) : d.units = units := by
  unfold onGrid? at h
  dsimp only at h
  split at h
  next hlow =>
    cases h
    exact hlow.1
  next =>
    split at h
    next hhigh =>
      cases h
      exact hhigh
    next => cases h

variable {n : Nat} (fits : Representable n)
include fits

theorem units_exact : (exact n).units = n := by
  have hread : ∀ k, nearest (n * 5 ^ k * 2 ^ k) (10 ^ k) = n := fun k => by
    rw [mul_five_pow_mul_two_pow, nearest_mul fits.1 (Nat.pow_pos (by decide))]
  have hexponent : (-1074 : Int) = .negSucc 1073 := rfl
  rw [exact, hexponent, units_negSucc, unitsPerOne, show 1073 + 1 = 1074 from rfl, hread 1074]

theorem units_search (fuel : Nat) (exponent : Int) : (search n fuel exponent).units = n := by
  induction fuel generalizing exponent with
  | zero => exact units_exact fits
  | succ fuel ih =>
    unfold search
    split
    next d hd => exact units_of_onGrid? hd
    next => exact ih (exponent - 1)

theorem units_shortest : (shortest n).units = n := by
  unfold shortest
  split
  next h =>
    have hzero := nearest_mul (n := 0) (by decide) Nat.one_pos
    rw [Nat.zero_mul] at hzero
    rw [h, show (0 : Int) = .ofNat 0 from rfl, units_ofNat, Nat.zero_mul, hzero]
  next => rw [units_normalise, units_search fits]

end Decimal

namespace Binary64

theorem ofDecimal_eq_ofRatio (negative : Bool) (d : Decimal) :
    ∃ num den, d.units = nearest num den ∧
      ofDecimal negative d.digits d.exponent = ofRatio negative num den := by
  obtain ⟨digits, exponent⟩ := d
  match exponent with
  | .ofNat e => exact ⟨_, _, rfl, rfl⟩
  | .negSucc e => exact ⟨_, _, rfl, rfl⟩

/-- The shortest decimal of a double is read as the double. -/
theorem ofDecimal_shortest (negative : Bool) {units : Nat} (fits : Representable units) :
    ofDecimal negative (Decimal.shortest units).digits (Decimal.shortest units).exponent =
      finite negative units fits := by
  obtain ⟨num, den, hunits, hread⟩ := ofDecimal_eq_ofRatio negative (Decimal.shortest units)
  rw [Decimal.units_shortest fits] at hunits
  rw [hread, ofRatio_of_lt negative (hunits ▸ fits.2), finite_congr negative hunits.symm fits]

end Binary64

end Assay.Number
