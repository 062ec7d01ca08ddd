import Assay.Draw.Builtin
import Assay.Proofs.Number.Order

/-!
Rounding to four digits after the point. It keeps the order of doubles, so what lies between two
bounds comes to lie between the rounded bounds.
-/

namespace Assay.Number

/-- The whole number of ones nearest to a number of units, in units; a half goes up. -/
def wholeUnits (units : Nat) : Nat :=
  (2 * units + unitsPerOne) / (2 * unitsPerOne) * unitsPerOne

theorem wholeUnits_mono {m n : Nat} (h : m ≤ n) : wholeUnits m ≤ wholeUnits n := by
  unfold wholeUnits
  exact Nat.mul_le_mul_right _ (Nat.div_le_div_right (by omega))

theorem wholeUnits_zero : wholeUnits 0 = 0 := by
  have hpos := unitsPerOne_pos
  unfold wholeUnits
  rw [Nat.div_eq_of_lt (by omega), Nat.zero_mul]

/-- What is less than half a unit away from a whole number goes to it. -/
theorem wholeUnits_eq {units n : Nat} (hlow : n * (2 * unitsPerOne) ≤ 2 * units + unitsPerOne)
    (hhigh : 2 * units + unitsPerOne < (n + 1) * (2 * unitsPerOne)) :
    wholeUnits units = n * unitsPerOne := by
  unfold wholeUnits
  rw [Nat.div_eq_of_lt_le hlow hhigh]

theorem wholeUnits_mul (n : Nat) : wholeUnits (n * unitsPerOne) = n * unitsPerOne := by
  have hpos := unitsPerOne_pos
  have hdouble : n * (2 * unitsPerOne) = 2 * (n * unitsPerOne) := Nat.mul_left_comm ..
  apply wholeUnits_eq
  · omega
  · rw [Nat.add_mul n 1]
    omega

theorem representable_wholeUnits {units : Nat} (fits : Representable units) :
    Representable (wholeUnits units) := by
  have hpos := unitsPerOne_pos
  by_cases hlarge : 2 ^ 52 * unitsPerOne ≤ units
  · -- such a double has no fraction
    have hdvd : unitsPerOne ∣ units := by
      unfold unitsPerOne at hlarge ⊢
      apply two_pow_dvd_of_precise fits.1
      exact hlarge
    have hwhole := wholeUnits_mul (units / unitsPerOne)
    rw [Nat.div_mul_cancel hdvd] at hwhole
    rwa [hwhole]
  · unfold wholeUnits
    apply representable_ones
    apply Nat.le_of_lt_succ
    rw [Nat.div_lt_iff_lt_mul (by omega)]
    omega

/-- A map that keeps the order of sizes and fixes zero keeps the order of signed sizes. -/
theorem signed_le_signed {f : Nat → Nat} (hmono : ∀ m n, m ≤ n → f m ≤ f n) (hzero : f 0 = 0)
    {a b : Bool} {m n : Nat} (h : signed a m ≤ signed b n) : signed a (f m) ≤ signed b (f n) := by
  have hmn := hmono m n
  have hnm := hmono n m
  cases a <;> cases b <;> simp only [signed_false, signed_true] at h ⊢
  · omega
  · obtain ⟨rfl, rfl⟩ : m = 0 ∧ n = 0 := by omega
    omega
  · omega
  · omega

namespace Binary64

theorem round_finite (negative : Bool) {units : Nat} (fits : Representable units) :
    (finite negative units fits).round =
      finite negative (wholeUnits units) (representable_wholeUnits fits) :=
  ofUnits_of_representable negative (representable_wholeUnits fits)

theorem isFinite_round {x : Binary64} (hx : x.isFinite = true) : x.round.isFinite = true := by
  obtain ⟨negative, units, fits, rfl⟩ := exists_of_isFinite hx
  rw [round_finite]
  rfl

theorem place_round_mono {x y : Binary64} (hx : x.isFinite = true) (hy : y.isFinite = true)
    (h : x.place ≤ y.place) : x.round.place ≤ y.round.place := by
  obtain ⟨a, m, hm, rfl⟩ := exists_of_isFinite hx
  obtain ⟨b, n, hn, rfl⟩ := exists_of_isFinite hy
  rw [round_finite, round_finite]
  exact signed_le_signed (fun _ _ => wholeUnits_mono) wholeUnits_zero h

theorem tenThousand_eq :
    (10000 : Binary64) = finite false (10000 * unitsPerOne) (representable_ones (by decide)) := by
  change ofNat 10000 = _
  unfold ofNat
  exact ofUnits_of_representable false _

end Binary64

end Assay.Number

namespace Assay.Draw

open Number Binary64

theorem isFinite_tenThousand : (10000 : Binary64).isFinite = true := by
  rw [tenThousand_eq]
  rfl

theorem place_tenThousand_nonneg : 0 ≤ (10000 : Binary64).place := by
  rw [tenThousand_eq, place_finite, signed_false]
  exact Int.natCast_nonneg _

/-- Scaling up stays in the finite range between two bounds for which it does. -/
theorem isFinite_scaled {low x high : Binary64} (hlow : low.isFinite = true)
    (hx : x.isFinite = true) (hhigh : high.isFinite = true)
    (hscaledLow : (low * 10000).isFinite = true) (hscaledHigh : (high * 10000).isFinite = true)
    (hle : low.place ≤ x.place) (hle' : x.place ≤ high.place) : (x * 10000).isFinite = true := by
  have hten := isFinite_tenThousand
  have hbelow := place_mul_mono hlow hx hten place_tenThousand_nonneg hle
  have habove := place_mul_mono hx hhigh hten place_tenThousand_nonneg hle'
  exact isFinite_of_between hscaledLow (place_mul hx hten).1 hscaledHigh hbelow habove

theorem roundToFourPlaces_eq (x : Binary64) : roundToFourPlaces x =
    (x * 10000).round / finite false (10000 * unitsPerOne) (representable_ones (by decide)) := by
  rw [← tenThousand_eq]
  rfl

theorem isFinite_roundToFourPlaces {x : Binary64} (hscaled : (x * 10000).isFinite = true) :
    (roundToFourPlaces x).isFinite = true := by
  rw [roundToFourPlaces_eq]
  exact isFinite_div (isFinite_round hscaled) _ (Nat.le_mul_of_pos_left unitsPerOne (by decide))

theorem place_roundToFourPlaces_mono {x y : Binary64} (hx : x.isFinite = true)
    (hy : y.isFinite = true) (hscaledX : (x * 10000).isFinite = true)
    (hscaledY : (y * 10000).isFinite = true) (h : x.place ≤ y.place) :
    (roundToFourPlaces x).place ≤ (roundToFourPlaces y).place := by
  have hscaled := place_mul_mono hx hy isFinite_tenThousand place_tenThousand_nonneg h
  have hround := place_round_mono hscaledX hscaledY hscaled
  rw [roundToFourPlaces_eq, roundToFourPlaces_eq]
  exact place_div_mono (isFinite_round hscaledX) (isFinite_round hscaledY) _
    (Nat.mul_pos (by decide) unitsPerOne_pos) hround

/-- The double of a decimal with four digits after the point, scaled up, is less than half a unit
away from the digits. -/
theorem nearest_tenThousandth {n j one : Nat} (hn : n < 2 ^ 50) (hone : one = 2 ^ 16 * 2 ^ j) :
    n * (2 * one) ≤ 2 * nearest (nearest (n * one) 10000 * 10000) 1 + one ∧
      2 * nearest (nearest (n * one) 10000 * 10000) 1 + one < (n + 1) * (2 * one) := by
  have hpow := Nat.two_pow_pos j
  have hcover : n * one + one ≤ 2 ^ 50 * one := by
    rw [← Nat.succ_mul]
    exact Nat.mul_le_mul_right one hn
  have hdouble : n * (2 * one) = 2 * (n * one) := Nat.mul_left_comm ..
  rw [Nat.add_mul n 1, hdouble]
  generalize n * one = units at *
  -- the double is at most `2 ^ j` away from the quotient
  have hexcess : excessBits (units / 10000) ≤ j := by
    apply excessBits_le
    rw [Nat.pow_add]
    omega
  have hunit := Nat.pow_le_pow_right (n := 2) (by decide) hexcess
  have hup := nearest_le_add units 10000 rfl
  have hdown := le_nearest_add units 10000 rfl
  generalize nearest units 10000 = double at *
  -- and scaling it up adds at most `2 ^ (13 + j)`
  have hexcess' : excessBits (double * 10000 / 1) ≤ 13 + j := by
    apply excessBits_le
    rw [Nat.div_one, Nat.pow_add, Nat.pow_add 2 13]
    omega
  have hunit' := Nat.pow_le_pow_right (n := 2) (by decide) hexcess'
  have hup' := nearest_le_add (double * 10000) 1 rfl
  have hdown' := le_nearest_add (double * 10000) 1 rfl
  rw [Nat.pow_add] at hunit'
  rw [Nat.div_one] at hup' hdown' hunit'
  omega

theorem nearest_tenThousandth_lt {n : Nat} (hn : n < 2 ^ 50) :
    nearest (n * unitsPerOne) 10000 ≤ n * unitsPerOne ∧
      nearest (n * unitsPerOne) 10000 < sizeLimit := by
  have hfits : Representable (n * unitsPerOne) := representable_ones (by omega)
  have hle : nearest (n * unitsPerOne) 10000 ≤ n * unitsPerOne :=
    nearest_le (by decide) hfits.1 (Nat.le_mul_of_pos_right _ (by decide))
  exact ⟨hle, Nat.lt_of_le_of_lt hle hfits.2⟩

/-- Scaled up, a decimal with four digits after the point rounds to its digits. -/
theorem scaled_tenThousandth (negative : Bool) {n : Nat} (hn : n < 2 ^ 50) :
    ∃ units fits, ofRatio negative (n * unitsPerOne) 10000 * 10000 = finite negative units fits ∧
      wholeUnits units = n * unitsPerOne := by
  have hpos := unitsPerOne_pos
  have hone : unitsPerOne = 2 ^ 16 * 2 ^ 1058 := by
    apply unitsPerOne_eq_mul
    rfl
  obtain ⟨hlow, hhigh⟩ := nearest_tenThousandth hn hone
  have hscaled : nearest (nearest (n * unitsPerOne) 10000 * (10000 * unitsPerOne)) unitsPerOne =
      nearest (nearest (n * unitsPerOne) 10000 * 10000) 1 := by
    have hfactor := nearest_mul_mul (nearest (n * unitsPerOne) 10000 * 10000) Nat.one_pos hpos
    rwa [Nat.one_mul, Nat.mul_assoc] at hfactor
  have hlt : nearest (nearest (n * unitsPerOne) 10000 * 10000) 1 < sizeLimit := by
    have hlimit := (representable_ones (n := n + 1) (by omega)).2
    have hdouble : (n + 1) * (2 * unitsPerOne) = 2 * ((n + 1) * unitsPerOne) :=
      Nat.mul_left_comm ..
    omega
  rw [← hscaled] at hlow hhigh hlt
  refine ⟨_, nearest_representable hlt, ?_, wholeUnits_eq hlow hhigh⟩
  rw [ofRatio_of_lt negative (nearest_tenThousandth_lt hn).2, tenThousand_eq, finite_mul_finite,
    Bool.bne_false, ofRatio_of_lt negative hlt]

/-- A decimal with at most four digits after the point that is not very large. -/
def FourPlaces (x : Binary64) : Prop :=
  ∃ negative digits k, k ≤ 4 ∧ digits * 10 ^ (4 - k) < 2 ^ 50 ∧
    x = ofDecimal negative digits (-(k : Nat))

namespace FourPlaces

variable {x : Binary64} (h : FourPlaces x)
include h

theorem exists_ofRatio :
    ∃ negative n, n < 2 ^ 50 ∧ x = ofRatio negative (n * unitsPerOne) 10000 := by
  obtain ⟨negative, digits, k, hk, hdigits, hx⟩ := h
  refine ⟨negative, digits * 10 ^ (4 - k), hdigits, ?_⟩
  have hpow : 10000 = 10 ^ k * 10 ^ (4 - k) := by
    rw [← Nat.pow_add, Nat.add_sub_cancel' hk]
  rw [hx, ofDecimal_neg, hpow, Nat.mul_right_comm]
  exact ofRatio_congr negative (nearest_mul_mul _ (Nat.pow_pos (by decide))
    (Nat.pow_pos (by decide))).symm

theorem isFinite : x.isFinite = true := by
  obtain ⟨negative, n, hn, hx⟩ := h.exists_ofRatio
  rw [hx, ofRatio_of_lt negative (nearest_tenThousandth_lt hn).2]
  rfl

theorem natAbs_place_le : x.place.natAbs ≤ 2 ^ 50 * unitsPerOne := by
  obtain ⟨negative, n, hn, hx⟩ := h.exists_ofRatio
  rw [hx, ofRatio_of_lt negative (nearest_tenThousandth_lt hn).2, place_finite, natAbs_signed]
  exact Nat.le_trans (nearest_tenThousandth_lt hn).1 (Nat.mul_le_mul_right _ (Nat.le_of_lt hn))

theorem isFinite_scaled : (x * 10000).isFinite = true := by
  obtain ⟨negative, n, hn, hx⟩ := h.exists_ofRatio
  obtain ⟨units, fits, hscaled, -⟩ := scaled_tenThousandth negative hn
  rw [hx, hscaled]
  rfl

/-- Such decimals are left alone. -/
theorem roundToFourPlaces_eq : roundToFourPlaces x = x := by
  obtain ⟨negative, n, hn, hx⟩ := h.exists_ofRatio
  obtain ⟨units, fits, hscaled, hwhole⟩ := scaled_tenThousandth negative hn
  rw [hx, Draw.roundToFourPlaces_eq, hscaled, round_finite,
    finite_congr negative hwhole (representable_ones (by omega)),
    finite_div_finite _ _ _ _ (Nat.mul_pos (by decide) unitsPerOne_pos), Bool.bne_false]
  exact ofRatio_congr negative (nearest_mul_mul _ (by decide) unitsPerOne_pos)

end FourPlaces

end Assay.Draw
