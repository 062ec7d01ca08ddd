import Assay.Proofs.Number.Order
import Assay.Random.Uniform

/-!
The scale of a range of doubles. It starts a little above the width of the range, so it is lowered
until the largest draw does not exceed the upper bound; a width that is not rounded up always
fits, hence a few steps are enough. Every draw then lies in the range.
-/

namespace Assay.Number

/-- What is scaled by the largest unit draw does not exceed the exact width, if it does not exceed
the rounded one. -/
theorem nearest_shrunk_le {width s c : Nat} (hc : 0 < c) (hs : s ≤ nearest width 1) :
    nearest (s * ((2 ^ 52 - 1) * c)) (2 ^ 52 * c) ≤ width := by
  have hden : 0 < 2 ^ 52 * c := Nat.mul_pos (by decide) hc
  by_cases hsmall : width ≤ 2 ^ 53
  · have hprecise := precise_of_le hsmall
    have hle : s ≤ width := Nat.le_trans hs (nearest_le Nat.one_pos hprecise (by omega))
    exact nearest_le hden hprecise (Nat.mul_le_mul hle (Nat.mul_le_mul_right c (by decide)))
  · -- the width without its excess bits is far enough below the rounded one
    have hlog : 53 ≤ width.log2 := (Nat.le_log2 (by omega)).mpr (by omega)
    have hlow : 2 ^ (52 + excessBits width) ≤ width :=
      two_pow_excess_le (by unfold excessBits; omega)
    generalize hk : excessBits width = k at hlow
    have hpow := Nat.two_pow_pos k
    have hup : nearest width 1 ≤ width / 2 ^ k * 2 ^ k + 2 ^ k := by
      have h := nearest_le_floor_add width 1 (k := k) (by rwa [Nat.div_one])
      rwa [Nat.div_one] at h
    have hfloor : 2 ^ 52 * 2 ^ k ≤ width / 2 ^ k * 2 ^ k := by
      refine Nat.mul_le_mul_right _ ((Nat.le_div_iff_mul_le hpow).mpr ?_)
      rwa [← Nat.pow_add]
    have hprecise : Precise (width / 2 ^ k * 2 ^ k) := by
      refine precise_mul_two_pow k (Nat.le_of_lt ?_)
      rw [← hk]
      exact div_excess_lt width
    refine Nat.le_trans (nearest_le hden hprecise ?_) (Nat.div_mul_le_self width (2 ^ k))
    generalize width / 2 ^ k * 2 ^ k = floor at hup hfloor
    have hscaled : s * (2 ^ 52 - 1) ≤ floor * 2 ^ 52 := by omega
    rw [← Nat.mul_assoc, ← Nat.mul_assoc]
    exact Nat.mul_le_mul_right c hscaled

/-- Dividing by the largest unit draw adds at most five units in the last place. -/
theorem nearest_stretched_le (d : Nat) {c : Nat} (hc : 0 < c) :
    nearest (d * (2 ^ 52 * c)) ((2 ^ 52 - 1) * c) ≤ d + 5 * 2 ^ excessBits d := by
  have hlt := lt_two_pow_excess d
  generalize excessBits d = k at hlt ⊢
  have hpow := Nat.two_pow_pos k
  have hdouble : 2 ^ (k + 1) = 2 * 2 ^ k := by rw [Nat.pow_succ, Nat.mul_comm]
  rw [Nat.pow_add] at hlt
  have hquotient : d * (2 ^ 52 * c) / ((2 ^ 52 - 1) * c) ≤ d + 3 * 2 ^ k := by
    rw [← Nat.mul_assoc, Nat.mul_div_mul_right _ _ hc]
    apply Nat.div_le_of_le_mul
    omega
  have hexcess : excessBits (d * (2 ^ 52 * c) / ((2 ^ 52 - 1) * c)) ≤ k + 1 := by
    apply excessBits_le
    rw [Nat.pow_add, hdouble]
    omega
  have hunit := Nat.pow_le_pow_right (n := 2) (by decide) hexcess
  have hround := nearest_le_add (d * (2 ^ 52 * c)) ((2 ^ 52 - 1) * c) rfl
  rw [hdouble] at hunit
  omega

theorem precise_sub_excess {n : Nat} (hn : Precise n) (hpos : 0 < n) :
    Precise (n - 2 ^ excessBits (n - 1)) := by
  have hlt := lt_two_pow_excess (n - 1)
  have hexcess : excessBits (n - 1) ≤ excessBits n := excessBits_mono (Nat.sub_le n 1)
  generalize excessBits (n - 1) = k at *
  obtain ⟨m, rfl⟩ : 2 ^ k ∣ n :=
    Nat.dvd_trans (Nat.pow_dvd_pow 2 hexcess) (Nat.dvd_of_mod_eq_zero hn)
  have hm : m ≤ 2 ^ 53 := by
    apply Nat.le_of_mul_le_mul_left _ (Nat.two_pow_pos k)
    rw [Nat.pow_add, Nat.mul_comm (2 ^ 53)] at hlt
    omega
  have hsub : 2 ^ k * m - 2 ^ k = (m - 1) * 2 ^ k := by
    rw [Nat.sub_mul, Nat.one_mul, Nat.mul_comm]
  rw [hsub]
  exact precise_mul_two_pow k (by omega)

end Assay.Number

namespace Assay.Number.Binary64

theorem below_finite {units : Nat} (fits : Representable units) (hpos : 0 < units) :
    ∃ fits', (finite false units fits).below =
      finite false (units - 2 ^ excessBits (units - 1)) fits' := by
  have hlt := Nat.lt_of_le_of_lt (Nat.sub_le units (2 ^ excessBits (units - 1))) fits.2
  refine ⟨⟨precise_sub_excess fits.1 hpos, hlt⟩, ?_⟩
  simp only [below, if_neg (Nat.ne_of_gt hpos)]
  exact ofUnits_of_representable false _

end Assay.Number.Binary64

namespace Assay.Random

open Number Binary64

/-- The units between a unit draw and the next one. -/
def unitStep : Nat := 2 ^ 1022

theorem unitStep_pos : 0 < unitStep := by
  unfold unitStep
  apply Nat.two_pow_pos

theorem unitsPerOne_eq : unitsPerOne = 2 ^ 52 * unitStep := by
  unfold unitStep
  apply unitsPerOne_eq_mul
  rfl

theorem mul_unitStep_lt {w : Nat} (hw : w < 2 ^ 52) : w * unitStep < unitsPerOne := by
  rw [unitsPerOne_eq]
  exact Nat.mul_lt_mul_of_pos_right hw unitStep_pos

theorem representable_steps {w : Nat} (hw : w < 2 ^ 52) : Representable (w * unitStep) := by
  have hone := (representable_ones (n := 1) (by decide)).2
  rw [Nat.one_mul] at hone
  refine ⟨?_, Nat.lt_trans (mul_unitStep_lt hw) hone⟩
  unfold unitStep
  apply precise_mul_two_pow
  omega

theorem largestUnit_eq :
    largestUnit = finite false ((2 ^ 52 - 1) * unitStep) (representable_steps (by decide)) := by
  have hunits : largestUnit = ofUnits false (unitsPerOne - unitStep) := by
    unfold largestUnit unitStep
    rfl
  rw [hunits, unitsPerOne_eq, ← Nat.sub_one_mul]
  exact ofUnits_of_representable false _

theorem place_largestUnit : largestUnit.place = ((2 ^ 52 - 1) * unitStep : Nat) := by
  rw [largestUnit_eq, place_finite, signed_false]

theorem isFinite_largestUnit : largestUnit.isFinite = true := by
  rw [largestUnit_eq]
  rfl

theorem largestUnit_le : 0 ≤ largestUnit.place ∧ largestUnit.place ≤ unitsPerOne := by
  rw [place_largestUnit]
  exact ⟨Int.natCast_nonneg _, Int.ofNat_le.mpr (Nat.le_of_lt (mul_unitStep_lt (by decide)))⟩

theorem isFinite_largestUnit_mul {scale : Binary64} (hfinite : scale.isFinite = true)
    (hpos : 0 ≤ scale.place) : (largestUnit * scale).isFinite = true :=
  (place_mul_le isFinite_largestUnit hfinite hpos largestUnit_le.1 largestUnit_le.2).1

theorem drawUnit_le (s : Source) :
    (drawUnit s).1.isFinite = true ∧ 0 ≤ (drawUnit s).1.place ∧
      (drawUnit s).1.place ≤ largestUnit.place := by
  rcases hnext : s.next64 with ⟨v, s'⟩
  have hw : (v >>> 12).toNat < 2 ^ 52 := by
    have hword := v.toNat_lt
    rw [UInt64.toNat_shiftRight]
    change _ >>> 12 < _
    rw [Nat.shiftRight_eq_div_pow]
    omega
  have hunit : (drawUnit s).1 = ofUnits false ((v >>> 12).toNat * unitStep) := by
    unfold unitStep
    simp only [drawUnit, hnext]
  rw [hunit, ofUnits_of_representable false (representable_steps hw), place_largestUnit,
    place_finite, signed_false]
  exact ⟨rfl, Int.natCast_nonneg _,
    Int.ofNat_le.mpr (Nat.mul_le_mul_right unitStep (Nat.le_sub_one_of_lt hw))⟩

/-- Bounds in order whose difference is in the finite range. -/
structure Spans (low high : Binary64) : Prop where
  finite_low : low.isFinite = true
  finite_high : high.isFinite = true
  finite_width : (high - low).isFinite = true
  ordered : high.lt low = false

/-- A scale whose draws do not exceed the upper bound. -/
structure Fits (low high scale : Binary64) : Prop where
  finite : scale.isFinite = true
  nonneg : 0 ≤ scale.place
  within : (largestUnit * scale + low).place ≤ high.place

section Spans

variable {low high : Binary64} (h : Spans low high)
include h

theorem Spans.place_le : low.place ≤ high.place := by
  have hordered := h.ordered
  have hlt := lt_iff_place (ne_nan_of_isFinite h.finite_high) (ne_nan_of_isFinite h.finite_low)
  rw [hordered] at hlt
  simpa using hlt

/-- The width of the range before and after it is rounded. -/
theorem Spans.exists_width :
    ∃ width : Nat, high.place = low.place + width ∧ (high - low).place = nearest width 1 := by
  have hle := h.place_le
  obtain ⟨width, hwidth⟩ := Int.eq_ofNat_of_zero_le (Int.sub_nonneg_of_le hle)
  refine ⟨width, by omega, ?_⟩
  obtain ⟨hnan, hplace⟩ := place_sub h.finite_high h.finite_low
  have hfinite := (isFinite_iff_place hnan).mp h.finite_width
  rw [hplace, hwidth, roundedPlace_natCast width Nat.one_pos, roundedSize] at hfinite ⊢
  omega

/-- A scale up to the rounded width fits. -/
theorem Spans.fits_of_le {scale : Binary64} (hfinite : scale.isFinite = true)
    (hpos : 0 ≤ scale.place) (hle : scale.place ≤ (high - low).place) : Fits low high scale := by
  obtain ⟨width, hwidth, hrounded⟩ := h.exists_width
  obtain ⟨units, hunits⟩ := Int.eq_ofNat_of_zero_le hpos
  have hproduct := isFinite_largestUnit_mul hfinite hpos
  have hshrunk : (largestUnit * scale).place ≤ width := by
    rw [mul_comm_of_isFinite isFinite_largestUnit hfinite, (place_mul hfinite isFinite_largestUnit).2,
      hunits, place_largestUnit, ← Int.natCast_mul]
    apply roundedPlace_natCast_le unitsPerOne_pos
    rw [unitsPerOne_eq]
    exact nearest_shrunk_le unitStep_pos (by omega)
  exact ⟨hfinite, hpos, place_add_le hproduct h.finite_low h.finite_high (by omega)⟩

theorem Spans.lt_iff {scale : Binary64} (hfinite : scale.isFinite = true) (hpos : 0 ≤ scale.place) :
    high.lt (scale * largestUnit + low) = true ↔
      high.place < (largestUnit * scale + low).place := by
  have hproduct := isFinite_largestUnit_mul hfinite hpos
  rw [mul_comm_of_isFinite hfinite isFinite_largestUnit]
  exact lt_iff_place (ne_nan_of_isFinite h.finite_high) (place_add hproduct h.finite_low).1

theorem Spans.place_div {d : Nat} (hd : (high - low).place = d) :
    (high - low) / largestUnit ≠ nan ∧ ((high - low) / largestUnit).place =
      roundedPlace (d * unitsPerOne : Nat) ((2 ^ 52 - 1) * unitStep) := by
  rw [largestUnit_eq, Int.natCast_mul, ← hd]
  exact Binary64.place_div h.finite_width _ (Nat.mul_pos (by decide) unitStep_pos)

/-- The first scale is in the finite range unless the bounds are very far apart. -/
theorem Spans.isFinite_div (hnear : high.place - low.place ≤ (2 ^ 51 * unitsPerOne : Nat)) :
    ((high - low) / largestUnit).isFinite = true := by
  obtain ⟨width, hwidth, hrounded⟩ := h.exists_width
  obtain ⟨hnan, hplace⟩ := h.place_div hrounded
  have hdouble := representable_ones (n := 2 ^ 52) (by decide)
  have hd : nearest width 1 ≤ 2 ^ 51 * unitsPerOne :=
    nearest_le Nat.one_pos (representable_ones (by decide)).1 (by omega)
  have hscale : nearest (nearest width 1 * unitsPerOne) ((2 ^ 52 - 1) * unitStep) ≤
      2 ^ 52 * unitsPerOne := by
    apply nearest_le (Nat.mul_pos (by decide) unitStep_pos) hdouble.1
    have hone : unitsPerOne ≤ 2 * ((2 ^ 52 - 1) * unitStep) := by
      rw [unitsPerOne_eq]
      omega
    calc nearest width 1 * unitsPerOne
        ≤ 2 ^ 51 * unitsPerOne * (2 * ((2 ^ 52 - 1) * unitStep)) := Nat.mul_le_mul hd hone
      _ = 2 ^ 52 * unitsPerOne * ((2 ^ 52 - 1) * unitStep) := by ring
  have hpos : 0 ≤ roundedPlace (nearest width 1 * unitsPerOne : Nat) ((2 ^ 52 - 1) * unitStep) :=
    roundedPlace_nonneg (Int.natCast_nonneg _) _
  have hle := roundedPlace_natCast_le (Nat.mul_pos (by decide) unitStep_pos) hscale
  have hlimit := hdouble.2
  rw [isFinite_iff_place hnan, hplace]
  omega

/-- Each step takes a unit in the last place off a scale that does not fit. -/
theorem Spans.fits_fitScale (fuel : Nat) {scale : Binary64} {width : Nat}
    (hwidth : (high - low).place = width) (hfinite : scale.isFinite = true)
    (hpos : 0 ≤ scale.place) (hle : scale.place ≤ (width + fuel * 2 ^ excessBits width : Nat)) :
    Fits low high (fitScale low high fuel scale) := by
  induction fuel generalizing scale with
  | zero =>
    apply h.fits_of_le hfinite hpos
    omega
  | succ fuel ih =>
    rw [fitScale]
    split
    · next hexceeds =>
      rw [h.lt_iff hfinite hpos] at hexceeds
      have hgt : (width : Int) < scale.place := by
        by_contra hsmall
        have hfits := (h.fits_of_le hfinite hpos (by omega)).within
        omega
      obtain ⟨negative, units, fits, rfl⟩ := exists_of_isFinite hfinite
      cases negative with
      | true =>
        rw [place_finite, signed_true] at hgt
        omega
      | false =>
        rw [place_finite, signed_false] at hgt hle
        obtain ⟨fits', hbelow⟩ := below_finite fits (by omega)
        have hunit : 2 ^ excessBits width ≤ 2 ^ excessBits (units - 1) :=
          Nat.pow_le_pow_right (by decide) (excessBits_mono (by omega))
        rw [hbelow]
        apply ih
        · rfl
        · exact Int.natCast_nonneg _
        · rw [place_finite, signed_false]
          rw [Nat.succ_mul] at hle
          omega
    · next hfits =>
      rw [h.lt_iff hfinite hpos, Int.not_lt] at hfits
      exact ⟨hfinite, hpos, hfits⟩

/-- The first scale is at most five units in the last place above the width. -/
theorem Spans.fits_scale {scale : Binary64} (hscale : scale? low high = some scale) :
    Fits low high scale := by
  unfold scale? at hscale
  dsimp only at hscale
  split at hscale
  · next hfinite =>
    rw [← Option.some.inj hscale]
    obtain ⟨width, -, hrounded⟩ := h.exists_width
    obtain ⟨-, hplace⟩ := h.place_div hrounded
    apply h.fits_fitScale 1000 hrounded hfinite
    · rw [hplace]
      exact roundedPlace_nonneg (Int.natCast_nonneg _) _
    · rw [hplace]
      apply roundedPlace_natCast_le (Nat.mul_pos (by decide) unitStep_pos)
      have hstretched := nearest_stretched_le (nearest width 1) unitStep_pos
      rw [← unitsPerOne_eq] at hstretched
      omega
  · cases hscale

end Spans

/-- Every draw with a scale that fits lies in the range. -/
theorem Fits.draw_mem {low high scale : Binary64} (hfits : Fits low high scale)
    (h : Spans low high) (s : Source) :
    (drawScaled low scale s).1.isFinite = true ∧ low.place ≤ (drawScaled low scale s).1.place ∧
      (drawScaled low scale s).1.place ≤ high.place := by
  obtain ⟨hunit, hpos, hle⟩ := drawUnit_le s
  simp only [drawScaled]
  generalize (drawUnit s).1 = unit at *
  obtain ⟨hproduct, hnonneg, -⟩ :=
    place_mul_le hunit hfits.finite hfits.nonneg hpos (Int.le_trans hle largestUnit_le.2)
  have hlargest := isFinite_largestUnit_mul hfits.finite hfits.nonneg
  have hlow : low.place ≤ (unit * scale + low).place :=
    le_place_add hproduct h.finite_low hnonneg
  have hhigh : (unit * scale + low).place ≤ high.place :=
    Int.le_trans (place_add_mono hproduct hlargest h.finite_low
      (place_mul_mono hunit isFinite_largestUnit hfits.finite hfits.nonneg hle)) hfits.within
  have hnan := (place_add hproduct h.finite_low).1
  exact ⟨isFinite_of_between h.finite_low hnan h.finite_high hlow hhigh, hlow, hhigh⟩

end Assay.Random
