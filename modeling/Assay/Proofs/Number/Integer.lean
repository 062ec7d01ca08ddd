import Assay.Proofs.Number.Order

/-!
Integers as doubles: an integer is rounded to fifty-three significant bits, which is the nearest
such integer, and the double is exactly the rounded integer as long as that is in the finite range.
Doubles that are integers are compared as integers, and become words as long as they fit.
-/

namespace Assay.Number

/-- The integer with at most fifty-three significant bits nearest to `n`. -/
def roundedInteger (n : Int) : Int := signed (n < 0) (nearest n.natAbs 1)

theorem roundedInteger_signed (negative : Bool) (size : Nat) :
    roundedInteger (signed negative size) = signed negative (nearest size 1) := by
  unfold roundedInteger
  rw [natAbs_signed]
  exact signed_lt_zero (f := fun size => nearest size 1) (by decide) negative size

/-- An integer with at most fifty-three significant bits. -/
theorem precise_natAbs {t : Int} (k : Nat) (ht : t.natAbs ≤ 2 ^ 53) :
    Precise (t * 2 ^ k).natAbs := by
  rw [Int.natAbs_mul, Int.natAbs_pow]
  exact precise_mul_two_pow k ht

/-- Integers with at most fifty-three significant bits stay as they are. -/
theorem roundedInteger_mul_two_pow {t : Int} (k : Nat) (ht : t.natAbs ≤ 2 ^ 53) :
    roundedInteger (t * 2 ^ k) = t * 2 ^ k := by
  have hprecise := precise_natAbs k ht
  obtain ⟨negative, size, hsize⟩ := exists_signed (t * 2 ^ k)
  rw [hsize, natAbs_signed] at hprecise
  have hfixed := nearest_mul hprecise Nat.one_pos
  rw [Nat.mul_one] at hfixed
  rw [hsize, roundedInteger_signed, hfixed]

/-- No other integer with at most fifty-three significant bits is closer. -/
theorem roundedInteger_closest (n : Int) {t : Int} (k : Nat) (ht : t.natAbs ≤ 2 ^ 53) :
    |n - roundedInteger n| ≤ |n - t * 2 ^ k| := by
  obtain ⟨negative, size, rfl⟩ := exists_signed n
  have hclosest := nearest_closest size Nat.one_pos (precise_natAbs k ht)
  rw [Nat.cast_one, Int.mul_one, Int.mul_one] at hclosest
  have hsize : |signed negative size - signed negative (nearest size 1)| =
      |(size : Int) - nearest size 1| := by
    cases negative with
    | false => rfl
    | true =>
      rw [signed_true, signed_true, ← abs_neg]
      congr 1
      omega
  rw [roundedInteger_signed, hsize]
  refine Int.le_trans hclosest ?_
  have htriangle := abs_abs_sub_abs_le (signed negative size) (t * 2 ^ k)
  rwa [Int.abs_eq_natAbs (signed negative size), Int.abs_eq_natAbs (t * 2 ^ k), natAbs_signed]
    at htriangle

namespace Binary64

theorem nearest_mul_unitsPerOne (size : Nat) :
    nearest (size * unitsPerOne) 1 = nearest size 1 * unitsPerOne := by
  unfold unitsPerOne
  apply nearest_mul_two_pow

theorem isIntegral_ones (negative : Bool) {n : Nat} (fits : Representable (n * unitsPerOne)) :
    (finite negative (n * unitsPerOne) fits).isIntegral = true := by
  simp only [isIntegral, Nat.mul_mod_left, beq_self_eq_true]

theorem truncate_ones (negative : Bool) {n : Nat} (fits : Representable (n * unitsPerOne)) :
    (finite negative (n * unitsPerOne) fits).truncate = signed negative n := by
  simp only [truncate, Nat.mul_div_cancel n unitsPerOne_pos, signed]

/-- The double of an integer is the rounded integer, unless it is out of the finite range, and then
the rounded integer is far out of the range of a word. -/
theorem ofRatio_integer (negative : Bool) (size : Nat) :
    ((ofRatio negative (size * unitsPerOne) 1).isIntegral = true ∧
        (ofRatio negative (size * unitsPerOne) 1).truncate =
          roundedInteger (signed negative size)) ∨
      ((ofRatio negative (size * unitsPerOne) 1).isIntegral = false ∧
        2 ^ 64 < (roundedInteger (signed negative size)).natAbs) := by
  have hunits := nearest_mul_unitsPerOne size
  rw [roundedInteger_signed, natAbs_signed]
  by_cases hlt : nearest (size * unitsPerOne) 1 < sizeLimit
  · refine .inl ?_
    have hfits := nearest_representable hlt
    rw [hunits] at hfits
    rw [ofRatio_of_lt negative hlt, finite_congr negative hunits hfits]
    exact ⟨isIntegral_ones negative hfits, truncate_ones negative hfits⟩
  · refine .inr ⟨?_, ?_⟩
    · rw [ofRatio_of_not_lt negative hlt]
      rfl
    · by_contra hle
      rw [hunits] at hlt
      exact absurd (mul_unitsPerOne_lt (Nat.not_lt.mp hle)) hlt

theorem natCast_unitsPerOne_pos : (0 : Int) < unitsPerOne := Int.natCast_pos.2 unitsPerOne_pos

/-- A double that is exactly the integer `n`. -/
def IsInteger (x : Binary64) (n : Int) : Prop := x.units? = some (n * unitsPerOne)

instance (x : Binary64) (n : Int) : Decidable (x.IsInteger n) :=
  inferInstanceAs (Decidable (x.units? = some (n * unitsPerOne)))

theorem isInteger_iff {x : Binary64} {n : Int} :
    x.IsInteger n ↔ x.isFinite = true ∧ x.place = n * unitsPerOne := by
  cases x with
  | nan => exact ⟨fun h => (nomatch h), fun h => (nomatch h.1)⟩
  | infinite negative => exact ⟨fun h => (nomatch h), fun h => (nomatch h.1)⟩
  | finite negative units fits =>
    constructor
    · intro h
      exact ⟨rfl, Option.some.inj h⟩
    · rintro ⟨-, h⟩
      exact congrArg some h

theorem isInteger_truncate {x : Binary64} (h : x.isIntegral = true) : x.IsInteger x.truncate := by
  cases x with
  | nan => cases h
  | infinite negative => cases h
  | finite negative units fits =>
    have hdvd : unitsPerOne ∣ units := Nat.dvd_of_mod_eq_zero (by simpa [isIntegral] using h)
    have hunits : ((units / unitsPerOne : Nat) : Int) * (unitsPerOne : Nat) = units := by
      rw [← Int.natCast_mul, Nat.div_mul_cancel hdvd]
    cases negative with
    | false => exact congrArg some hunits.symm
    | true => exact congrArg some ((congrArg Neg.neg hunits.symm).trans (Int.neg_mul _ _).symm)

namespace IsInteger

variable {x y : Binary64} {m n : Int}

theorem unique (hm : x.IsInteger m) (hn : x.IsInteger n) : m = n := by
  have hunits : m * unitsPerOne = n * unitsPerOne := Option.some.inj (hm.symm.trans hn)
  exact Int.eq_of_mul_eq_mul_right (Int.ne_of_gt natCast_unitsPerOne_pos) hunits

theorem isIntegral (h : x.IsInteger n) : x.isIntegral = true := by
  cases x with
  | nan => cases h
  | infinite negative => cases h
  | finite negative units fits =>
    have hplace := congrArg Int.natAbs (isInteger_iff.1 h).2
    rw [place_finite, natAbs_signed, Int.natAbs_mul, Int.natAbs_natCast] at hplace
    simp [Binary64.isIntegral, hplace]

theorem truncate_eq (h : x.IsInteger n) : x.truncate = n :=
  (isInteger_truncate h.isIntegral).unique h

/-- Doubles that are integers are compared as those. -/
theorem lt_iff (hx : x.IsInteger m) (hy : y.IsInteger n) : x.lt y = true ↔ m < n := by
  obtain ⟨hfinite, hplace⟩ := isInteger_iff.1 hx
  obtain ⟨hfinite', hplace'⟩ := isInteger_iff.1 hy
  rw [lt_iff_place (ne_nan_of_isFinite hfinite) (ne_nan_of_isFinite hfinite'), hplace, hplace']
  exact Int.mul_lt_mul_right natCast_unitsPerOne_pos

theorem le_iff (hx : x.IsInteger m) (hy : y.IsInteger n) : x.le y = true ↔ m ≤ n := by
  obtain ⟨hfinite, hplace⟩ := isInteger_iff.1 hx
  obtain ⟨hfinite', hplace'⟩ := isInteger_iff.1 hy
  rw [le_iff_place hfinite hfinite', hplace, hplace']
  exact Int.mul_le_mul_right natCast_unitsPerOne_pos

/-- An integer that fits into a word becomes that word. -/
theorem toInt_toInt64 (h : x.IsInteger n) (hlow : -(2 ^ 63) ≤ n) (hhigh : n < 2 ^ 63) :
    x.toInt64.toInt = n := by
  rw [toInt64_of_isFinite (isInteger_iff.1 h).1, h.truncate_eq, Int64.toInt_ofIntClamp]
  · rwa [Int64.toInt_minValue]
  · rw [Int64.toInt_maxValue]
    omega

end IsInteger

/-- The least word is a double. -/
theorem isInteger_least : (ofInt Int64.minValue.toInt).IsInteger (-(2 ^ 63)) := by decide +kernel

/-- The greatest word is none, and the double nearest to it is the next integer. -/
theorem isInteger_greatest : (ofInt Int64.maxValue.toInt).IsInteger (2 ^ 63) := by decide +kernel

/-- The greatest signed word has too many significant bits for a double. -/
theorem IsInteger.ne_greatest {x : Binary64} {n : Int} (h : x.IsInteger n) : n ≠ 2 ^ 63 - 1 := by
  rintro rfl
  cases x with
  | nan => cases h
  | infinite negative => cases h
  | finite negative units fits =>
    have hunits := Option.some.inj h
    cases negative with
    | false =>
      have hvalue : (units : Int) = (2 ^ 63 - 1) * unitsPerOne := hunits
      have hnot : ¬Representable ((2 ^ 63 - 1) * unitsPerOne) := by decide +kernel
      have hsame : units = (2 ^ 63 - 1) * unitsPerOne := by omega
      exact hnot (hsame ▸ fits)
    | true =>
      have hpos := unitsPerOne_pos
      have hvalue : -(units : Int) = (2 ^ 63 - 1) * unitsPerOne := hunits
      omega

end Binary64

end Assay.Number
