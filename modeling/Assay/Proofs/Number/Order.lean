import Assay.Proofs.Number.Nearest

/-!
Doubles on a line. The place of a double is its signed number of units, and the infinities stand
at the ends of the finite range; comparing doubles is comparing places, and every operation goes
to the place of the exact result, rounded.
-/

namespace Assay.Number

theorem sizeLimit_pos : 0 < sizeLimit := by
  unfold sizeLimit
  exact Nat.two_pow_pos 2098

theorem unitsPerOne_pos : 0 < unitsPerOne := by
  unfold unitsPerOne
  exact Nat.two_pow_pos 1074

theorem unitsPerOne_eq_mul {m n : Nat} (h : 1074 = m + n) : unitsPerOne = 2 ^ m * 2 ^ n := by
  unfold unitsPerOne
  rw [h, Nat.pow_add]

/-- The integers of a signed word are in the finite range. -/
theorem mul_unitsPerOne_lt {n : Nat} (hn : n ≤ 2 ^ 64) : n * unitsPerOne < sizeLimit := by
  have hpow {i j k : Nat} (h : i + j < k) : 2 ^ i * 2 ^ j < 2 ^ k := by
    rw [← Nat.pow_add]
    exact Nat.pow_lt_pow_right (by decide) h
  have hlimit : 2 ^ 64 * unitsPerOne < sizeLimit := by
    unfold unitsPerOne sizeLimit
    apply hpow
    decide
  exact Nat.lt_of_le_of_lt (Nat.mul_le_mul_right _ hn) hlimit

theorem representable_ones {n : Nat} (hn : n ≤ 2 ^ 53) : Representable (n * unitsPerOne) := by
  have hprecise : Precise (n * unitsPerOne) := by
    unfold unitsPerOne
    apply precise_mul_two_pow
    exact hn
  exact ⟨hprecise, mul_unitsPerOne_lt (Nat.le_trans hn (by decide))⟩

/-- A number of units with a sign. -/
def signed (negative : Bool) (units : Nat) : Int := if negative then -units else units

@[simp] theorem signed_false (units : Nat) : signed false units = units := rfl

@[simp] theorem signed_true (units : Nat) : signed true units = -units := rfl

@[simp] theorem natAbs_signed (negative : Bool) (units : Nat) :
    (signed negative units).natAbs = units := by
  cases negative <;> simp

theorem signed_mul (a b : Bool) (m n : Nat) : signed a m * signed b n = signed (a != b) (m * n) := by
  cases a <;> cases b <;> simp

/-- The size a quotient is rounded to; what is too large stays at the end of the finite range. -/
def roundedSize (num den : Nat) : Nat := min (nearest num den) sizeLimit

/-- The place a quotient is rounded to. -/
def roundedPlace (num : Int) (den : Nat) : Int := signed (num < 0) (roundedSize num.natAbs den)

theorem roundedSize_mono {num den num' den' : Nat} (hden : 0 < den) (hden' : 0 < den')
    (h : num * den' ≤ num' * den) : roundedSize num den ≤ roundedSize num' den' := by
  have hmono := nearest_mono hden hden' h
  unfold roundedSize
  omega

theorem roundedSize_zero {den : Nat} (hden : 0 < den) : roundedSize 0 den = 0 := by
  have h : nearest 0 den ≤ 0 := nearest_le hden (precise_of_le (Nat.zero_le _)) (Nat.zero_le _)
  unfold roundedSize
  omega

/-- The sign of a signed size, given to another size that is zero with it. -/
theorem signed_lt_zero {f : Nat → Nat} (hzero : f 0 = 0) (negative : Bool) (units : Nat) :
    signed (signed negative units < 0) (f units) = signed negative (f units) := by
  cases negative with
  | false => simp [show ¬(units : Int) < 0 by omega]
  | true =>
    rcases Nat.eq_zero_or_pos units with rfl | hpos
    · simp [hzero]
    · simp [hpos]

theorem roundedPlace_signed (negative : Bool) (num : Nat) {den : Nat} (hden : 0 < den) :
    roundedPlace (signed negative num) den = signed negative (roundedSize num den) := by
  unfold roundedPlace
  rw [natAbs_signed]
  exact signed_lt_zero (f := fun num => roundedSize num den) (roundedSize_zero hden) negative num

theorem roundedPlace_natCast (num : Nat) {den : Nat} (hden : 0 < den) :
    roundedPlace num den = roundedSize num den :=
  roundedPlace_signed false num hden

theorem roundedPlace_natCast_le {num den k : Nat} (hden : 0 < den) (h : nearest num den ≤ k) :
    roundedPlace num den ≤ k := by
  rw [roundedPlace_natCast num hden]
  exact Int.ofNat_le.mpr (Nat.le_trans (Nat.min_le_left _ _) h)

theorem exists_signed (n : Int) : ∃ negative units, n = signed negative units := by
  rcases Int.le_total 0 n with h | h
  · exact ⟨false, n.natAbs, by simp [Int.natAbs_of_nonneg h]⟩
  · exact ⟨true, n.natAbs, by simp [Int.ofNat_natAbs_of_nonpos h]⟩

/-- Rounding keeps the order. -/
theorem roundedPlace_mono {num num' : Int} {den den' : Nat} (hden : 0 < den) (hden' : 0 < den')
    (h : num * den' ≤ num' * den) : roundedPlace num den ≤ roundedPlace num' den' := by
  obtain ⟨a, m, rfl⟩ := exists_signed num
  obtain ⟨b, n, rfl⟩ := exists_signed num'
  rw [roundedPlace_signed a m hden, roundedPlace_signed b n hden']
  cases a with
  | false =>
    cases b with
    | false =>
      simp only [signed_false] at h ⊢
      exact_mod_cast roundedSize_mono hden hden' (by exact_mod_cast h)
    | true =>
      -- neither side is anything but zero
      have hm : 0 ≤ (m : Int) * den' := by positivity
      have hn : 0 ≤ (n : Int) * den := by positivity
      simp only [signed_false, signed_true, Int.neg_mul] at h ⊢
      have hm' : (m : Int) * den' = 0 := by omega
      have hn' : (n : Int) * den = 0 := by omega
      have hmz : m = 0 := by
        have hprod : m * den' = 0 := by exact_mod_cast hm'
        exact (Nat.mul_eq_zero.mp hprod).resolve_right (Nat.ne_of_gt hden')
      have hnz : n = 0 := by
        have hprod : n * den = 0 := by exact_mod_cast hn'
        exact (Nat.mul_eq_zero.mp hprod).resolve_right (Nat.ne_of_gt hden)
      rw [hmz, hnz, roundedSize_zero hden, roundedSize_zero hden']
      simp
  | true =>
    cases b with
    | false =>
      simp only [signed_false, signed_true]
      omega
    | true =>
      simp only [signed_true, Int.neg_mul] at h ⊢
      have hsize : roundedSize n den' ≤ roundedSize m den := by
        apply roundedSize_mono hden' hden
        have hcross : (n : Int) * den ≤ m * den' := by omega
        exact_mod_cast hcross
      omega

theorem roundedPlace_nonneg {num : Int} (h : 0 ≤ num) (den : Nat) : 0 ≤ roundedPlace num den := by
  unfold roundedPlace
  simp [Int.not_lt.mpr h]

namespace Binary64

/-- Where a double stands, in units. -/
def place : Binary64 → Int
  | nan => 0
  | infinite negative => signed negative sizeLimit
  | finite negative units _ => signed negative units

@[simp] theorem place_nan : nan.place = 0 := rfl

@[simp] theorem place_infinite (negative : Bool) :
    (infinite negative).place = signed negative sizeLimit := rfl

@[simp] theorem place_finite (negative : Bool) (units : Nat) (fits : Representable units) :
    (finite negative units fits).place = signed negative units := rfl

theorem place_le (x : Binary64) : -(sizeLimit : Int) ≤ x.place ∧ x.place ≤ sizeLimit := by
  cases x with
  | nan =>
    rw [place_nan]
    omega
  | infinite negative =>
    cases negative <;> simp only [place_infinite, signed_false, signed_true] <;> omega
  | finite negative units fits =>
    have hlt := fits.2
    cases negative <;> simp only [place_finite, signed_false, signed_true] <;> omega

/-- A finite double stands strictly between the ends. -/
theorem isFinite_iff_place {x : Binary64} (hx : x ≠ nan) :
    x.isFinite = true ↔ -(sizeLimit : Int) < x.place ∧ x.place < sizeLimit := by
  cases x with
  | nan => exact absurd rfl hx
  | infinite negative =>
    cases negative <;>
      simp only [place_infinite, isFinite, signed_false, signed_true, Bool.false_eq_true,
        false_iff] <;> omega
  | finite negative units fits =>
    have hlt := fits.2
    cases negative <;>
      simp only [place_finite, isFinite, signed_false, signed_true, true_iff] <;> omega

theorem ne_nan_of_isFinite {x : Binary64} (h : x.isFinite = true) : x ≠ nan := by
  rintro rfl
  cases h

theorem isFinite_of_between {low x high : Binary64} (hlow : low.isFinite = true) (hx : x ≠ nan)
    (hhigh : high.isFinite = true) (hle : low.place ≤ x.place) (hle' : x.place ≤ high.place) :
    x.isFinite = true := by
  have hlimitLow := (isFinite_iff_place (ne_nan_of_isFinite hlow)).mp hlow
  have hlimitHigh := (isFinite_iff_place (ne_nan_of_isFinite hhigh)).mp hhigh
  rw [isFinite_iff_place hx]
  omega

/-- Comparing doubles is comparing their places. -/
theorem lt_iff_place {x y : Binary64} (hx : x ≠ nan) (hy : y ≠ nan) :
    x.lt y = true ↔ x.place < y.place := by
  have hlimit := sizeLimit_pos
  cases x with
  | nan => exact absurd rfl hx
  | infinite a =>
    cases y with
    | nan => exact absurd rfl hy
    | infinite b =>
      cases a <;> cases b <;>
        simp only [lt, place_infinite, signed_false, signed_true, Bool.false_and, Bool.true_and,
          Bool.not_false, Bool.not_true, Bool.false_eq_true, false_iff, true_iff] <;> omega
    | finite b n fits =>
      have hlt := fits.2
      cases a <;> cases b <;>
        simp only [lt, place_infinite, place_finite, signed_false, signed_true, Bool.false_eq_true,
          false_iff, true_iff] <;> omega
  | finite a m fits =>
    have hlt := fits.2
    cases y with
    | nan => exact absurd rfl hy
    | infinite b =>
      cases a <;> cases b <;>
        simp only [lt, place_infinite, place_finite, signed_false, signed_true, Bool.not_false,
          Bool.not_true, Bool.false_eq_true, false_iff, true_iff] <;> omega
    | finite b n fits' =>
      cases a <;> cases b <;>
        simp only [lt, place_finite, signed_false, signed_true, decide_eq_true_eq, Bool.or_eq_true,
          Bool.false_eq_true, false_iff] <;> omega

/-- Doubles are equal as numbers at equal places. -/
theorem equal_iff_place {x y : Binary64} (hx : x ≠ nan) (hy : y ≠ nan) :
    x.equal y = true ↔ x.place = y.place := by
  have hlimit := sizeLimit_pos
  cases x with
  | nan => exact absurd rfl hx
  | infinite a =>
    cases y with
    | nan => exact absurd rfl hy
    | infinite b =>
      cases a <;> cases b <;>
        simp only [equal, place_infinite, signed_false, signed_true, beq_iff_eq, reduceCtorEq,
          false_iff] <;> omega
    | finite b n fits =>
      have hlt := fits.2
      cases a <;> cases b <;>
        simp only [equal, place_infinite, place_finite, signed_false, signed_true,
          Bool.false_eq_true, false_iff] <;> omega
  | finite a m fits =>
    have hlt := fits.2
    cases y with
    | nan => exact absurd rfl hy
    | infinite b =>
      cases a <;> cases b <;>
        simp only [equal, place_infinite, place_finite, signed_false, signed_true,
          Bool.false_eq_true, false_iff] <;> omega
    | finite b n fits' =>
      cases a <;> cases b <;>
        simp only [equal, place_finite, signed_false, signed_true, reduceCtorEq, Bool.and_eq_true,
          Bool.or_eq_true, beq_iff_eq, false_or, true_or, and_true] <;> omega

/-- Zeros of both signs are equal, and nothing equals a not-a-number. -/
theorem equal_iff {x y : Binary64} :
    x.equal y = true ↔ x ≠ nan ∧ y ≠ nan ∧ x.place = y.place := by
  constructor
  · intro h
    have hx : x ≠ nan := by
      rintro rfl
      cases h
    have hy : y ≠ nan := by
      rintro rfl
      cases x <;> cases h
    exact ⟨hx, hy, (equal_iff_place hx hy).mp h⟩
  · rintro ⟨hx, hy, hplace⟩
    exact (equal_iff_place hx hy).mpr hplace

theorem le_iff_place {x y : Binary64} (hx : x.isFinite = true) (hy : y.isFinite = true) :
    x.le y = true ↔ x.place ≤ y.place := by
  have hx' := ne_nan_of_isFinite hx
  have hy' := ne_nan_of_isFinite hy
  rw [le, Bool.or_eq_true, equal_iff_place hx' hy', lt_iff_place hx' hy']
  omega

/-- At most, as numbers. -/
def AtMost (x y : Binary64) : Prop := x ≠ nan ∧ y ≠ nan ∧ y.lt x = false

theorem atMost_iff {x y : Binary64} (hx : x.isFinite = true) (hy : y.isFinite = true) :
    x.AtMost y ↔ x.place ≤ y.place := by
  have hx' := ne_nan_of_isFinite hx
  have hy' := ne_nan_of_isFinite hy
  rw [AtMost, ← Bool.not_eq_true, lt_iff_place hy' hx', Int.not_lt]
  exact ⟨fun h => h.2.2, fun h => ⟨hx', hy', h⟩⟩

theorem ofRatio_ne_nan (negative : Bool) (num den : Nat) : ofRatio negative num den ≠ nan := by
  unfold ofRatio
  dsimp only
  split <;> simp

theorem finite_congr (negative : Bool) {m n : Nat} (h : m = n) (hn : Representable n)
    {hm : Representable m} : finite negative m hm = finite negative n hn := by
  subst h
  rfl

theorem ofRatio_congr (negative : Bool) {num den num' den' : Nat}
    (h : nearest num den = nearest num' den') :
    ofRatio negative num den = ofRatio negative num' den' := by
  simp only [ofRatio, h]

theorem ofRatio_of_lt (negative : Bool) {num den : Nat} (h : nearest num den < sizeLimit) :
    ofRatio negative num den = finite negative (nearest num den) (nearest_representable h) := by
  unfold ofRatio
  exact dif_pos h

theorem ofRatio_of_not_lt (negative : Bool) {num den : Nat} (h : ¬nearest num den < sizeLimit) :
    ofRatio negative num den = infinite negative := by
  unfold ofRatio
  exact dif_neg h

theorem place_ofRatio (negative : Bool) (num : Nat) {den : Nat} (hden : 0 < den) :
    (ofRatio negative num den).place = roundedPlace (signed negative num) den := by
  rw [roundedPlace_signed negative num hden]
  unfold ofRatio roundedSize
  dsimp only
  split
  · next h => rw [Nat.min_eq_left (Nat.le_of_lt h), place]
  · next h => rw [Nat.min_eq_right (Nat.not_lt.mp h), place]

/-- The place of a finite double needs no rounding. -/
theorem roundedPlace_place {x : Binary64} (h : x.isFinite = true) {den : Nat} (hden : 0 < den) :
    roundedPlace (x.place * den) den = x.place := by
  cases x with
  | nan => cases h
  | infinite negative => cases h
  | finite negative units fits =>
    have hplace : signed negative units * den = signed negative (units * den) := by
      cases negative <;> simp
    rw [place, hplace, roundedPlace_signed negative _ hden, roundedSize,
      nearest_mul fits.1 hden, Nat.min_eq_left (Nat.le_of_lt fits.2)]

theorem exists_of_isFinite {x : Binary64} (h : x.isFinite = true) :
    ∃ negative units fits, x = finite negative units fits := by
  cases x with
  | nan => cases h
  | infinite negative => cases h
  | finite negative units fits => exact ⟨negative, units, fits, rfl⟩

theorem place_ofUnits (negative : Bool) (units : Nat) :
    (ofUnits negative units).place = roundedPlace (signed negative units) 1 :=
  place_ofRatio negative units Nat.one_pos

theorem ofUnits_ne_nan (negative : Bool) (units : Nat) : ofUnits negative units ≠ nan :=
  ofRatio_ne_nan negative units 1

theorem ofUnits_of_representable (negative : Bool) {units : Nat} (fits : Representable units) :
    ofUnits negative units = finite negative units fits := by
  have h := ofRatio_mul negative fits Nat.one_pos
  rwa [Nat.mul_one] at h

/-- A sum is the exact sum, rounded. -/
theorem place_add {x y : Binary64} (hx : x.isFinite = true) (hy : y.isFinite = true) :
    x + y ≠ nan ∧ (x + y).place = roundedPlace (x.place + y.place) 1 := by
  obtain ⟨a, m, hm, rfl⟩ := exists_of_isFinite hx
  obtain ⟨b, n, hn, rfl⟩ := exists_of_isFinite hy
  have hsum (negative : Bool) (units : Nat)
      (hunits : signed negative units = signed a m + signed b n) :
      ofUnits negative units ≠ nan ∧
        (ofUnits negative units).place = roundedPlace (signed a m + signed b n) 1 :=
    ⟨ofUnits_ne_nan _ _, by rw [place_ofUnits, hunits]⟩
  change add _ _ ≠ nan ∧ (add _ _).place = _
  simp only [add, place_finite]
  split_ifs with hsign heq hless
  · apply hsum
    subst hsign
    cases a with
    | false => simp
    | true =>
      simp only [signed_true, Nat.cast_add]
      omega
  · apply hsum
    subst heq
    cases a <;> cases b <;> simp at hsign ⊢
  · apply hsum
    cases a <;> cases b <;> simp at hsign ⊢ <;> omega
  · apply hsum
    cases a <;> cases b <;> simp at hsign ⊢ <;> omega

@[simp] theorem isFinite_neg (x : Binary64) : (-x).isFinite = x.isFinite := by
  change x.neg.isFinite = _
  cases x <;> rfl

theorem place_neg (x : Binary64) : (-x).place = -x.place := by
  change x.neg.place = _
  cases x with
  | nan => rfl
  | infinite negative =>
    cases negative <;>
      simp only [neg, place_infinite, signed_false, signed_true, Bool.not_false, Bool.not_true,
        Int.neg_neg]
  | finite negative units fits =>
    cases negative <;>
      simp only [neg, place_finite, signed_false, signed_true, Bool.not_false, Bool.not_true,
        Int.neg_neg]

theorem place_sub {x y : Binary64} (hx : x.isFinite = true) (hy : y.isFinite = true) :
    x - y ≠ nan ∧ (x - y).place = roundedPlace (x.place - y.place) 1 := by
  have h := place_add hx ((isFinite_neg y).trans hy)
  rwa [place_neg] at h

theorem place_add_mono {x x' y : Binary64} (hx : x.isFinite = true) (hx' : x'.isFinite = true)
    (hy : y.isFinite = true) (h : x.place ≤ x'.place) : (x + y).place ≤ (x' + y).place := by
  rw [(place_add hx hy).2, (place_add hx' hy).2]
  apply roundedPlace_mono Nat.one_pos Nat.one_pos
  omega

theorem place_add_le {x y z : Binary64} (hx : x.isFinite = true) (hy : y.isFinite = true)
    (hz : z.isFinite = true) (h : x.place + y.place ≤ z.place) : (x + y).place ≤ z.place := by
  rw [(place_add hx hy).2]
  refine Int.le_trans ?_ (Int.le_of_eq (roundedPlace_place hz Nat.one_pos))
  apply roundedPlace_mono Nat.one_pos Nat.one_pos
  omega

theorem le_place_add {x y : Binary64} (hx : x.isFinite = true) (hy : y.isFinite = true)
    (h : 0 ≤ x.place) : y.place ≤ (x + y).place := by
  rw [(place_add hx hy).2]
  refine Int.le_trans (Int.le_of_eq (roundedPlace_place hy Nat.one_pos).symm) ?_
  apply roundedPlace_mono Nat.one_pos Nat.one_pos
  omega

theorem finite_mul_finite (a b : Bool) {m n : Nat} (hm : Representable m) (hn : Representable n) :
    finite a m hm * finite b n hn = ofRatio (a != b) (m * n) unitsPerOne := by
  change mul _ _ = _
  simp only [mul]

/-- A product is the exact product, rounded. -/
theorem place_mul {x y : Binary64} (hx : x.isFinite = true) (hy : y.isFinite = true) :
    x * y ≠ nan ∧ (x * y).place = roundedPlace (x.place * y.place) unitsPerOne := by
  obtain ⟨a, m, hm, rfl⟩ := exists_of_isFinite hx
  obtain ⟨b, n, hn, rfl⟩ := exists_of_isFinite hy
  rw [finite_mul_finite, place_finite, place_finite, signed_mul]
  exact ⟨ofRatio_ne_nan _ _ _, place_ofRatio _ _ unitsPerOne_pos⟩

theorem mul_comm_of_isFinite {x y : Binary64} (hx : x.isFinite = true) (hy : y.isFinite = true) :
    x * y = y * x := by
  obtain ⟨a, m, hm, rfl⟩ := exists_of_isFinite hx
  obtain ⟨b, n, hn, rfl⟩ := exists_of_isFinite hy
  have hsign : (a != b) = (b != a) := by cases a <;> cases b <;> rfl
  rw [finite_mul_finite, finite_mul_finite, hsign, Nat.mul_comm m n]

theorem place_mul_mono {x x' y : Binary64} (hx : x.isFinite = true) (hx' : x'.isFinite = true)
    (hy : y.isFinite = true) (hpos : 0 ≤ y.place) (h : x.place ≤ x'.place) :
    (x * y).place ≤ (x' * y).place := by
  rw [(place_mul hx hy).2, (place_mul hx' hy).2]
  apply roundedPlace_mono unitsPerOne_pos unitsPerOne_pos
  exact Int.mul_le_mul_of_nonneg_right (Int.mul_le_mul_of_nonneg_right h hpos) (by omega)

/-- A fraction of a double lies between zero and it. -/
theorem place_mul_le {x y : Binary64} (hx : x.isFinite = true) (hy : y.isFinite = true)
    (hpos : 0 ≤ y.place) (hlow : 0 ≤ x.place) (hhigh : x.place ≤ unitsPerOne) :
    (x * y).isFinite = true ∧ 0 ≤ (x * y).place ∧ (x * y).place ≤ y.place := by
  have hnonneg : 0 ≤ (x * y).place := by
    rw [(place_mul hx hy).2]
    exact roundedPlace_nonneg (Int.mul_nonneg hlow hpos) unitsPerOne
  have hle : (x * y).place ≤ y.place := by
    rw [(place_mul hx hy).2]
    refine Int.le_trans ?_ (Int.le_of_eq (roundedPlace_place hy unitsPerOne_pos))
    apply roundedPlace_mono unitsPerOne_pos unitsPerOne_pos
    have hscaled := Int.mul_le_mul_of_nonneg_right hhigh hpos
    rw [Int.mul_comm (unitsPerOne : Int)] at hscaled
    exact Int.mul_le_mul_of_nonneg_right hscaled (by omega)
  have hlimit := (isFinite_iff_place (ne_nan_of_isFinite hy)).mp hy
  refine ⟨(isFinite_iff_place (place_mul hx hy).1).mpr ⟨?_, ?_⟩, hnonneg, hle⟩ <;> omega

theorem finite_div_finite (a b : Bool) {m n : Nat} (hm : Representable m) (hn : Representable n)
    (hpos : 0 < n) : finite a m hm / finite b n hn = ofRatio (a != b) (m * unitsPerOne) n := by
  change div _ _ = _
  simp only [div, if_neg (Nat.ne_of_gt hpos)]

/-- A quotient by a positive number is the exact quotient, rounded. -/
theorem place_div {x : Binary64} (hx : x.isFinite = true) {units : Nat}
    (fits : Representable units) (hpos : 0 < units) :
    x / finite false units fits ≠ nan ∧
      (x / finite false units fits).place = roundedPlace (x.place * unitsPerOne) units := by
  obtain ⟨a, m, hm, rfl⟩ := exists_of_isFinite hx
  rw [finite_div_finite _ _ _ _ hpos, place_finite, ← signed_false unitsPerOne, signed_mul]
  exact ⟨ofRatio_ne_nan _ _ _, place_ofRatio _ _ hpos⟩

theorem place_div_mono {x y : Binary64} (hx : x.isFinite = true) (hy : y.isFinite = true)
    {units : Nat} (fits : Representable units) (hpos : 0 < units) (h : x.place ≤ y.place) :
    (x / finite false units fits).place ≤ (y / finite false units fits).place := by
  rw [(place_div hx fits hpos).2, (place_div hy fits hpos).2]
  apply roundedPlace_mono hpos hpos
  exact Int.mul_le_mul_of_nonneg_right (Int.mul_le_mul_of_nonneg_right h (by omega)) (by omega)

/-- Dividing by one or more stays in the finite range. -/
theorem isFinite_div {x : Binary64} (hx : x.isFinite = true) {units : Nat}
    (fits : Representable units) (hone : unitsPerOne ≤ units) :
    (x / finite false units fits).isFinite = true := by
  obtain ⟨a, m, hm, rfl⟩ := exists_of_isFinite hx
  have hpos := Nat.lt_of_lt_of_le unitsPerOne_pos hone
  have hnearest : nearest (m * unitsPerOne) units ≤ m :=
    nearest_le hpos hm.1 (Nat.mul_le_mul_left m hone)
  rw [finite_div_finite _ _ _ _ hpos, ofRatio_of_lt _ (Nat.lt_of_le_of_lt hnearest hm.2)]
  rfl

end Binary64

end Assay.Number
