import Assay.Proofs.Number.Rounding
import Mathlib.Tactic.Ring
import Mathlib.Tactic.Linarith

/-!
Rounding keeps the order of quotients, and nothing with at most fifty-three significant bits is
nearer to a quotient than what it is rounded to.
-/

namespace Assay.Number

/-- No set bit after the fifty-third one. -/
def Precise (n : Nat) : Prop := n % 2 ^ excessBits n = 0

instance (n : Nat) : Decidable (Precise n) := inferInstanceAs (Decidable (_ = _))

theorem precise_mul_two_pow {m : Nat} (k : Nat) (hm : m ≤ 2 ^ 53) : Precise (m * 2 ^ k) :=
  mod_excess_of_le k hm

theorem precise_of_le {n : Nat} (h : n ≤ 2 ^ 53) : Precise n := by
  have hp := precise_mul_two_pow 0 h
  rwa [Nat.pow_zero, Nat.mul_one] at hp

theorem lt_two_pow_excess (n : Nat) : n < 2 ^ (53 + excessBits n) := by
  refine Nat.lt_of_lt_of_le (Nat.lt_log2_self (n := n)) (Nat.pow_le_pow_right (by decide) ?_)
  unfold excessBits
  omega

theorem two_pow_excess_le {n : Nat} (h : 0 < excessBits n) : 2 ^ (52 + excessBits n) ≤ n := by
  have hne : n ≠ 0 := by
    rintro rfl
    simp [excessBits] at h
  have hlog : 52 + excessBits n = n.log2 := by
    unfold excessBits at h ⊢
    omega
  rw [hlog]
  exact Nat.log2_self_le hne

theorem excessBits_le {n k : Nat} (h : n < 2 ^ (53 + k)) : excessBits n ≤ k := by
  by_contra hlt
  have hpos : 0 < excessBits n := by omega
  have hle : 2 ^ (53 + k) ≤ 2 ^ (52 + excessBits n) := Nat.pow_le_pow_right (by decide) (by omega)
  exact absurd (Nat.le_trans hle (two_pow_excess_le hpos)) (Nat.not_le.mpr h)

theorem excessBits_mono {m n : Nat} (h : m ≤ n) : excessBits m ≤ excessBits n :=
  excessBits_le (Nat.lt_of_le_of_lt h (lt_two_pow_excess n))

/-- What is large has no set bits below the fifty-three leading ones. -/
theorem two_pow_dvd_of_precise {n k : Nat} (hn : Precise n) (h : 2 ^ 52 * 2 ^ k ≤ n) :
    2 ^ k ∣ n := by
  have hexcess : k ≤ excessBits n := by
    by_contra hlt
    have hpow : 2 ^ (53 + excessBits n) ≤ 2 ^ (52 + k) :=
      Nat.pow_le_pow_right (by decide) (by omega)
    rw [Nat.pow_add 2 52] at hpow
    exact absurd (lt_two_pow_excess n) (Nat.not_lt.mpr (Nat.le_trans hpow h))
  exact Nat.dvd_trans (Nat.pow_dvd_pow 2 hexcess) (Nat.dvd_of_mod_eq_zero hn)

theorem div_le_div_of_cross {num den num' den' : Nat} (hden : 0 < den) (hden' : 0 < den')
    (h : num * den' ≤ num' * den) : num / den ≤ num' / den' := by
  rw [Nat.le_div_iff_mul_le hden']
  apply Nat.le_of_mul_le_mul_right _ hden
  calc num / den * den' * den = num / den * den * den' := Nat.mul_right_comm ..
    _ ≤ num * den' := Nat.mul_le_mul_right _ (Nat.div_mul_le_self num den)
    _ ≤ num' * den := h

theorem le_nearestWhole (num den : Nat) : num / den ≤ nearestWhole num den := by
  unfold nearestWhole
  dsimp only
  split_ifs <;> omega

theorem nearestWhole_mono {num den num' den' : Nat} (hden : 0 < den) (hden' : 0 < den')
    (h : num * den' ≤ num' * den) : nearestWhole num den ≤ nearestWhole num' den' := by
  have hfloor := div_le_div_of_cross hden hden' h
  rcases Nat.lt_or_eq_of_le hfloor with hlt | heq
  · have hle := nearestWhole_le num den
    have hle' := le_nearestWhole num' den'
    omega
  · -- the same whole part, so the remainders are in order
    have hnum := Nat.div_add_mod num den
    have hnum' := Nat.div_add_mod num' den'
    rw [← heq] at hnum'
    have hrest : num % den * den' ≤ num' % den' * den := by
      nlinarith
    have hhalf : den ≤ 2 * (num % den) → den' ≤ 2 * (num' % den') := by
      intro hge
      have hcross : den' * den ≤ 2 * (num' % den') * den := by nlinarith
      exact Nat.le_of_mul_le_mul_right hcross hden
    have hmore : den < 2 * (num % den) → den' < 2 * (num' % den') := by
      intro hgt
      have hcross : den' * den < 2 * (num' % den') * den := by nlinarith
      exact Nat.lt_of_mul_lt_mul_right hcross
    unfold nearestWhole
    dsimp only
    rw [← heq]
    split_ifs <;> omega

/-- Rounding keeps the order of quotients. -/
theorem nearest_mono {num den num' den' : Nat} (hden : 0 < den) (hden' : 0 < den')
    (h : num * den' ≤ num' * den) : nearest num den ≤ nearest num' den' := by
  have hfloor := div_le_div_of_cross hden hden' h
  have hexcess := excessBits_mono hfloor
  unfold nearest
  dsimp only
  generalize hk : excessBits (num / den) = k at *
  generalize hk' : excessBits (num' / den') = k' at *
  rcases Nat.lt_or_eq_of_le hexcess with hlt | rfl
  · -- a power of two lies between the two quotients
    have hbelow : nearestWhole num (den * 2 ^ k) ≤ 2 ^ 53 := by
      have hle := nearestWhole_le num (den * 2 ^ k)
      have hdiv := div_excess_lt (num / den)
      rw [hk, Nat.div_div_eq_div_mul] at hdiv
      omega
    have habove : 2 ^ 52 ≤ nearestWhole num' (den' * 2 ^ k') := by
      refine Nat.le_trans ?_ (le_nearestWhole _ _)
      rw [← Nat.div_div_eq_div_mul, Nat.le_div_iff_mul_le (Nat.two_pow_pos k'), ← Nat.pow_add]
      have hle := two_pow_excess_le (n := num' / den') (by omega)
      rwa [hk'] at hle
    calc nearestWhole num (den * 2 ^ k) * 2 ^ k
        ≤ 2 ^ 53 * 2 ^ k := Nat.mul_le_mul_right _ hbelow
      _ = 2 ^ 52 * 2 ^ (k + 1) := by rw [Nat.pow_succ]; ring
      _ ≤ 2 ^ 52 * 2 ^ k' := Nat.mul_le_mul_left _ (Nat.pow_le_pow_right (by decide) hlt)
      _ ≤ nearestWhole num' (den' * 2 ^ k') * 2 ^ k' := Nat.mul_le_mul_right _ habove
  · have hpos := Nat.two_pow_pos k
    refine Nat.mul_le_mul_right _ (nearestWhole_mono (Nat.mul_pos hden hpos)
      (Nat.mul_pos hden' hpos) ?_)
    rw [← Nat.mul_assoc, ← Nat.mul_assoc]
    exact Nat.mul_le_mul_right _ h

theorem nearest_le {num den k : Nat} (hden : 0 < den) (hk : Precise k) (h : num ≤ k * den) :
    nearest num den ≤ k := by
  have hmono := nearest_mono hden hden (Nat.mul_le_mul_right den h)
  rwa [nearest_mul hk hden] at hmono

/-- Rounding goes up by one unit in the last place at most. -/
theorem nearest_le_floor_add (num den : Nat) {k : Nat} (hk : excessBits (num / den) = k) :
    nearest num den ≤ num / den / 2 ^ k * 2 ^ k + 2 ^ k := by
  have hwhole := nearestWhole_le num (den * 2 ^ k)
  rw [← Nat.div_div_eq_div_mul] at hwhole
  have hscaled := Nat.mul_le_mul_right (2 ^ k) hwhole
  rw [Nat.succ_mul] at hscaled
  unfold nearest
  dsimp only
  rwa [hk]

theorem nearest_le_add (num den : Nat) {k : Nat} (hk : excessBits (num / den) = k) :
    nearest num den ≤ num / den + 2 ^ k :=
  Nat.le_trans (nearest_le_floor_add num den hk) (Nat.add_le_add_right (Nat.div_mul_le_self _ _) _)

/-- Rounding goes down by less than one unit in the last place. -/
theorem le_nearest_add (num den : Nat) {k : Nat} (hk : excessBits (num / den) = k) :
    num / den ≤ nearest num den + 2 ^ k := by
  have hwhole := le_nearestWhole num (den * 2 ^ k)
  rw [← Nat.div_div_eq_div_mul] at hwhole
  have hscaled := Nat.mul_le_mul_right (2 ^ k) hwhole
  have hrest := Nat.mod_lt (num / den) (Nat.two_pow_pos k)
  have hsplit := Nat.div_add_mod' (num / den) (2 ^ k)
  unfold nearest
  dsimp only
  rw [hk]
  omega

/-- A common factor does not change what a quotient is rounded to. -/
theorem nearest_mul_mul (num : Nat) {den c : Nat} (hden : 0 < den) (hc : 0 < c) :
    nearest (num * c) (den * c) = nearest num den := by
  have hpos := Nat.mul_pos hden hc
  have hcross : num * c * den = num * (den * c) := by ring
  exact Nat.le_antisymm (nearest_mono hpos hden (Nat.le_of_eq hcross))
    (nearest_mono hden hpos (Nat.le_of_eq hcross.symm))

theorem nearestWhole_mul_mul (num : Nat) {den c : Nat} (hden : 0 < den) (hc : 0 < c) :
    nearestWhole (num * c) (den * c) = nearestWhole num den := by
  have hpos := Nat.mul_pos hden hc
  have hcross : num * c * den = num * (den * c) := by ring
  exact Nat.le_antisymm (nearestWhole_mono hpos hden (Nat.le_of_eq hcross))
    (nearestWhole_mono hden hpos (Nat.le_of_eq hcross.symm))

/-- Rounding an integer does not depend on the unit, if one unit is a power of two of the other. -/
theorem nearest_mul_two_pow (n k : Nat) : nearest (n * 2 ^ k) 1 = nearest n 1 * 2 ^ k := by
  have hone : ∀ m, Precise m → nearest m 1 = m := by
    intro m hm
    have h := nearest_mul hm Nat.one_pos
    rwa [Nat.mul_one] at h
  by_cases hsmall : n ≤ 2 ^ 53
  · rw [hone n (precise_of_le hsmall), hone _ (precise_mul_two_pow k hsmall)]
  · have hlog : 53 ≤ n.log2 := (Nat.le_log2 (by omega)).mpr (by omega)
    have hlow : 2 ^ (52 + excessBits n) ≤ n := two_pow_excess_le (by unfold excessBits; omega)
    have hexcess : excessBits (n * 2 ^ k) = excessBits n + k := by
      apply Nat.le_antisymm
      · apply excessBits_le
        rw [← Nat.add_assoc, Nat.pow_add]
        exact Nat.mul_lt_mul_of_pos_right (lt_two_pow_excess n) (Nat.two_pow_pos k)
      · by_contra hlt
        have hhigh := lt_two_pow_excess (n * 2 ^ k)
        have hpow : 2 ^ (53 + excessBits (n * 2 ^ k)) ≤ 2 ^ (52 + excessBits n + k) :=
          Nat.pow_le_pow_right (by decide) (by omega)
        rw [Nat.pow_add 2 (52 + excessBits n)] at hpow
        have hscaled := Nat.mul_le_mul_right (2 ^ k) hlow
        omega
    unfold nearest
    simp only [Nat.div_one, Nat.one_mul, hexcess, Nat.pow_add]
    rw [nearestWhole_mul_mul n (Nat.two_pow_pos _) (Nat.two_pow_pos k), Nat.mul_assoc]

/-- The whole part is taken if the remainder is at most half of `den`, and the next whole number
if it is at least half. -/
theorem nearestWhole_cases (num den : Nat) :
    (nearestWhole num den = num / den ∧ 2 * (num % den) ≤ den) ∨
      (nearestWhole num den = num / den + 1 ∧ den ≤ 2 * (num % den)) := by
  unfold nearestWhole
  dsimp only
  split_ifs <;> omega

/-- No other whole number is closer. -/
theorem nearestWhole_closest (num : Nat) {den : Nat} (hden : 0 < den) (w : Nat) :
    |(num : Int) - nearestWhole num den * den| ≤ |(num : Int) - w * den| := by
  have hnum : (num : Int) = (num / den : Nat) * den + (num % den : Nat) := by
    exact_mod_cast (Nat.div_add_mod' num den).symm
  have hrest : num % den < den := Nat.mod_lt num hden
  have hchoice : |(num : Int) - nearestWhole num den * den| ≤ (num % den : Nat) ∧
      |(num : Int) - nearestWhole num den * den| ≤ den - (num % den : Nat) := by
    rcases nearestWhole_cases num den with ⟨hwhole, hhalf⟩ | ⟨hwhole, hhalf⟩
    · rw [hwhole, abs_of_nonneg (by omega)]
      omega
    · rw [hwhole, Nat.cast_add, Nat.cast_one, Int.add_mul, Int.one_mul, abs_of_nonpos (by omega)]
      omega
  rcases Nat.lt_or_ge (num / den) w with hgt | hle
  · refine Int.le_trans hchoice.2 (Int.le_trans ?_ (neg_le_abs _))
    have hmul : ((num / den : Nat) + 1 : Int) * den ≤ w * den := by
      exact_mod_cast Nat.mul_le_mul_right den hgt
    rw [Int.add_mul, Int.one_mul] at hmul
    omega
  · refine Int.le_trans hchoice.1 (Int.le_trans ?_ (le_abs_self _))
    have hmul : (w : Int) * den ≤ (num / den : Nat) * den := by
      exact_mod_cast Nat.mul_le_mul_right den hle
    omega

/-- Nothing without excess bits is closer. -/
theorem nearest_closest (num : Nat) {den m : Nat} (hden : 0 < den) (hm : Precise m) :
    |(num : Int) - nearest num den * den| ≤ |(num : Int) - m * den| := by
  generalize hk : excessBits (num / den) = k
  have hgrid : ∀ w : Nat, |(num : Int) - nearest num den * den| ≤
      |(num : Int) - (w * 2 ^ k : Nat) * den| := by
    intro w
    have hclosest := nearestWhole_closest num (Nat.mul_pos hden (Nat.two_pow_pos k)) w
    have hscale : ∀ v : Nat, ((v * 2 ^ k : Nat) : Int) * den = v * (den * 2 ^ k : Nat) := by
      intro v
      push_cast
      ring
    have hnearest : nearest num den = nearestWhole num (den * 2 ^ k) * 2 ^ k := by
      unfold nearest
      rw [hk]
    rwa [hnearest, hscale, hscale]
  by_cases hfine : k ≤ excessBits m
  · obtain ⟨w, hw⟩ : 2 ^ k ∣ m :=
      Nat.dvd_trans (Nat.pow_dvd_pow 2 hfine) (Nat.dvd_of_mod_eq_zero hm)
    have h := hgrid w
    rwa [Nat.mul_comm w, ← hw] at h
  · -- what is finer than the grid at the quotient lies below a point of the grid below it
    have hpos : 0 < excessBits (num / den) := by omega
    have hlow := two_pow_excess_le hpos
    have hbelow : m ≤ 2 ^ 52 * 2 ^ k := by
      rw [← Nat.pow_add]
      exact Nat.le_of_lt (Nat.lt_of_lt_of_le (lt_two_pow_excess m)
        (Nat.pow_le_pow_right (by decide) (by omega)))
    have hunder : ((2 ^ 52 * 2 ^ k : Nat) : Int) * den ≤ num := by
      rw [hk, Nat.pow_add] at hlow
      exact_mod_cast Nat.le_trans (Nat.mul_le_mul_right den hlow) (Nat.div_mul_le_self num den)
    have hmul : (m : Int) * den ≤ (2 ^ 52 * 2 ^ k : Nat) * den := by
      exact_mod_cast Nat.mul_le_mul_right den hbelow
    refine Int.le_trans (hgrid (2 ^ 52)) ?_
    rw [abs_of_nonneg (Int.sub_nonneg_of_le hunder),
      abs_of_nonneg (Int.sub_nonneg_of_le (Int.le_trans hmul hunder))]
    omega

end Assay.Number
