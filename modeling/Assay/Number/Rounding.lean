/-!
Rounding a quotient of natural numbers to fifty-three significant bits.

Every finite double is a whole number of units of `2 ^ -1074`, so a double is a natural number
with at most fifty-three significant bits (and a sign), and one rounding function serves sums,
products, quotients and decimal texts alike. Below `2 ^ 53` units every natural number is
representable, which is exactly the gradual underflow of the format.
-/

-- Powers are the built-in ones in every module, also in one that sees the powers of a monoid, so
-- that a definition here and a statement about it there are about the same power.
attribute [instance (2000), default_instance 20000] instPowNat

namespace Assay.Number

/-- Numbers of units from here on are out of the finite range: `2 ^ 1024` times `2 ^ 1074`. -/
def sizeLimit : Nat := 2 ^ 2098

/-- The number of units in one. -/
def unitsPerOne : Nat := 2 ^ 1074

/-- Bits of `n` beyond the fifty-three leading ones. -/
def excessBits (n : Nat) : Nat := n.log2 - 52

/-- `n` units are a finite double: no set bit after the fifty-third one, and not too large. -/
def Representable (n : Nat) : Prop := n % 2 ^ excessBits n = 0 ∧ n < sizeLimit

instance (n : Nat) : Decidable (Representable n) := inferInstanceAs (Decidable (_ ∧ _))

/-- The whole number nearest to `num / den`, a half going to the even neighbour. -/
def nearestWhole (num den : Nat) : Nat :=
  let whole := num / den
  let twice := 2 * (num % den)
  if twice < den then whole
  else if den < twice then whole + 1
  else whole + whole % 2

/-- The number with at most fifty-three significant bits nearest to `num / den`, a half going to
the neighbour with an even last bit. -/
def nearest (num den : Nat) : Nat :=
  let excess := excessBits (num / den)
  nearestWhole num (den * 2 ^ excess) * 2 ^ excess

theorem nearestWhole_le (num den : Nat) : nearestWhole num den ≤ num / den + 1 := by
  unfold nearestWhole
  dsimp only
  split
  · omega
  · split
    · omega
    · omega

/-- Dropping the excess bits leaves at most fifty-three. -/
theorem div_excess_lt (q : Nat) : q / 2 ^ excessBits q < 2 ^ 53 := by
  have hq : q < 2 ^ (q.log2 + 1) := Nat.lt_log2_self
  rw [Nat.div_lt_iff_lt_mul (Nat.two_pow_pos _), ← Nat.pow_add]
  refine Nat.lt_of_lt_of_le hq (Nat.pow_le_pow_right (by decide) ?_)
  unfold excessBits
  omega

/-- A number below `2 ^ 53`, shifted, has no excess set bits; nor has `2 ^ 53` itself. -/
theorem mod_excess_of_le {m : Nat} (k : Nat) (hm : m ≤ 2 ^ 53) :
    m * 2 ^ k % 2 ^ excessBits (m * 2 ^ k) = 0 := by
  rcases Nat.eq_zero_or_pos m with rfl | hpos
  · simp
  have hne : m * 2 ^ k ≠ 0 := Nat.mul_ne_zero (Nat.ne_of_gt hpos) (Nat.ne_of_gt (Nat.two_pow_pos k))
  rcases Nat.lt_or_eq_of_le hm with hlt | rfl
  · have hlog : (m * 2 ^ k).log2 < 53 + k := by
      rw [Nat.log2_lt hne, Nat.pow_add]
      exact Nat.mul_lt_mul_of_pos_right hlt (Nat.two_pow_pos k)
    have hle : excessBits (m * 2 ^ k) ≤ k := by unfold excessBits; omega
    exact Nat.mod_eq_zero_of_dvd (Nat.dvd_trans (Nat.pow_dvd_pow 2 hle) (Nat.dvd_mul_left _ _))
  · have hlog : (2 ^ 53 * 2 ^ k).log2 < 54 + k := by
      rw [Nat.log2_lt hne, ← Nat.pow_add]
      exact Nat.pow_lt_pow_right (by decide) (by omega)
    have hle : excessBits (2 ^ 53 * 2 ^ k) ≤ 53 + k := by unfold excessBits; omega
    rw [← Nat.pow_add] at hle ⊢
    exact Nat.mod_eq_zero_of_dvd (Nat.pow_dvd_pow 2 hle)

/-- Rounding gives a representable number unless it leaves the finite range. -/
theorem nearest_representable {num den : Nat} (h : nearest num den < sizeLimit) :
    Representable (nearest num den) := by
  refine ⟨?_, h⟩
  unfold nearest
  dsimp only
  apply mod_excess_of_le
  refine Nat.le_trans (nearestWhole_le _ _) ?_
  rw [← Nat.div_div_eq_div_mul]
  exact div_excess_lt _

end Assay.Number
