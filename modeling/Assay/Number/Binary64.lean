import Assay.Number.Rounding

/-!
Doubles as exact data. A finite double is a sign and a whole number of units of `2 ^ -1074`;
every operation is the exact result on those integers, rounded once.
-/

namespace Assay.Number

/-- A double: not a number, an infinity, or a sign with a representable number of units. Zero
keeps its sign. -/
inductive Binary64 where
  | nan
  | infinite (negative : Bool)
  | finite (negative : Bool) (units : Nat) (fits : Representable units)
  deriving DecidableEq

namespace Binary64

/-- The double nearest to `num / den` units; an infinity if that is out of the finite range. -/
def ofRatio (negative : Bool) (num den : Nat) : Binary64 :=
  let units := nearest num den
  if h : units < sizeLimit then .finite negative units (nearest_representable h)
  else .infinite negative

/-- The double nearest to a natural number of units. -/
def ofUnits (negative : Bool) (units : Nat) : Binary64 := ofRatio negative units 1

/-- The double nearest to an integer; zero is positive. -/
def ofInt (n : Int) : Binary64 := ofUnits (n < 0) (n.natAbs * unitsPerOne)

/-- The double nearest to a natural number. -/
def ofNat (n : Nat) : Binary64 := ofUnits false (n * unitsPerOne)

instance (n : Nat) : OfNat Binary64 n := ⟨ofNat n⟩

instance : Inhabited Binary64 := ⟨ofNat 0⟩

/-- The double nearest to the decimal `digits * 10 ^ exponent`. -/
def ofDecimal (negative : Bool) (digits : Nat) (exponent : Int) : Binary64 :=
  match exponent with
  | .ofNat e => ofRatio negative (digits * 10 ^ e * unitsPerOne) 1
  | .negSucc e => ofRatio negative (digits * unitsPerOne) (10 ^ (e + 1))

/-- The signed number of units of a finite double. -/
def units? : Binary64 → Option Int
  | .finite negative units _ => some (if negative then -(units : Int) else units)
  | _ => none

def isFinite : Binary64 → Bool
  | .finite .. => true
  | _ => false

def neg : Binary64 → Binary64
  | .nan => .nan
  | .infinite negative => .infinite !negative
  | .finite negative units fits => .finite (!negative) units fits

instance : Neg Binary64 := ⟨neg⟩

/-- The sum. Zero comes out negative only when both sides are negative. -/
def add : Binary64 → Binary64 → Binary64
  | .nan, _ => .nan
  | _, .nan => .nan
  | .infinite a, .infinite b => if a = b then .infinite a else .nan
  | .infinite a, .finite .. => .infinite a
  | .finite .., .infinite b => .infinite b
  | .finite a m _, .finite b n _ =>
    if a = b then ofUnits a (m + n)
    else if m = n then ofUnits false 0
    else if n < m then ofUnits a (m - n)
    else ofUnits b (n - m)

instance : Add Binary64 := ⟨add⟩

def sub (x y : Binary64) : Binary64 := x + -y

instance : Sub Binary64 := ⟨sub⟩

def mul : Binary64 → Binary64 → Binary64
  | .nan, _ => .nan
  | _, .nan => .nan
  | .infinite a, .infinite b => .infinite (a != b)
  | .infinite a, .finite b n _ => if n = 0 then .nan else .infinite (a != b)
  | .finite a m _, .infinite b => if m = 0 then .nan else .infinite (a != b)
  | .finite a m _, .finite b n _ => ofRatio (a != b) (m * n) unitsPerOne

instance : Mul Binary64 := ⟨mul⟩

def div : Binary64 → Binary64 → Binary64
  | .nan, _ => .nan
  | _, .nan => .nan
  | .infinite _, .infinite _ => .nan
  | .infinite a, .finite b .. => .infinite (a != b)
  | .finite a .., .infinite b => ofUnits (a != b) 0
  | .finite a m _, .finite b n _ =>
    if n = 0 then if m = 0 then .nan else .infinite (a != b)
    else ofRatio (a != b) (m * unitsPerOne) n

instance : Div Binary64 := ⟨div⟩

/-- Strictly below; false whenever one side is not a number, and zeros of both signs are equal. -/
def lt : Binary64 → Binary64 → Bool
  | .nan, _ => false
  | _, .nan => false
  | .infinite a, .infinite b => a && !b
  | .infinite a, .finite .. => a
  | .finite .., .infinite b => !b
  | .finite a m _, .finite b n _ =>
    match a, b with
    | false, false => m < n
    | false, true => false
    | true, false => 0 < m || 0 < n
    | true, true => n < m

/-- Equal as numbers: zeros of both signs are equal and nothing equals not-a-number. -/
def equal : Binary64 → Binary64 → Bool
  | .nan, _ => false
  | _, .nan => false
  | .infinite a, .infinite b => a == b
  | .finite a m _, .finite b n _ => m == n && (a == b || m == 0)
  | _, _ => false

/-- At most, as numbers; false whenever one side is not a number. -/
def le (x y : Binary64) : Bool := x.lt y || x.equal y

/-- A finite double without a fractional part. -/
def isIntegral : Binary64 → Bool
  | .finite _ units _ => units % unitsPerOne == 0
  | _ => false

/-- The integer part of a finite double, toward zero; zero for the others. -/
def truncate : Binary64 → Int
  | .finite negative units _ =>
    let whole : Int := (units / unitsPerOne : Nat)
    if negative then -whole else whole
  | _ => 0

/-- The integer part as a word. Beyond the least and the greatest word it is that word, and
not-a-number becomes zero. -/
def toInt64 : Binary64 → Int64
  | .infinite negative => if negative then Int64.minValue else Int64.maxValue
  | x => Int64.ofIntClamp x.truncate

theorem isFinite_of_isIntegral {x : Binary64} (h : x.isIntegral = true) : x.isFinite = true := by
  cases x with
  | nan => cases h
  | infinite negative => cases h
  | finite negative units fits => rfl

theorem truncate_mono {x y : Binary64} (hx : x.isFinite = true) (hy : y.isFinite = true)
    (h : y.lt x = false) : x.truncate ≤ y.truncate := by
  cases x with
  | nan => cases hx
  | infinite negative => cases hx
  | finite a m hm =>
    cases y with
    | nan => cases hy
    | infinite negative => cases hy
    | finite b n hn =>
      have hmono {i j : Nat} (hle : i ≤ j) : i / unitsPerOne ≤ j / unitsPerOne :=
        Nat.div_le_div_right hle
      cases a <;> cases b <;>
        simp only [lt, decide_eq_false_iff_not, Nat.not_lt, Bool.or_eq_false_iff] at h <;>
        simp only [truncate, Bool.false_eq_true, if_true, if_false]
      · exact Int.ofNat_le.mpr (hmono h)
      · rw [Nat.le_zero.mp h.1, Nat.le_zero.mp h.2]
        simp
      · exact Int.le_trans (Int.neg_nonpos_of_nonneg (Int.natCast_nonneg _)) (Int.natCast_nonneg _)
      · exact Int.neg_le_neg (Int.ofNat_le.mpr (hmono h))

theorem ofIntClamp_mono {m n : Int} (h : m ≤ n) : Int64.ofIntClamp m ≤ Int64.ofIntClamp n := by
  unfold Int64.ofIntClamp
  split
  · split
    · split
      · split
        · rw [Int64.le_iff_toInt_le, Int64.toInt_ofIntLE, Int64.toInt_ofIntLE]
          exact h
        · exact Int64.le_maxValue _
      · next hm _ hn => exact absurd (Int.le_trans hm h) hn
    · next hm hm' =>
      rw [dif_pos (Int.le_trans hm h), dif_neg fun hn => hm' (Int.le_trans h hn)]
      exact Int64.le_refl _
  · exact Int64.minValue_le _

theorem toInt64_of_isFinite {x : Binary64} (h : x.isFinite = true) :
    x.toInt64 = Int64.ofIntClamp x.truncate := by
  cases x with
  | nan => cases h
  | infinite negative => cases h
  | finite negative units fits => rfl

theorem toInt64_mono {x y : Binary64} (hx : x.isFinite = true) (hy : y.isFinite = true)
    (h : y.lt x = false) : x.toInt64 ≤ y.toInt64 := by
  rw [toInt64_of_isFinite hx, toInt64_of_isFinite hy]
  exact ofIntClamp_mono (truncate_mono hx hy h)

/-- Round to an integer, a half going away from zero. The sign stays, also on zero. -/
def round : Binary64 → Binary64
  | .finite negative units _ =>
    let whole := (2 * units + unitsPerOne) / (2 * unitsPerOne)
    ofUnits negative (whole * unitsPerOne)
  | x => x

/-- The next smaller double of a positive finite one; others stay as they are. -/
def below : Binary64 → Binary64
  | .finite false units fits =>
    if units = 0 then .finite false units fits
    else ofUnits false (units - 2 ^ excessBits (units - 1))
  | x => x

end Binary64

end Assay.Number
