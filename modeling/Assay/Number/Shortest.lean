import Assay.Number.Binary64

/-!
The fewest decimal digits that read back as the same double, and of those the nearest to it.
-/

namespace Assay.Number

/-- The decimal `digits * 10 ^ exponent`. -/
structure Decimal where
  digits : Nat
  exponent : Int
  deriving DecidableEq, Repr

namespace Decimal

/-- The number of units nearest to the decimal. -/
def units (d : Decimal) : Nat :=
  match d.exponent with
  | .ofNat e => nearest (d.digits * 10 ^ e * unitsPerOne) 1
  | .negSucc e => nearest (d.digits * unitsPerOne) (10 ^ (e + 1))

/-- The multiples of `10 ^ exponent` just below (or at) and just above `units`, and whether the
lower one is the nearer; the middle belongs to the upper one. -/
def neighbours (units : Nat) (exponent : Int) : Decimal × Decimal × Bool :=
  let (num, den) := match exponent with
    | .ofNat e => (units, 10 ^ e * unitsPerOne)
    | .negSucc e => (units * 10 ^ (e + 1), unitsPerOne)
  let low := num / den
  (⟨low, exponent⟩, ⟨low + 1, exponent⟩, 2 * (num % den) < den)

/-- A multiple of `10 ^ exponent` that reads back as `units`, the nearer one of two. -/
def onGrid? (units : Nat) (exponent : Int) : Option Decimal :=
  let (low, high, lowIsNearer) := neighbours units exponent
  let lowFits := low.units = units
  let highFits := high.units = units
  if lowFits ∧ (lowIsNearer ∨ ¬ highFits) then some low
  else if highFits then some high
  else none

/-- Every digit of the value: one unit is `5 ^ 1074 * 10 ^ -1074`. -/
def exact (units : Nat) : Decimal := ⟨units * 5 ^ 1074, -1074⟩

/-- Try ever finer grids, starting with the multiples of `10 ^ exponent`. -/
def search (units : Nat) : Nat → Int → Decimal
  | 0, _ => exact units
  | fuel + 1, exponent =>
    match onGrid? units exponent with
    | some d => d
    | none => search units fuel (exponent - 1)

/-- Drop trailing zeros of the digits. -/
def normalise : Nat → Decimal → Decimal
  | 0, d => d
  | fuel + 1, d =>
    if d.digits ≠ 0 ∧ d.digits % 10 = 0 then normalise fuel ⟨d.digits / 10, d.exponent + 1⟩ else d

/-- A power of ten that is larger than `units`: the bits after the leading one are worth less than
`0.30103` decimal digits each. -/
def startExponent (units : Nat) : Int :=
  ((units.log2 : Int) + 1 - 1074) * 30103 / 100000 + 1

/-- The shortest decimal of a number of units. From the starting power, seventeen significant
digits are reached within twenty grids. -/
def shortest (units : Nat) : Decimal :=
  if units = 0 then ⟨0, 0⟩
  else normalise 800 (search units 20 (startExponent units))

end Decimal

end Assay.Number
