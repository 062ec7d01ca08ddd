/-!
Sets of characters given as ranges of code points, with a logarithmic membership test.
-/

namespace Assay.Text

/-- A set of code points: inclusive ranges, in increasing order. -/
structure CharSet where
  ranges : Array (Nat × Nat)

namespace CharSet

/-- Bisection over the ranges with indices in `[low, high)`. Every round at least halves the
window, so `fuel` rounds are enough for fewer than `2 ^ fuel` ranges. -/
def search (ranges : Array (Nat × Nat)) (code : Nat) : Nat → Nat → Nat → Bool
  | 0, _, _ => false
  | fuel + 1, low, high =>
    if low < high then
      let middle := (low + high) / 2
      match ranges[middle]? with
      | none => false
      | some (first, last) =>
        if code < first then search ranges code fuel low middle
        else if last < code then search ranges code fuel (middle + 1) high
        else true
    else false

/-- Whether `c` lies in one of the ranges; thirty-two rounds cover every table. -/
def contains (s : CharSet) (c : Char) : Bool :=
  search s.ranges c.toNat 32 0 s.ranges.size

end CharSet

end Assay.Text
