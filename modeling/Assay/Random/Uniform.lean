import Assay.Number.Binary64
import Assay.Random.Source

/-!
Uniform draws: an offset below a width, an integer of a range, and a double of a range.

A word `v` of `bits` bits stands for the offset `v * n / 2 ^ bits`. Words whose product leaves
too large a remainder are drawn again, so that every offset belongs to equally many words.
-/

namespace Assay.Random

open Number (Binary64)

/-- The largest remainder that is accepted: one less than the largest multiple of `n` of the form
`n * 2 ^ k` that is at most `2 ^ bits`. -/
def zone (bits n : Nat) : Nat := n * 2 ^ (bits - (n.log2 + 1)) - 1

/-- The offset that the word `v` stands for, unless the word is rejected. -/
def offset? (bits n v : Nat) : Option Nat :=
  if v * n % 2 ^ bits ≤ zone bits n then some (v * n / 2 ^ bits) else none

/-- Words that are tried for one offset. A stream repeats itself after `2 ^ 68` words of 32 bits, so
if none of so many words is accepted then none ever is. -/
def attempts : Nat := 2 ^ 69

/-- Draw words until one is accepted. With the last try a word is taken whether it is accepted or
not. This is not an offset that uniform drawing gives: on a stream that holds no accepted word it
would draw for ever. Wherever some word of the stream is accepted, the first such word is within the
`attempts` and decides. -/
def drawOffset (w : Words) (n : Nat) : Nat → Source → Nat × Source
  | 0, s =>
    let (v, s) := w.next s
    (v * n / 2 ^ w.bits, s)
  | fuel + 1, s =>
    let (v, s) := w.next s
    match offset? w.bits n v with
    | some k => (k, s)
    | none => drawOffset w n fuel s

/-- A non-empty range of 64-bit integers, both bounds included. -/
structure IntegerRange where
  low : Int64
  high : Int64
  ordered : low ≤ high
  deriving DecidableEq

namespace IntegerRange

/-- The number of integers in the range, as a word; it wraps to zero for the full range. -/
def width (r : IntegerRange) : UInt64 := (r.high - r.low).toUInt64 + 1

/-- A uniform integer of the range. One word at least is drawn, even for a single integer. Only a
stream without any accepted word uses all attempts up, and what stands for it then is no uniform
draw. -/
def draw (r : IntegerRange) (s : Source) : Int64 × Source :=
  if r.width = 0 then
    let (v, s) := s.next64
    (v.toInt64, s)
  else
    let (k, s) := drawOffset .double r.width.toNat attempts s
    (r.low + (UInt64.ofNat k).toInt64, s)

end IntegerRange

/-- A uniform index below `n`, on a stream with an accepted word in it. -/
def drawIndex (n : Nat) (s : Source) : Nat × Source := drawOffset .single n attempts s

/-- The largest double that a unit draw takes: `1 - 2 ^ -52`. -/
def largestUnit : Binary64 := .ofUnits false (Number.unitsPerOne - 2 ^ 1022)

/-- Decrease a scale until the largest draw does not exceed `high`. A few steps are enough. -/
def fitScale (low high : Binary64) : Nat → Binary64 → Binary64
  | 0, scale => scale
  | fuel + 1, scale =>
    if high.lt (scale * largestUnit + low) then fitScale low high fuel scale.below else scale

/-- The factor from unit draws to `[low, high]`; none if the width divided by the largest unit
draw is out of the finite range. -/
def scale? (low high : Binary64) : Option Binary64 :=
  let scale := (high - low) / largestUnit
  if scale.isFinite then some (fitScale low high 1000 scale) else none

/-- A double in `[0, 1)`: the upper fifty-two bits of a word. -/
def drawUnit (s : Source) : Binary64 × Source :=
  let (v, s) := s.next64
  (.ofUnits false ((v >>> 12).toNat * 2 ^ 1022), s)

/-- A uniform double of `[low, high]`, given its scale. -/
def drawScaled (low scale : Binary64) (s : Source) : Binary64 × Source :=
  let (unit, s) := drawUnit s
  (unit * scale + low, s)

end Assay.Random
