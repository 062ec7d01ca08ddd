import Assay.Number.Text

/-!
Lengths of time, in nanoseconds.
-/

namespace Assay

/-- A length of time. -/
structure Duration where
  nanoseconds : Nat
  deriving DecidableEq, Repr

namespace Duration

def ofMilliseconds (n : Nat) : Duration := ⟨n * 1000000⟩

def toMilliseconds (d : Duration) : Nat := d.nanoseconds / 1000000

instance : LE Duration := ⟨fun a b => a.nanoseconds ≤ b.nanoseconds⟩

instance (a b : Duration) : Decidable (a ≤ b) :=
  inferInstanceAs (Decidable (a.nanoseconds ≤ b.nanoseconds))

instance : Add Duration := ⟨fun a b => ⟨a.nanoseconds + b.nanoseconds⟩⟩

/-- What is left of a duration, which is nothing once it is used up. -/
instance : Sub Duration := ⟨fun a b => ⟨a.nanoseconds - b.nanoseconds⟩⟩

/-- `n / 10 ^ places` without trailing zeros after the point. -/
def decimalText (n places : Nat) : List Char :=
  let whole := Number.decimalDigitsOf (n / 10 ^ places)
  let fraction := Number.padLeft places (Number.decimalDigitsOf (n % 10 ^ places))
  match (fraction.reverse.dropWhile (· == '0')).reverse with
  | [] => whole
  | digits => if places = 0 then whole else whole ++ '.' :: digits

/-- A duration in the largest of the units s, ms, µs and ns that it holds at least once. -/
def toText (d : Duration) : String :=
  let n := d.nanoseconds
  let (places, unit) :=
    if 10 ^ 9 ≤ n then (9, "s")
    else if 10 ^ 6 ≤ n then (6, "ms")
    else if 10 ^ 3 ≤ n then (3, "µs")
    else (0, "ns")
  String.ofList (decimalText n places) ++ unit

end Duration

end Assay
