import Assay.Number.Shortest

/-!
Doubles as text. One writer serves every place; the places differ in a record of conventions.
-/

namespace Assay.Number

/-- Conventions of a written double. -/
structure NumberStyle where
  /-- Powers of ten of the leading digit that are written without an exponent. -/
  isPositional : Int → Bool
  /-- Whether an integral value written without an exponent ends in `.0`. -/
  pointZero : Bool
  /-- Whether a positive exponent has a plus sign. -/
  plusSign : Bool
  /-- The least number of digits of an exponent. -/
  exponentDigits : Nat

namespace NumberStyle

/-- Never an exponent and nothing after an integral value. -/
def plain : NumberStyle := ⟨fun _ => true, false, false, 1⟩

/-- Exponents from `1e16` on and below `1e-4`; integral values end in `.0`. -/
def detailed : NumberStyle := ⟨fun e => -4 ≤ e ∧ e < 16, true, false, 1⟩

/-- Exponents from `1e+16` on and below `1e-05`, with a sign and two digits. -/
def signed : NumberStyle := ⟨fun e => -5 ≤ e ∧ e < 16, true, true, 2⟩

end NumberStyle

/-- Zeros in front of a text up to a least length. -/
def padLeft (least : Nat) (cs : List Char) : List Char :=
  List.replicate (least - cs.length) '0' ++ cs

/-- The decimal digits of a natural number. -/
def decimalDigitsOf (n : Nat) : List Char := Nat.toDigits 10 n

/-- A decimal without an exponent. -/
def positional (pointZero : Bool) (d : Decimal) : List Char :=
  let digits := decimalDigitsOf d.digits
  let tail := if pointZero then ['.', '0'] else []
  match d.exponent with
  | .ofNat e => (if d.digits = 0 then ['0'] else digits ++ List.replicate e '0') ++ tail
  | .negSucc e =>
    let places := e + 1
    let padded := padLeft (places + 1) digits
    let whole := padded.length - places
    padded.take whole ++ '.' :: padded.drop whole

/-- A decimal with one digit before the point and an exponent. -/
def scientific (style : NumberStyle) (d : Decimal) (lead : Int) : List Char :=
  let mantissa := match decimalDigitsOf d.digits with
    | [] => []
    | [c] => [c]
    | c :: rest => c :: '.' :: rest
  let sign := if lead < 0 then ['-'] else if style.plusSign then ['+'] else []
  mantissa ++ 'e' :: sign ++ padLeft style.exponentDigits (decimalDigitsOf lead.natAbs)

namespace Binary64

/-- A double in the given style. -/
def toText (style : NumberStyle) : Binary64 → String
  | .nan => "NaN"
  | .infinite negative => if negative then "-inf" else "inf"
  | .finite negative units _ =>
    let d := Decimal.shortest units
    let lead := d.exponent + ((decimalDigitsOf d.digits).length : Int) - 1
    let body :=
      if units = 0 ∨ style.isPositional lead then positional style.pointZero d
      else scientific style d lead
    String.ofList (if negative then '-' :: body else body)

/-- The text that messages and program inputs use. -/
def plain (x : Binary64) : String := x.toText .plain

end Binary64

end Assay.Number
