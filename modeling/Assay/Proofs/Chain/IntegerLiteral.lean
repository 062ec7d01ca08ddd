import Assay.Proofs.Chain.Reading
import Assay.Proofs.Number.Integer

/-!
Integers as they are written, and calls that are bounded by two of them.
-/

namespace Assay.Chain

open Number

/-- Digits, after a minus sign if the integer is negative. -/
structure IntegerLiteral where
  negative : Bool
  digits : List Char
  digits_ne_nil : digits ≠ []
  isDigit : ∀ c ∈ digits, c.isDigit = true

namespace IntegerLiteral

def text (n : IntegerLiteral) : List Char := if n.negative then '-' :: n.digits else n.digits

/-- The exact integer. -/
def value (n : IntegerLiteral) : Int := signed n.negative (Nat.ofDigitChars 10 n.digits 0)

/-- The literal as a number that happens to have no fraction. -/
def numeral (n : IntegerLiteral) : Numeral Char.isDigit where
  negative := n.negative
  whole := n.digits
  fraction := []
  whole_ne_nil := n.digits_ne_nil
  digits := by
    rw [List.append_nil]
    exact n.isDigit

theorem text_numeral (n : IntegerLiteral) : n.numeral.text = n.text := by
  simp [Numeral.text, Numeral.unsigned, fractionText, numeral, text]

theorem value_numeral (n : IntegerLiteral) : n.numeral.value =
    Binary64.ofRatio n.negative (Nat.ofDigitChars 10 n.digits 0 * unitsPerOne) 1 := by
  unfold Numeral.value numeral
  rw [List.append_nil]
  exact Binary64.ofDecimal_neg n.negative _ 0

/-- The double of a literal is the rounded integer, unless it is far out of the range of a word. -/
theorem value_cases (n : IntegerLiteral) :
    (n.numeral.value.isIntegral = true ∧ n.numeral.value.truncate = roundedInteger n.value) ∨
      (n.numeral.value.isIntegral = false ∧ 2 ^ 64 < (roundedInteger n.value).natAbs) := by
  rw [value_numeral]
  exact Binary64.ofRatio_integer n.negative _

end IntegerLiteral

/-- `int(a..b)` -/
def intSource (a b : IntegerLiteral) : String :=
  "int(" ++ String.ofList a.text ++ ".." ++ String.ofList b.text ++ ")"

/-- The call that such a source stands for. -/
def intCall (a b : IntegerLiteral) : Call := ⟨"int", [.range a.numeral.value b.numeral.value]⟩

def intName : Name := ⟨'i', ['n', 't'], by decide, List.all_eq_true.mp (by decide +kernel)⟩

def intRendering (a b : IntegerLiteral) : Rendering where
  calls := [⟨tight, ⟨intName, tight, tight,
    [⟨tight, .range ⟨a.numeral, tight, tight, b.numeral⟩, tight⟩], tight⟩, tight⟩]
  calls_ne_nil := List.cons_ne_nil _ _
  ending := ⟨[], by simp⟩

theorem text_intRendering (a b : IntegerLiteral) :
    (intRendering a b).text = (intSource a b).toList := by
  simp [intRendering, Rendering.text, Spaced.text, CallForm.text, CallForm.inner, Name.text,
    intName, ArgumentForm.text, Interval.text, intSource, IntegerLiteral.text_numeral]

theorem read_intSource (a b : IntegerLiteral) : read (intSource a b) = .ok [intCall a b] :=
  read_of_text (text_intRendering a b)

end Assay.Chain
