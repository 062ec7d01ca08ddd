import Assay.Draw.Value
import Assay.Proofs.Chain.Reading
import Assay.Proofs.Number.Shortest

/-!
A finite double is written as a numeral of a chain, and a chain that has such texts for its bounds,
its numbers and its options is read with the same doubles.
-/

namespace Assay.Chain.Numeral

open Number

variable {cs : List Char} {places : Nat} (hplaces : places < cs.length)
  (hcs : ∀ c ∈ cs, c.isDigit = true)

theorem unsigned_pointed_zero (negative : Bool) (hne : 0 < cs.length) :
    (pointed negative cs 0 hne hcs).unsigned = cs := by
  simp [unsigned, pointed, fractionText]

theorem unsigned_pointed_of_pos (negative : Bool) (hpos : 0 < places) :
    (pointed negative cs places hplaces hcs).unsigned =
      cs.take (cs.length - places) ++ '.' :: cs.drop (cs.length - places) := by
  obtain ⟨c, ds, hds⟩ := List.exists_cons_of_ne_nil
    (show cs.drop (cs.length - places) ≠ [] by rw [Ne, List.drop_eq_nil_iff]; omega)
  unfold unsigned pointed
  dsimp only
  rw [hds, fractionText]
  exact List.cons_ne_nil c ds

/-- The zeros behind the digits are the power of ten. -/
theorem positional_ofNat (digits e : Nat) :
    0 < (positional false ⟨digits, .ofNat e⟩).length ∧
    (∀ c ∈ positional false ⟨digits, .ofNat e⟩, c.isDigit = true) ∧
    Nat.ofDigitChars 10 (positional false ⟨digits, .ofNat e⟩) 0 = digits * 10 ^ e := by
  have htext : positional false ⟨digits, .ofNat e⟩ =
      if digits = 0 then ['0'] else decimalDigitsOf digits ++ List.replicate e '0' :=
    List.append_nil _
  rw [htext]
  split
  next hzero =>
    rw [hzero, Nat.zero_mul]
    exact ⟨Nat.one_pos, List.forall_mem_singleton.2 rfl, rfl⟩
  next =>
    refine ⟨?_, List.forall_mem_append.2 ⟨fun c => isDigit_of_mem_decimalDigitsOf,
      fun c => isDigit_of_mem_replicate⟩, ?_⟩
    · rw [List.length_append]
      exact Nat.lt_add_right _ Nat.length_toDigits_pos
    · rw [Nat.ofDigitChars_append, Nat.ofDigitChars_replicate_zero, decimalDigitsOf,
        Nat.ofDigitChars_ten_toDigits, Nat.mul_comm]

/-- Zeros in front make room for the point. -/
theorem padLeft_decimalDigitsOf (digits least : Nat) :
    least ≤ (padLeft least (decimalDigitsOf digits)).length ∧
    (∀ c ∈ padLeft least (decimalDigitsOf digits), c.isDigit = true) ∧
    Nat.ofDigitChars 10 (padLeft least (decimalDigitsOf digits)) 0 = digits := by
  unfold padLeft
  refine ⟨?_, List.forall_mem_append.2 ⟨fun c => isDigit_of_mem_replicate,
    fun c => isDigit_of_mem_decimalDigitsOf⟩, ?_⟩
  · rw [List.length_append, List.length_replicate]
    omega
  · rw [ofDigitChars_replicate_append, decimalDigitsOf, Nat.ofDigitChars_ten_toDigits]

/-- A decimal without an exponent is written as a numeral whose value is the double nearest to it. -/
theorem exists_positional (negative : Bool) (d : Decimal) : ∃ n : Numeral Char.isDigit,
    n.negative = negative ∧ n.unsigned = positional false d ∧
      n.value = Binary64.ofDecimal negative d.digits d.exponent := by
  obtain ⟨digits, exponent⟩ := d
  match exponent with
  | .ofNat e =>
    obtain ⟨hne, hdigits, hvalue⟩ := positional_ofNat digits e
    refine ⟨pointed negative _ 0 hne hdigits, rfl, unsigned_pointed_zero hdigits negative hne, ?_⟩
    rw [value_pointed, hvalue, Nat.pow_zero]
    rfl
  | .negSucc e =>
    obtain ⟨hlength, hdigits, hvalue⟩ := padLeft_decimalDigitsOf digits (e + 1 + 1)
    refine ⟨pointed negative _ (e + 1) hlength hdigits, rfl,
      unsigned_pointed_of_pos _ _ _ (Nat.succ_pos e), ?_⟩
    rw [value_pointed, hvalue]
    rfl

/-- A finite double is written as a numeral whose value is the double. -/
theorem exists_plain {x : Binary64} (hx : x.isFinite = true) :
    ∃ n : Numeral Char.isDigit, n.text = x.plain.toList ∧ n.value = x := by
  obtain ⟨negative, units, fits, rfl⟩ := Binary64.exists_of_isFinite hx
  obtain ⟨n, hnegative, hunsigned, hvalue⟩ := exists_positional negative (Decimal.shortest units)
  refine ⟨n, ?_, ?_⟩
  · simp [text, hnegative, hunsigned, Binary64.plain, Binary64.toText, NumberStyle.plain]
  · rw [hvalue, Binary64.ofDecimal_shortest negative fits]

end Assay.Chain.Numeral

namespace Assay.Number.Binary64

/-- Zero for a negative zero; every other double as it is. -/
def withoutNegativeZero : Binary64 → Binary64
  | .finite negative units fits => .finite (negative && units != 0) units fits
  | x => x

theorem isFinite_withoutNegativeZero {x : Binary64} (hx : x.isFinite = true) :
    x.withoutNegativeZero.isFinite = true := by
  obtain ⟨negative, units, fits, rfl⟩ := exists_of_isFinite hx
  rfl

theorem zero_eq : (0 : Binary64) = finite false 0 ⟨Nat.zero_mod _, sizeLimit_pos⟩ := by
  change ofNat 0 = _
  unfold ofNat
  rw [Nat.zero_mul]
  exact ofUnits_of_representable false _

theorem add_zero_of_isFinite {x : Binary64} (hx : x.isFinite = true) :
    x + 0 = x.withoutNegativeZero := by
  obtain ⟨negative, units, fits, rfl⟩ := exists_of_isFinite hx
  rw [zero_eq]
  change add _ _ = _
  unfold add withoutNegativeZero
  dsimp only
  cases negative with
  | false => rw [if_pos rfl, Nat.add_zero, ofUnits_of_representable false fits, Bool.false_and]
  | true =>
    rw [if_neg Bool.noConfusion, Nat.sub_zero, Bool.true_and]
    by_cases hzero : units = 0
    · subst hzero
      rw [if_pos rfl, ofUnits_of_representable false fits]
      rfl
    · rw [if_neg hzero, if_pos (Nat.pos_of_ne_zero hzero), ofUnits_of_representable true fits,
        bne_iff_ne.2 hzero]

end Assay.Number.Binary64

namespace Assay.Draw

open Number (Binary64)
open Chain

abbrev space : Text.Blanks := ⟨[' '], List.forall_mem_singleton.2 (by decide)⟩

/-- The written values of two doubles as a range, a number and an option. -/
def floatSource (a b : Binary64) : String :=
  "f(" ++ (Value.float a).format ++ ".." ++ (Value.float b).format ++ ", " ++
    (Value.float a).format ++ ", k=" ++ (Value.float b).format ++ ")"

/-- The call that such a source stands for. -/
def floatCall (a b : Binary64) : Chain.Call :=
  ⟨"f", [.range a b, .literal (.number a), .option "k" (.number b)]⟩

def letter (c : Char) (h : Text.isNameStart c = true) : Name := ⟨c, [], h, List.forall_mem_nil _⟩

theorem isEnding_nil : ∀ c ∈ ([] : List Char), c = '.' ∨ Text.isBlank c = true :=
  List.forall_mem_nil _

/-- The source with two numerals told apart from the rest. -/
def floatRendering (m n : Numeral Char.isDigit) : Rendering where
  calls := [⟨tight, ⟨letter 'f' (by decide), tight, tight,
    [⟨tight, .range ⟨m, tight, tight, n⟩, tight⟩, ⟨space, .number m, tight⟩,
      ⟨space, .option (letter 'k' (by decide)) tight tight (.number n), tight⟩],
    tight⟩, tight⟩]
  calls_ne_nil := List.cons_ne_nil _ _
  ending := ⟨[], isEnding_nil⟩

theorem meaning_floatRendering (m n : Numeral Char.isDigit) :
    (floatRendering m n).meaning = [floatCall m.value n.value] := rfl

/-- A finite double is written as digits, after a minus sign if it is negative, and with a point
and further digits if it is not whole. -/
theorem exists_format {x : Binary64} (hx : x.isFinite = true) :
    ∃ n : Numeral Char.isDigit, n.text = (Value.float x).format.toList ∧
      n.value = x.withoutNegativeZero := by
  obtain ⟨n, htext, hvalue⟩ := Numeral.exists_plain (Binary64.isFinite_withoutNegativeZero hx)
  refine ⟨n, ?_, hvalue⟩
  rw [htext, Value.format, Value.write, Value.floatText, Binary64.add_zero_of_isFinite hx,
    String.empty_append]

theorem text_floatRendering {a b : Binary64} {m n : Numeral Char.isDigit}
    (hm : m.text = (Value.float a).format.toList) (hn : n.text = (Value.float b).format.toList) :
    (floatRendering m n).text = (floatSource a b).toList := by
  simp [floatRendering, Rendering.text, Spaced.text, CallForm.text, CallForm.inner, Name.text,
    ArgumentForm.text, ValueForm.text, Interval.text, floatSource, hm, hn, space, letter]

/-- The text of a finite double is a numeral that is read as the double, and in a range, as a
number and as the value of an option it is read as the double too, but for the sign of zero. -/
theorem read_floatSource {a b : Binary64} (ha : a.isFinite = true) (hb : b.isFinite = true) :
    read (floatSource a b) = .ok [floatCall a.withoutNegativeZero b.withoutNegativeZero] ∧
    ∀ x ∈ [a, b], ∃ n : Numeral Char.isDigit, n.text = (Value.float x).format.toList ∧
      n.value = x.withoutNegativeZero := by
  obtain ⟨m, hm, hmvalue⟩ := exists_format ha
  obtain ⟨n, hn, hnvalue⟩ := exists_format hb
  refine ⟨?_, ?_⟩
  · rw [← hmvalue, ← hnvalue, ← meaning_floatRendering]
    exact read_of_text (text_floatRendering hm hn)
  · exact List.forall_mem_cons.2 ⟨⟨m, hm, hmvalue⟩, List.forall_mem_singleton.2 ⟨n, hn, hnvalue⟩⟩

/-- A negative zero, and a double that other programs write with an exponent. -/
theorem read_floatSource_tiny :
    read "f(0..0.0000001, 0, k=0.0000001)" = .ok [floatCall 0 (Binary64.ofDecimal false 1 (-7))] ∧
    ∀ x ∈ [-0, Binary64.ofDecimal false 1 (-7)], ∃ n : Numeral Char.isDigit,
      n.text = (Value.float x).format.toList ∧ n.value = x.withoutNegativeZero := by
  have h := read_floatSource (a := -0) (b := Binary64.ofDecimal false 1 (-7))
    (by decide +kernel) (by decide +kernel)
  have hsource : floatSource (-0) (Binary64.ofDecimal false 1 (-7)) =
      "f(0..0.0000001, 0, k=0.0000001)" := by decide +kernel
  have hzero : (-0 : Binary64).withoutNegativeZero = 0 := by decide +kernel
  have htiny : (Binary64.ofDecimal false 1 (-7)).withoutNegativeZero =
      Binary64.ofDecimal false 1 (-7) := by decide +kernel
  rwa [hsource, hzero, htiny] at h

end Assay.Draw
