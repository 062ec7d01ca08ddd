import Assay.Chain.Reader
import Assay.Number.Text
import Assay.Proofs.Number.Rounding
import Assay.Proofs.Text.Blank

/-!
Written numbers. A numeral over the digits of every script is what the reader takes for a number;
only a numeral over the ASCII digits has a value.
-/

namespace Assay.Chain

open Number
open Text

/-- A sign, digits, and a fraction if there are digits after the point. -/
structure Numeral (digit : Char → Bool) where
  negative : Bool
  whole : List Char
  fraction : List Char
  whole_ne_nil : whole ≠ []
  digits : ∀ c ∈ whole ++ fraction, digit c = true

/-- The digits after the point, with the point. -/
def fractionText : List Char → List Char
  | [] => []
  | ds => '.' :: ds

namespace Numeral

variable {digit : Char → Bool}

/-- The digits and the point, without the sign. -/
def unsigned (n : Numeral digit) : List Char := n.whole ++ fractionText n.fraction

def text (n : Numeral digit) : List Char := if n.negative then '-' :: n.unsigned else n.unsigned

/-- The double nearest to the number. -/
def value (n : Numeral Char.isDigit) : Binary64 :=
  Binary64.ofDecimal n.negative (Nat.ofDigitChars 10 (n.whole ++ n.fraction) 0)
    (-(n.fraction.length : Int))

/-- The same numeral, its digits taken as digits of any script. -/
def shape (n : Numeral Char.isDigit) : Numeral isDecimalDigit where
  negative := n.negative
  whole := n.whole
  fraction := n.fraction
  whole_ne_nil := n.whole_ne_nil
  digits c hc := isDecimalDigit_of_isDigit (n.digits c hc)

@[simp] theorem text_shape (n : Numeral Char.isDigit) : n.shape.text = n.text := rfl

theorem isDecimalDigit_whole (n : Numeral isDecimalDigit) :
    ∀ c ∈ n.whole, isDecimalDigit c = true :=
  fun c hc => n.digits c (List.mem_append_left _ hc)

theorem isDecimalDigit_fraction (n : Numeral isDecimalDigit) :
    ∀ c ∈ n.fraction, isDecimalDigit c = true :=
  fun c hc => n.digits c (List.mem_append_right _ hc)

end Numeral

/-- No number that ends before `rest` goes on into it. -/
def Stops (rest : List Char) : Prop :=
  (∀ c ∈ rest.head?, isDecimalDigit c = false) ∧
    ∀ rest', rest = '.' :: rest' → ∀ c ∈ rest'.head?, isDecimalDigit c = false

theorem stops_nil : Stops [] := ⟨by simp, by simp⟩

theorem takeDigits_append {ds rest : List Char} (hne : ds ≠ [])
    (hds : ∀ c ∈ ds, isDecimalDigit c = true) (hrest : ∀ c ∈ rest.head?, isDecimalDigit c = false) :
    takeDigits (ds ++ rest) = some (ds, rest) := by
  unfold takeDigits
  rw [takeWhile_run hds hrest, dropWhile_run hds hrest]
  cases ds with
  | nil => exact absurd rfl hne
  | cons d ds => rfl

theorem takeDigits_eq_some {cs ds rest : List Char} (h : takeDigits cs = some (ds, rest)) :
    ds ≠ [] ∧ (∀ c ∈ ds, isDecimalDigit c = true) ∧ cs = ds ++ rest := by
  unfold takeDigits at h
  split at h
  next => cases h
  next hds =>
    cases h
    exact ⟨hds, fun c hc => mem_takeWhile hc, List.takeWhile_append_dropWhile.symm⟩

theorem takeDigits_of_head? {cs : List Char} (h : ∀ c ∈ cs.head?, isDecimalDigit c = false) :
    takeDigits cs = none := by
  have hrun : ([] ++ cs).takeWhile isDecimalDigit = [] := takeWhile_run (by simp) h
  rw [List.nil_append] at hrun
  unfold takeDigits
  rw [hrun]

theorem takeFraction_append {ds rest : List Char} (hds : ∀ c ∈ ds, isDecimalDigit c = true)
    (hrest : Stops rest) : takeFraction (fractionText ds ++ rest) = (fractionText ds, rest) := by
  cases ds with
  | nil =>
    unfold takeFraction
    split
    next rest' h =>
      -- a point that no digit follows belongs to the rest
      have hnone := takeDigits_of_head? (hrest.2 rest' h)
      rw [hnone]
      exact congrArg _ h.symm
    next => rfl
  | cons d ds =>
    have hsome := takeDigits_append (by simp) hds hrest.1
    simp only [fractionText, List.cons_append, takeFraction] at hsome ⊢
    rw [hsome]

theorem takeFraction_eq {cs written rest : List Char} (h : takeFraction cs = (written, rest)) :
    ∃ ds, (∀ c ∈ ds, isDecimalDigit c = true) ∧ fractionText ds = written ∧
      cs = written ++ rest := by
  unfold takeFraction at h
  split at h
  next cs =>
    split at h
    next ds rest' hdigits =>
      obtain ⟨hne, hds, rfl⟩ := takeDigits_eq_some hdigits
      cases h
      obtain ⟨d, ds', rfl⟩ := List.exists_cons_of_ne_nil hne
      exact ⟨d :: ds', hds, rfl, rfl⟩
    next =>
      cases h
      exact ⟨[], by simp, rfl, rfl⟩
  next =>
    cases h
    exact ⟨[], by simp, rfl, rfl⟩

namespace Numeral

variable {digit : Char → Bool}

theorem text_of_negative {n : Numeral digit} (h : n.negative = true) :
    n.text = '-' :: n.unsigned := by
  rw [text, if_pos h]

theorem text_of_positive {n : Numeral digit} (h : n.negative = false) : n.text = n.unsigned := by
  rw [text, h]
  exact if_neg Bool.false_ne_true

/-- A text without a sign is not read as one with a sign. -/
theorem unsigned_ne_minus (n : Numeral isDecimalDigit) (rest cs : List Char) :
    n.unsigned ++ rest ≠ '-' :: cs := by
  intro h
  obtain ⟨d, ds, hds⟩ := List.exists_cons_of_ne_nil n.whole_ne_nil
  rw [unsigned, hds, List.cons_append, List.cons_append] at h
  have hd := n.isDecimalDigit_whole d (by rw [hds]; simp)
  exact ne_mark_of_isDecimalDigit hd (by decide) (List.cons.inj h).1

end Numeral

theorem takeUnsigned_append (n : Numeral isDecimalDigit) {rest : List Char} (hrest : Stops rest) :
    takeUnsigned (n.unsigned ++ rest) = some (n.unsigned, rest) := by
  have hstop : ∀ c ∈ (fractionText n.fraction ++ rest).head?, isDecimalDigit c = false := by
    cases hf : n.fraction with
    | nil => exact hrest.1
    | cons d ds =>
      intro c hc
      cases hc
      exact isDecimalDigit_of_mem_marks (by decide)
  have hwhole := takeDigits_append n.whole_ne_nil n.isDecimalDigit_whole hstop
  have hfraction := takeFraction_append n.isDecimalDigit_fraction hrest
  unfold takeUnsigned Numeral.unsigned
  rw [List.append_assoc, hwhole]
  simp only [hfraction]

theorem takeUnsigned_eq_some (negative : Bool) {cs written rest : List Char}
    (h : takeUnsigned cs = some (written, rest)) :
    ∃ n : Numeral isDecimalDigit, n.negative = negative ∧ n.unsigned = written ∧
      cs = written ++ rest := by
  unfold takeUnsigned at h
  split at h
  next => cases h
  next whole rest' hdigits =>
    obtain ⟨hne, hwhole, rfl⟩ := takeDigits_eq_some hdigits
    rcases htake : takeFraction rest' with ⟨point, rest''⟩
    obtain ⟨fraction, hfraction, rfl, rfl⟩ := takeFraction_eq htake
    rw [htake] at h
    cases h
    refine ⟨⟨negative, whole, fraction, hne, ?_⟩, rfl, rfl, ?_⟩
    · intro c hc
      exact (List.mem_append.1 hc).elim (hwhole c) (hfraction c)
    · rw [List.append_assoc]

/-- The reader takes a whole numeral, as far as it goes. -/
theorem takeNumber_append (n : Numeral isDecimalDigit) {rest : List Char} (hrest : Stops rest) :
    takeNumber (n.text ++ rest) = some (n.text, rest) := by
  have hunsigned := takeUnsigned_append n hrest
  cases hneg : n.negative with
  | true =>
    rw [Numeral.text_of_negative hneg, List.cons_append, takeNumber, hunsigned]
  | false =>
    rw [Numeral.text_of_positive hneg]
    unfold takeNumber
    split
    next rest' h => exact absurd h (n.unsigned_ne_minus rest rest')
    next => exact hunsigned

/-- What the reader takes is a numeral. -/
theorem takeNumber_eq_some {cs written rest : List Char}
    (h : takeNumber cs = some (written, rest)) :
    ∃ n : Numeral isDecimalDigit, n.text = written ∧ cs = written ++ rest := by
  unfold takeNumber at h
  split at h
  next cs =>
    split at h
    next => cases h
    next unsigned rest' hunsigned =>
      obtain ⟨n, hneg, htext, rfl⟩ := takeUnsigned_eq_some true hunsigned
      cases h
      exact ⟨n, by rw [Numeral.text_of_negative hneg, htext], rfl⟩
  next =>
    obtain ⟨n, hneg, htext, hcs⟩ := takeUnsigned_eq_some false h
    exact ⟨n, by rw [Numeral.text_of_positive hneg, htext], hcs⟩

/-- A text is a number exactly when it is a numeral. -/
theorem isNumber_iff {cs : List Char} :
    isNumber cs = true ↔ ∃ n : Numeral isDecimalDigit, n.text = cs := by
  unfold isNumber
  constructor
  · intro h
    split at h
    next written htake =>
      obtain ⟨n, rfl, hcs⟩ := takeNumber_eq_some htake
      exact ⟨n, by rw [hcs, List.append_nil]⟩
    next => cases h
  · rintro ⟨n, rfl⟩
    have h := takeNumber_append n stops_nil
    rw [List.append_nil] at h
    rw [h]

theorem valueOfDigits_of_isDigit {ds : List Char} (h : ∀ c ∈ ds, c.isDigit = true) (sum : Nat) :
    valueOfDigits sum ds = some (Nat.ofDigitChars 10 ds sum) := by
  induction ds generalizing sum with
  | nil => rfl
  | cons d ds ih =>
    rw [valueOfDigits, if_pos (h d List.mem_cons_self), Nat.ofDigitChars_cons]
    exact ih (fun c hc => h c (List.mem_cons_of_mem d hc)) _

theorem isDigit_of_valueOfDigits {ds : List Char} {sum v : Nat}
    (h : valueOfDigits sum ds = some v) : ∀ c ∈ ds, c.isDigit = true := by
  induction ds generalizing sum with
  | nil => simp
  | cons d ds ih =>
    rw [valueOfDigits] at h
    split at h
    next hd =>
      intro c hc
      rcases List.mem_cons.1 hc with rfl | hc
      · exact hd
      · exact ih h c hc
    next => cases h

/-- The value of a numeral comes from its digits alone, wherever they are from. -/
theorem numberValue?_text (n : Numeral isDecimalDigit) :
    numberValue? n.text = (valueOfDigits 0 (n.whole ++ n.fraction)).map fun digits =>
      Binary64.ofDecimal n.negative digits (-(n.fraction.length : Int)) := by
  have hwhole : ∀ c ∈ n.whole, (c != '.') = true := by
    intro c hc
    exact bne_iff_ne.2 (ne_mark_of_isDecimalDigit (n.isDecimalDigit_whole c hc) (by decide))
  have hpoint : ∀ c ∈ (fractionText n.fraction).head?, (c != '.') = false := by
    cases n.fraction with
    | nil => simp [fractionText]
    | cons d ds => simp [fractionText]
  have hfraction : (fractionText n.fraction).drop 1 = n.fraction := by
    cases n.fraction with
    | nil => rfl
    | cons d ds => rfl
  have hvalue : numberValue? n.text = decimalValue? n.negative n.unsigned := by
    cases hneg : n.negative with
    | true => rw [Numeral.text_of_negative hneg, numberValue?]
    | false =>
      rw [Numeral.text_of_positive hneg]
      unfold numberValue?
      split
      next rest h => exact absurd h (by simpa using n.unsigned_ne_minus [] rest)
      next => rfl
  rw [hvalue]
  unfold decimalValue? Numeral.unsigned
  simp only [takeWhile_run hwhole hpoint, dropWhile_run hwhole hpoint, hfraction]

/-- A numeral over the ASCII digits is read as its value. -/
theorem readNumber_text (n : Numeral Char.isDigit) : readNumber n.text = .ok n.value := by
  unfold readNumber
  rw [← Numeral.text_shape, numberValue?_text]
  have h := valueOfDigits_of_isDigit n.digits 0
  simp only [Numeral.shape, h, Option.map_some]
  rfl

/-- A numeral that is read has ASCII digits only. -/
theorem exists_of_readNumber {n : Numeral isDecimalDigit} {x : Binary64}
    (h : readNumber n.text = .ok x) : ∃ m : Numeral Char.isDigit, m.text = n.text ∧ m.value = x := by
  unfold readNumber at h
  rw [numberValue?_text] at h
  split at h
  next y hy =>
    obtain ⟨v, hv, -⟩ := Option.map_eq_some_iff.1 hy
    let m : Numeral Char.isDigit :=
      ⟨n.negative, n.whole, n.fraction, n.whole_ne_nil, isDigit_of_valueOfDigits hv⟩
    have hm : readNumber m.text = .ok x := by
      have htext : m.text = n.text := rfl
      unfold readNumber
      rw [htext, numberValue?_text, hy]
      exact h
    rw [readNumber_text] at hm
    exact ⟨m, rfl, Except.ok.inj hm⟩
  next => cases h

namespace Numeral

/-- Digits, with a point before the last `places` of them if there are any. -/
def pointed (negative : Bool) (cs : List Char) (places : Nat) (hplaces : places < cs.length)
    (hcs : ∀ c ∈ cs, c.isDigit = true) : Numeral Char.isDigit where
  negative := negative
  whole := cs.take (cs.length - places)
  fraction := cs.drop (cs.length - places)
  whole_ne_nil := by
    rw [Ne, List.take_eq_nil_iff, List.eq_nil_iff_length_eq_zero]
    omega
  digits := by rwa [List.take_append_drop]

/-- The point is worth a power of ten. -/
theorem value_pointed {cs : List Char} {places : Nat} (hplaces : places < cs.length)
    (hcs : ∀ c ∈ cs, c.isDigit = true) (negative : Bool) :
    (pointed negative cs places hplaces hcs).value =
      Binary64.ofRatio negative (Nat.ofDigitChars 10 cs 0 * unitsPerOne) (10 ^ places) := by
  have hlength : (cs.drop (cs.length - places)).length = places := by
    rw [List.length_drop]
    omega
  unfold value pointed
  dsimp only
  rw [List.take_append_drop, hlength, Binary64.ofDecimal_neg]

theorem isDigit_of_mem_replicate {c : Char} {k : Nat} (hc : c ∈ List.replicate k '0') :
    c.isDigit = true := by
  rw [List.eq_of_mem_replicate hc]
  rfl

/-- Zeros before digits are worth nothing. -/
theorem ofDigitChars_replicate_append (k : Nat) (cs : List Char) :
    Nat.ofDigitChars 10 (List.replicate k '0' ++ cs) 0 = Nat.ofDigitChars 10 cs 0 := by
  rw [Nat.ofDigitChars_append, Nat.ofDigitChars_replicate_zero, Nat.mul_zero]

theorem isDigit_of_mem_decimalDigitsOf {c : Char} {n : Nat} (hc : c ∈ decimalDigitsOf n) :
    c.isDigit = true :=
  Nat.isDigit_of_mem_toDigits (by decide) (by decide) hc

/-- All digits of a number of units, at least one of them before the point. -/
def unitDigits (units : Nat) : List Char :=
  List.replicate 1075 '0' ++ Nat.toDigits 10 (units * 5 ^ 1074)

theorem lt_length_unitDigits (units : Nat) : 1074 < (unitDigits units).length := by
  unfold unitDigits
  rw [List.length_append, List.length_replicate]
  omega

theorem isDigit_of_mem_unitDigits (units : Nat) : ∀ c ∈ unitDigits units, c.isDigit = true :=
  List.forall_mem_append.2 ⟨fun _ => isDigit_of_mem_replicate,
    fun _ => isDigit_of_mem_decimalDigitsOf⟩

/-- The exact numeral of a number of units. -/
def ofUnits (negative : Bool) (units : Nat) : Numeral Char.isDigit where
  negative := negative
  whole := (unitDigits units).take ((unitDigits units).length - 1074)
  fraction := (unitDigits units).drop ((unitDigits units).length - 1074)
  whole_ne_nil := by
    have h := lt_length_unitDigits units
    rw [Ne, List.take_eq_nil_iff, List.eq_nil_iff_length_eq_zero]
    omega
  digits := by
    rw [List.take_append_drop]
    exact isDigit_of_mem_unitDigits units

theorem value_ofUnits (negative : Bool) (units : Nat) :
    (ofUnits negative units).value =
      Binary64.ofRatio negative (units * 10 ^ 1074) (10 ^ 1074) := by
  have hpointed : ofUnits negative units = pointed negative (unitDigits units) 1074
      (lt_length_unitDigits units) (isDigit_of_mem_unitDigits units) := rfl
  rw [hpointed, value_pointed, unitDigits, ofDigitChars_replicate_append,
    Nat.ofDigitChars_ten_toDigits, unitsPerOne, mul_five_pow_mul_two_pow units 1074]

/-- Every double but not-a-number can be written. -/
theorem exists_value {x : Binary64} (hx : x ≠ .nan) :
    ∃ n : Numeral Char.isDigit, n.value = x := by
  have hpos : ∀ k, 0 < 10 ^ k := fun _ => Nat.pow_pos (by decide)
  obtain ⟨den, hden, hvalue⟩ : ∃ den, 0 < den ∧ ∀ negative units,
      (ofUnits negative units).value = Binary64.ofRatio negative (units * den) den :=
    ⟨10 ^ 1074, hpos 1074, value_ofUnits⟩
  cases x with
  | nan => exact absurd rfl hx
  | infinite negative =>
    exact ⟨ofUnits negative sizeLimit,
      (hvalue _ _).trans (Binary64.ofRatio_sizeLimit negative hden)⟩
  | finite negative units fits =>
    exact ⟨ofUnits negative units, (hvalue _ _).trans (Binary64.ofRatio_mul negative fits hden)⟩

end Numeral

end Assay.Chain
