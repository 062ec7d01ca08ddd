import Assay.Draw.Builtin
import Assay.Proofs.Chain.Call
import Assay.Proofs.Number.Integer

/-!
The bounds that `int` and `array` are called with: exact integers that fit into a signed word, in
order, and for `array` within the limits.
-/

namespace Assay.Draw

open Chain (Call OptionValue Refusal)
open Number (Binary64)
open Assay.Random (IntegerRange)

/-- The integers that a call is bounded by. -/
def HasBounds (c : Call) (default : Binary64 × Binary64) (a b : Int) : Prop :=
  ∃ low high, c.HasRange default low high ∧ low.IsInteger a ∧ high.IsInteger b

theorem HasBounds.unique {c : Call} {default : Binary64 × Binary64} {a b a' b' : Int}
    (h : HasBounds c default a b) (h' : HasBounds c default a' b') : a = a' ∧ b = b' := by
  obtain ⟨low, high, hrange, hlow, hhigh⟩ := h
  obtain ⟨low', high', hrange', hlow', hhigh'⟩ := h'
  have hsame : (low, high) = (low', high') := hrange.range?_getD.symm.trans hrange'.range?_getD
  obtain ⟨rfl, rfl⟩ := Prod.mk.inj hsame
  exact ⟨hlow.unique hlow', hhigh.unique hhigh'⟩

/-- The last `unique` option of the call says so. -/
def AsksUnique (c : Call) : Prop := c.LastOption "unique" (.flag true)

/-- The comparisons of doubles let pass exactly the integers that are words and in order, and then
no bound is changed when it becomes a word. -/
theorem integerRange_eq_ok_iff {c : Call} {default : Binary64 × Binary64} {low high : Binary64}
    (hbounds : c.range?.getD default = (low, high)) {range : IntegerRange} :
    integerRange c default = .ok range ↔
      low.IsInteger range.low.toInt ∧ high.IsInteger range.high.toInt := by
  unfold integerRange
  rw [hbounds]
  dsimp only
  constructor
  · intro h
    split at h
    · cases h
    · next hwhole =>
      obtain ⟨hlow, hhigh⟩ : low.isIntegral = true ∧ high.isIntegral = true := by
        simpa using hwhole
      have hlow := Binary64.isInteger_truncate hlow
      have hhigh := Binary64.isInteger_truncate hhigh
      split at h
      · cases h
      · next hfit =>
        rw [Bool.or_eq_true, hlow.lt_iff Binary64.isInteger_least,
          Binary64.isInteger_greatest.le_iff hhigh] at hfit
        split at h
        · cases h
        · next hordered =>
          rw [hhigh.lt_iff hlow] at hordered
          rw [← Except.ok.inj h, hlow.toInt_toInt64 (by omega) (by omega),
            hhigh.toInt_toInt64 (by omega) (by omega)]
          exact ⟨hlow, hhigh⟩
  · rintro ⟨hlow, hhigh⟩
    have hordered := Int64.le_iff_toInt_le.mp range.ordered
    have hleast := range.low.le_toInt
    have hgreatest := range.high.toInt_lt
    have hwhole : ¬(!low.isIntegral || !high.isIntegral) = true := by
      simp [hlow.isIntegral, hhigh.isIntegral]
    have hfit : ¬(low.lt (.ofInt Int64.minValue.toInt) ||
        (Binary64.ofInt Int64.maxValue.toInt).le high) = true := by
      rw [Bool.or_eq_true, hlow.lt_iff Binary64.isInteger_least,
        Binary64.isInteger_greatest.le_iff hhigh]
      omega
    have hempty : ¬high.lt low = true := by
      rw [hhigh.lt_iff hlow]
      omega
    rw [dif_neg hwhole, if_neg hfit, dif_neg hempty]
    congr
    · exact Int64.toInt_inj.mp (hlow.toInt_toInt64 (by omega) (by omega))
    · exact Int64.toInt_inj.mp (hhigh.toInt_toInt64 (by omega) (by omega))

theorem exists_integerRange {c : Call} {default : Binary64 × Binary64} {low high : Binary64}
    (hbounds : c.range?.getD default = (low, high)) {a b : Int} (hlow : low.IsInteger a)
    (hhigh : high.IsInteger b) (hleast : -(2 ^ 63) ≤ a) (hordered : a ≤ b)
    (hgreatest : b < 2 ^ 63) :
    ∃ range, integerRange c default = .ok range ∧ range.low.toInt = a ∧ range.high.toInt = b := by
  have ha : (Int64.ofInt a).toInt = a := Int64.toInt_ofInt_of_le (by omega) (by omega)
  have hb : (Int64.ofInt b).toInt = b := Int64.toInt_ofInt_of_le (by omega) (by omega)
  have hle : Int64.ofInt a ≤ Int64.ofInt b := by
    rwa [Int64.le_iff_toInt_le, ha, hb]
  refine ⟨⟨Int64.ofInt a, Int64.ofInt b, hle⟩, ?_, ha, hb⟩
  rw [integerRange_eq_ok_iff hbounds, ha, hb]
  exact ⟨hlow, hhigh⟩

theorem hasBounds_of_integerRange {c : Call} {default : Binary64 × Binary64} {range : IntegerRange}
    (h : integerRange c default = .ok range) :
    HasBounds c default range.low.toInt range.high.toInt :=
  ⟨_, _, c.hasRange_range?_getD default, (integerRange_eq_ok_iff rfl).1 h⟩

/-- A word that is not negative keeps its value without a sign. -/
theorem toNat_toUInt64_of_nonneg {x : Int64} (h : 0 ≤ x.toInt) :
    (x.toUInt64.toNat : Int) = x.toInt := by
  have hle : 0 ≤ x := Int64.le_iff_toInt_le.mpr h
  rw [Int64.toNat_toUInt64_of_le hle]
  exact Int.toNat_of_nonneg h

/-- A range that is accepted is never full: the greatest word is no double. -/
theorem not_full_of_integerRange {c : Call} {default : Binary64 × Binary64} {range : IntegerRange}
    (h : integerRange c default = .ok range) :
    range.high.toInt - range.low.toInt < 2 ^ 64 - 1 := by
  obtain ⟨low, high, -, -, hhigh⟩ := hasBounds_of_integerRange h
  have hgreatest := hhigh.ne_greatest
  have hlow := range.low.le_toInt
  have hlt := range.high.toInt_lt
  omega

theorem lengthRange_eq_ok_iff {limits : DrawLimits} {c : Call} {lengths : IntegerRange} :
    lengthRange limits c = .ok lengths ↔ integerRange c (1, 1) = .ok lengths ∧
      0 ≤ lengths.low.toInt ∧ lengths.high.toInt ≤ limits.maxArrayLength := by
  unfold lengthRange
  cases hrange : integerRange c (1, 1) with
  | error e => simp
  | ok range =>
    have hordered := Int64.le_iff_toInt_le.mp range.ordered
    have hnegative : range.low < 0 ↔ range.low.toInt < 0 := by
      rw [Int64.lt_iff_toInt_lt, Int64.toInt_zero]
    dsimp only
    rw [Except.ok.injEq]
    constructor
    · intro h
      split_ifs at h with hlow hhigh
      obtain rfl := Except.ok.inj h
      rw [hnegative] at hlow
      have hcast := toNat_toUInt64_of_nonneg (x := range.high) (by omega)
      exact ⟨rfl, by omega, by omega⟩
    · rintro ⟨rfl, hlow, hhigh⟩
      have hcast := toNat_toUInt64_of_nonneg (x := range.high) (by omega)
      rw [if_neg (mt hnegative.1 (by omega)), if_neg (by omega)]

theorem lengthRange_eq_ok {limits : DrawLimits} {c : Call} {lengths : IntegerRange}
    (h : lengthRange limits c = .ok lengths) :
    HasBounds c (1, 1) lengths.low.toInt lengths.high.toInt ∧ 0 ≤ lengths.low.toInt ∧
      lengths.high.toInt ≤ limits.maxArrayLength := by
  obtain ⟨hrange, hlow, hhigh⟩ := lengthRange_eq_ok_iff.1 h
  exact ⟨hasBounds_of_integerRange hrange, hlow, hhigh⟩

theorem integerRange_of_lengthRange {limits : DrawLimits} {c : Call} {lengths : IntegerRange}
    (h : lengthRange limits c = .ok lengths) : integerRange c (1, 1) = .ok lengths :=
  (lengthRange_eq_ok_iff.1 h).1

theorem uniqueOption_eq_ok {c : Call} {unique : Bool} (h : uniqueOption c = .ok unique) :
    unique = true ↔ AsksUnique c := by
  unfold AsksUnique
  rw [← Call.option?_eq_some_iff]
  unfold uniqueOption at h
  split at h
  · next hnone => simp [hnone, ← Except.ok.inj h]
  · next flag hflag => simp [hflag, ← Except.ok.inj h]
  · cases h

/-- An accepted call of `int` has a range. -/
theorem exists_intSampler {c : Call} {left : Option Sampler} {σ : Sampler}
    (h : intFunction.build c left = .ok σ) :
    ∃ range, integerRange c (1, 100) = .ok range ∧
      σ = .ofDraw fun s => (.ok (.int (range.draw s).1), (range.draw s).2) := by
  simp only [intFunction] at h
  cases hrange : integerRange c (1, 100) with
  | error e => simp [hrange] at h
  | ok range =>
    rw [hrange] at h
    exact ⟨range, rfl, (Except.ok.inj h).symm⟩

/-- A call of `word` is accepted because there are words. -/
theorem wordSampler {c : Call} {left : Option Sampler} {σ : Sampler}
    (h : wordFunction.build c left = .ok σ) :
    dictionary.isEmpty = false ∧ σ = .ofDraw (drawWord dictionary) := by
  simp only [wordFunction] at h
  split at h
  · cases h
  · next hne => exact ⟨eq_false_of_ne_true hne, (Except.ok.inj h).symm⟩

/-- An accepted call of `array` has a sampler on its left, lengths, and a flag. -/
theorem exists_arraySampler {limits : DrawLimits} {c : Call} {left : Option Sampler} {σ : Sampler}
    (h : (arrayFunction limits).build c left = .ok σ) :
    ∃ inner lengths unique, left = some inner ∧ lengthRange limits c = .ok lengths ∧
      uniqueOption c = .ok unique ∧
      σ = arraySampler inner lengths unique (max limits.uniqueRetries 1) := by
  simp only [arrayFunction] at h
  cases left with
  | none => cases h
  | some inner =>
    cases hlengths : lengthRange limits c with
    | error e => simp [hlengths] at h
    | ok lengths =>
      cases hunique : uniqueOption c with
      | error e => simp [hlengths, hunique] at h
      | ok unique =>
        simp only [hlengths, hunique] at h
        exact ⟨inner, lengths, unique, rfl, rfl, rfl, (Except.ok.inj h).symm⟩

end Assay.Draw
