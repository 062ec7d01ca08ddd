import Assay.Proofs.Draw.Bounds
import Assay.Proofs.Random.UniformDraw

/-!
Which bounds are accepted. They are the integers that fit into a signed word and are in order,
among all doubles, and with them no word arithmetic wraps: neither the width of the range, nor the
drawn integer, nor the lengths without a sign.
-/

namespace Assay.Random.IntegerRange

/-- The words of a range behave as the integers from `a` to `b`. The width is their exact number,
which is not zero, and every draw adds an offset below it to `a`. -/
structure Exact (r : IntegerRange) (a b : Int) : Prop where
  low : r.low.toInt = a
  high : r.high.toInt = b
  ordered : a ≤ b
  width : (r.width.toNat : Int) = b - a + 1
  width_pos : 1 ≤ b - a + 1
  width_le : b - a + 1 ≤ 2 ^ 64 - 1
  offset_lt : ∀ s, ((drawOffset .double (b - a + 1).toNat attempts s).1 : Int) < b - a + 1
  drawn : ∀ s, (r.draw s).1.toInt = a + (drawOffset .double (b - a + 1).toNat attempts s).1
  rest : ∀ s, (r.draw s).2 = (drawOffset .double (b - a + 1).toNat attempts s).2

theorem exact_of_not_full {r : IntegerRange} (hfull : r.high.toInt - r.low.toInt < 2 ^ 64 - 1) :
    r.Exact r.low.toInt r.high.toInt := by
  have hordered := Int64.le_iff_toInt_le.mp r.ordered
  have hhigh := r.high.toInt_lt
  have hwidth := toNat_width_of_not_full hfull
  have hcount : (r.high.toInt - r.low.toInt + 1).toNat = r.width.toNat := by omega
  have hoffset (s : Source) : (drawOffset .double r.width.toNat attempts s).1 < r.width.toNat :=
    drawOffset_lt .double (by omega) attempts s
  refine ⟨rfl, rfl, hordered, hwidth, by omega, by omega, ?_, ?_, ?_⟩
  · intro s
    have hlt := hoffset s
    rw [hcount]
    omega
  · intro s
    have hlt := hoffset s
    rw [hcount, draw_of_not_full hfull, toInt_add_offset (by omega)]
  · intro s
    rw [hcount, draw_of_not_full hfull]

end Assay.Random.IntegerRange

namespace Assay.Draw

open Chain (Call)
open Number (Binary64)
open Assay.Random (IntegerRange)

/-- The option `unique` that counts is a flag, if there is one. -/
def FlagIfUnique (c : Call) : Prop := ∀ value, c.LastOption "unique" value → ∃ b, value = .flag b

theorem exists_uniqueOption {c : Call} (h : FlagIfUnique c) :
    ∃ unique, uniqueOption c = .ok unique := by
  unfold uniqueOption
  split
  · exact ⟨_, rfl⟩
  · exact ⟨_, rfl⟩
  · next value hnotFlag hvalue =>
    obtain ⟨b, rfl⟩ := h value (Call.option?_eq_some_iff.1 hvalue)
    exact absurd rfl (hnotFlag b)

/-- A call of `array` with a sampler on its left and no fault in its option is accepted exactly if
its lengths are. -/
theorem build_array_iff {limits : DrawLimits} {c : Call} {inner : Sampler} (h : FlagIfUnique c) :
    (∃ σ, (arrayFunction limits).build c (some inner) = .ok σ) ↔
      ∃ lengths, lengthRange limits c = .ok lengths := by
  constructor
  · rintro ⟨σ, hσ⟩
    obtain ⟨-, lengths, -, -, hlengths, -⟩ := exists_arraySampler hσ
    exact ⟨lengths, hlengths⟩
  · rintro ⟨lengths, hlengths⟩
    obtain ⟨unique, hunique⟩ := exists_uniqueOption h
    refine ⟨arraySampler inner lengths unique (max limits.uniqueRetries 1), ?_⟩
    simp only [arrayFunction, hlengths, hunique]

/-- A limit is compared with a length as a word exactly as it is as a number. -/
theorem ofNat_lt_toUInt64_iff {limit : Nat} (hlimit : limit < 2 ^ 64) {x : Int64}
    (hx : 0 ≤ x.toInt) : UInt64.ofNat limit < x.toUInt64 ↔ (limit : Int) < x.toInt := by
  have hcast := toNat_toUInt64_of_nonneg hx
  rw [UInt64.lt_iff_toNat_lt, UInt64.toNat_ofNat_of_lt' hlimit]
  omega

/-- Bounds are accepted exactly if they are integers that fit into a signed word and are in order,
and then they become those words, and the range of words behaves as the range of integers. `int`
draws from this range, and `array` its lengths. `array` also wants the lower bound not to be
negative and the upper one not to be greater than the limit, and then both bounds, the limit and
every length that is drawn are the same numbers as words without a sign. -/
theorem bounds_accepted_exactly {c : Call} {low high : Binary64} (h : c.range? = some (low, high))
    (default : Binary64 × Binary64) :
    ((∃ range, integerRange c default = .ok range) ↔
      ∃ a b, low.IsInteger a ∧ high.IsInteger b ∧ -(2 ^ 63) ≤ a ∧ a ≤ b ∧ b < 2 ^ 63) ∧
    ∀ range, integerRange c default = .ok range → ∃ a b,
      low.IsInteger a ∧ high.IsInteger b ∧ range.Exact a b ∧
      (∀ left, intFunction.build c left =
        .ok (.ofDraw fun s => (.ok (.int (range.draw s).1), (range.draw s).2))) ∧
      (∀ (limits : DrawLimits) (inner : Sampler), FlagIfUnique c →
        ((∃ σ, (arrayFunction limits).build c (some inner) = .ok σ) ↔
          0 ≤ a ∧ b ≤ limits.maxArrayLength)) ∧
      (∀ (limits : DrawLimits) (inner σ : Sampler),
        (arrayFunction limits).build c (some inner) = .ok σ →
          ∃ unique, σ = arraySampler inner range unique (max limits.uniqueRetries 1)) ∧
      (0 ≤ a → (range.low.toUInt64.toNat : Int) = a ∧ (range.high.toUInt64.toNat : Int) = b ∧
        (∀ s, ((range.draw s).1.toUInt64.toNat : Int) = (range.draw s).1.toInt) ∧
        ∀ limit < 2 ^ 64, (UInt64.ofNat limit).toNat = limit ∧
          (UInt64.ofNat limit < range.high.toUInt64 ↔ (limit : Int) < b)) := by
  have hbounds (default : Binary64 × Binary64) : c.range?.getD default = (low, high) := by
    rw [h, Option.getD_some]
  refine ⟨⟨?_, ?_⟩, ?_⟩
  · rintro ⟨range, hrange⟩
    obtain ⟨hlow, hhigh⟩ := (integerRange_eq_ok_iff (hbounds default)).1 hrange
    exact ⟨_, _, hlow, hhigh, range.low.le_toInt, Int64.le_iff_toInt_le.mp range.ordered,
      range.high.toInt_lt⟩
  · rintro ⟨a, b, hlow, hhigh, hleast, hordered, hgreatest⟩
    obtain ⟨range, hrange, -⟩ :=
      exists_integerRange (hbounds default) hlow hhigh hleast hordered hgreatest
    exact ⟨range, hrange⟩
  · intro range hrange
    have hexact := IntegerRange.exact_of_not_full (not_full_of_integerRange hrange)
    obtain ⟨hlow, hhigh⟩ := (integerRange_eq_ok_iff (hbounds default)).1 hrange
    -- the bounds do not come from the default, so every function reads the same range
    have hsame (default : Binary64 × Binary64) : integerRange c default = .ok range :=
      (integerRange_eq_ok_iff (hbounds default)).2 ⟨hlow, hhigh⟩
    refine ⟨_, _, hlow, hhigh, hexact, ?_, ?_, ?_, ?_⟩
    · intro left
      simp only [intFunction, hsame]
    · intro limits inner hflag
      rw [build_array_iff hflag]
      constructor
      · rintro ⟨lengths, hlengths⟩
        obtain ⟨hlengths, hpos, hmax⟩ := lengthRange_eq_ok_iff.1 hlengths
        obtain rfl := Except.ok.inj ((hsame _).symm.trans hlengths)
        exact ⟨hpos, hmax⟩
      · rintro ⟨hpos, hmax⟩
        exact ⟨range, lengthRange_eq_ok_iff.2 ⟨hsame _, hpos, hmax⟩⟩
    · intro limits inner σ hσ
      obtain ⟨inner', lengths, unique, hinner, hlengths, -, rfl⟩ := exists_arraySampler hσ
      obtain rfl := Option.some.inj hinner
      obtain rfl := Except.ok.inj ((hsame _).symm.trans (integerRange_of_lengthRange hlengths))
      exact ⟨unique, rfl⟩
    · intro hpos
      have hpos' := Int.le_trans hpos hexact.ordered
      refine ⟨toNat_toUInt64_of_nonneg hpos, toNat_toUInt64_of_nonneg hpos', ?_, ?_⟩
      · intro s
        exact toNat_toUInt64_of_nonneg (Int.le_trans hpos (range.draw_mem s).1)
      · intro limit hlimit
        exact ⟨UInt64.toNat_ofNat_of_lt' hlimit, ofNat_lt_toUInt64_iff hlimit hpos'⟩

/-- `array(-0..5, unique=true, 7..1)`: the zero is negative, and the second range does not count. -/
def fromMinusZero : Call := ⟨"array", [.range (-0) 5, .option "unique" (.flag true), .range 7 1]⟩

/-- `int` over the widest range that there is. -/
def widest : Call := ⟨"int", [.range (.ofInt (-(2 ^ 63))) (.ofInt (2 ^ 63 - 1024))]⟩

theorem bounds_accepted_exactly_widest :
    (∃ range, integerRange fromMinusZero (1, 1) = .ok range ∧ range.Exact 0 5) ∧
      (∀ inner, (∃ σ, (arrayFunction ⟨1, 5⟩).build fromMinusZero (some inner) = .ok σ) ∧
        ¬∃ σ, (arrayFunction ⟨1, 4⟩).build fromMinusZero (some inner) = .ok σ) ∧
      ∃ range, integerRange widest (1, 100) = .ok range ∧
        range.Exact (-(2 ^ 63)) (2 ^ 63 - 1024) := by
  have hzero : (-0 : Binary64).IsInteger 0 := by decide +kernel
  have hfive : (5 : Binary64).IsInteger 5 := by decide +kernel
  have hleast : (Binary64.ofInt (-(2 ^ 63))).IsInteger (-(2 ^ 63)) := by decide +kernel
  have hgreatest : (Binary64.ofInt (2 ^ 63 - 1024)).IsInteger (2 ^ 63 - 1024) := by decide +kernel
  have hflag : FlagIfUnique fromMinusZero := by
    intro value hvalue
    have hoption : fromMinusZero.option? "unique" = some (.flag true) := by decide +kernel
    rw [← Call.option?_eq_some_iff, hoption] at hvalue
    exact ⟨true, (Option.some.inj hvalue).symm⟩
  obtain ⟨haccepted, hranges⟩ := bounds_accepted_exactly (c := fromMinusZero) rfl (1, 1)
  obtain ⟨haccepted', hranges'⟩ := bounds_accepted_exactly (c := widest) rfl (1, 100)
  obtain ⟨range, hrange⟩ :=
    haccepted.2 ⟨0, 5, hzero, hfive, by decide, by decide, by decide⟩
  obtain ⟨range', hrange'⟩ :=
    haccepted'.2 ⟨_, _, hleast, hgreatest, by decide, by decide, by decide⟩
  obtain ⟨a, b, ha, hb, hexact, -, harray, -⟩ := hranges range hrange
  obtain ⟨a', b', ha', hb', hexact', -⟩ := hranges' range' hrange'
  obtain rfl := ha.unique hzero
  obtain rfl := hb.unique hfive
  obtain rfl := ha'.unique hleast
  obtain rfl := hb'.unique hgreatest
  refine ⟨⟨range, hrange, hexact⟩, fun inner => ⟨?_, ?_⟩, range', hrange', hexact'⟩
  · exact (harray ⟨1, 5⟩ inner hflag).2 (by decide)
  · rw [harray ⟨1, 4⟩ inner hflag]
    decide

end Assay.Draw
