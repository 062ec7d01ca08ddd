import Assay.Proofs.Random.Shares
import Assay.Proofs.Random.Source

/-!
What it takes for a draw to be uniform: every result stands for equally many words, at least every
other word stands for a result, and the first word that does decides. A draw of an offset is
uniform, and so is a draw of an integer from every range that is not full.
-/

namespace Assay.Random

open Finset

/-- A draw by words of one size, one of `n` results for each word that is accepted. What a word
stands for is told by `pick?`; the other words are drawn again. -/
structure UniformDraw {α : Type} [DecidableEq α] (w : Words) (n : Nat) (results : Set α)
    (pick? : Nat → Option α) (draw : Source → α × Source) : Prop where
  /-- A word is accepted by the low half of its product with the width. -/
  accepts : ∀ v, (pick? v).isSome ↔ v * n % 2 ^ w.bits ≤ n * 2 ^ leadingZeros w.bits n - 1
  shares : ∀ a ∈ results,
    {v ∈ range (2 ^ w.bits) | pick? v = some a}.card = 2 ^ leadingZeros w.bits n
  inside : ∀ v < 2 ^ w.bits, ∀ a, pick? v = some a → a ∈ results
  half : 2 ^ w.bits ≤ 2 * {v ∈ range (2 ^ w.bits) | (pick? v).isSome}.card
  /-- The words before the first accepted one leave no other trace than that they are used up. -/
  first : ∀ s i a, (∀ j < i, pick? (w.word s j) = none) → pick? (w.word s i) = some a →
    draw s = (a, w.after s (i + 1))
  drawn : ∀ s, (draw s).1 ∈ results

section Offsets

variable {α : Type} [DecidableEq α] {w : Words} {n : Nat}

/-- A uniform draw of an offset gives a uniform draw of what the offsets stand for. -/
theorem uniformDraw_map (hearly : w.Early) (hpos : 0 < n) (hlt : n < 2 ^ w.bits) {value : Nat → α}
    (hvalue : Set.InjOn value {k | k < n}) {draw : Source → α × Source}
    (hdraw : ∀ s, draw s =
      (value (drawOffset w n attempts s).1, (drawOffset w n attempts s).2)) :
    UniformDraw w n (value '' {k | k < n}) (fun v => (offset? w.bits n v).map value) draw where
  accepts v := by
    have hzone := zone_eq hpos hlt
    unfold share at hzone
    rw [Option.isSome_map, offset?, ← hzone]
    split
    · next hle => simp [hle]
    · next hgt => simp [hgt]
  shares := by
    rintro _ ⟨k, hk, rfl⟩
    have hwords : {v ∈ range (2 ^ w.bits) | (offset? w.bits n v).map value = some (value k)} =
        {v ∈ range (2 ^ w.bits) | offset? w.bits n v = some k} := by
      apply filter_congr
      intro v hv
      rw [Option.map_eq_some_iff]
      constructor
      · rintro ⟨j, hj, hsame⟩
        have hjn : j < n := offset?_lt hpos (mem_range.1 hv) hj
        rwa [hvalue hjn hk hsame] at hj
      · intro hk'
        exact ⟨k, hk', rfl⟩
    rw [hwords]
    exact card_words_of_offset hpos hlt hk
  inside := by
    intro v hv a ha
    obtain ⟨k, hk, rfl⟩ := Option.map_eq_some_iff.1 ha
    exact ⟨k, offset?_lt hpos hv hk, rfl⟩
  half := by
    simp only [Option.isSome_map]
    rw [card_accepted_words hpos hlt]
    exact (share_bounds hpos hlt).1
  first := by
    intro s i a hrejected haccepted
    obtain ⟨k, hk, rfl⟩ := Option.map_eq_some_iff.1 haccepted
    have hrejected' (j : Nat) (hj : j < i) : offset? w.bits n (w.word s j) = none :=
      Option.map_eq_none_iff.1 (hrejected j hj)
    have hoffset := drawOffset_attempts hearly hrejected' hk
    rw [hdraw, hoffset]
  drawn := by
    intro s
    rw [hdraw]
    exact ⟨_, drawOffset_lt w hpos attempts s, rfl⟩

theorem uniformDraw_index (hpos : 0 < n) (hlt : n < 2 ^ 32) :
    UniformDraw .single n {i | i < n} (offset? 32 n) (drawIndex n) := by
  have huniform : UniformDraw .single n (id '' {i | i < n}) (fun v => (offset? 32 n v).map id)
      (drawIndex n) :=
    uniformDraw_map Words.early_single hpos hlt (Set.injOn_id _) fun s => rfl
  simp only [Set.image_id, Option.map_id] at huniform
  exact huniform

end Offsets

namespace IntegerRange

variable {r : IntegerRange}

/-- The integer that a word stands for: the lower bound and an offset, added as words. -/
def ofWord? (r : IntegerRange) (v : Nat) : Option Int64 :=
  (offset? 64 r.width.toNat v).map fun k => r.low + (UInt64.ofNat k).toInt64

/-- A range that is not full, with its bounds as integers. Its width and the integers that words
stand for come out as if nothing could wrap. -/
structure Uniform (r : IntegerRange) (a b : Int) : Prop where
  low : r.low.toInt = a
  high : r.high.toInt = b
  width : (r.width.toNat : Int) = b - a + 1
  ofWord : ∀ v < 2 ^ 64, ∀ m, r.ofWord? v = some m →
    m.toInt = a + (v * r.width.toNat / 2 ^ 64 : Nat)
  draw : UniformDraw .double r.width.toNat {m | a ≤ m.toInt ∧ m.toInt ≤ b} r.ofWord? r.draw

theorem toNat_width_of_not_full (hfull : r.high.toInt - r.low.toInt < 2 ^ 64 - 1) :
    (r.width.toNat : Int) = r.high.toInt - r.low.toInt + 1 := by
  have hwidth := r.toNat_width
  have hordered := Int64.le_iff_toInt_le.mp r.ordered
  rw [hwidth, Int.emod_eq_of_lt (by omega) (by omega)]

/-- The width of a range that is not full does not wrap to zero, so a draw is of an offset. -/
theorem draw_of_not_full (hfull : r.high.toInt - r.low.toInt < 2 ^ 64 - 1) (s : Source) :
    r.draw s = (r.low + (UInt64.ofNat (drawOffset .double r.width.toNat attempts s).1).toInt64,
      (drawOffset .double r.width.toNat attempts s).2) := by
  have hwidth := toNat_width_of_not_full hfull
  have hordered := Int64.le_iff_toInt_le.mp r.ordered
  have hne : r.width ≠ 0 := by
    intro hzero
    have hnat : r.width.toNat = 0 := by rw [hzero]; rfl
    omega
  rw [draw, if_neg hne]

theorem uniform_of_not_full (hfull : r.high.toInt - r.low.toInt < 2 ^ 64 - 1) :
    r.Uniform r.low.toInt r.high.toInt := by
  have hwidth := toNat_width_of_not_full hfull
  have hordered := Int64.le_iff_toInt_le.mp r.ordered
  have hhigh := r.high.toInt_lt
  have hpos : 0 < r.width.toNat := by omega
  let value (k : Nat) : Int64 := r.low + (UInt64.ofNat k).toInt64
  have hvalue {k : Nat} (hk : k < r.width.toNat) : (value k).toInt = r.low.toInt + k :=
    toInt_add_offset (by omega)
  have hinjective : Set.InjOn value {k | k < r.width.toNat} := by
    intro j hj k hk hsame
    have hsum := congrArg Int64.toInt hsame
    rw [hvalue hj, hvalue hk] at hsum
    omega
  have hresults : {m : Int64 | r.low.toInt ≤ m.toInt ∧ m.toInt ≤ r.high.toInt} =
      value '' {k | k < r.width.toNat} := by
    ext m
    constructor
    · rintro ⟨hlow, hhigh⟩
      have hk : (m.toInt - r.low.toInt).toNat < r.width.toNat := by omega
      refine ⟨_, hk, Int64.toInt_inj.mp ?_⟩
      rw [hvalue hk]
      omega
    · rintro ⟨k, hk, rfl⟩
      have hsum := hvalue hk
      change k < r.width.toNat at hk
      constructor <;> omega
  refine ⟨rfl, rfl, hwidth, ?_, ?_⟩
  · intro v hv m hm
    obtain ⟨k, hk, rfl⟩ := Option.map_eq_some_iff.1 hm
    rw [hvalue (offset?_lt hpos hv hk), (offset?_eq_some_iff_isSome.1 hk).2]
  · rw [hresults]
    apply uniformDraw_map Words.early_double hpos r.width.toNat_lt hinjective
    exact draw_of_not_full hfull

end IntegerRange

end Assay.Random
