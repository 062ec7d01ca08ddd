import Assay.Proofs.Draw.Conformance
import Assay.Proofs.Draw.FirstOccurrences
import Mathlib.Data.List.Dedup
import Mathlib.Data.List.Perm.Subperm

/-!
An array that has to be longer than there are distinct values to draw is exhausted at every draw,
after a bounded number of inner draws.
-/

namespace Assay.Draw

open Chain (Call)
open Assay.Random (IntegerRange Source)

namespace Results

variable {d : Results} {values : List Value} {n : Nat}

/-- Of some values no more can be kept than there are. -/
theorem length_firsts_le (hd : ∀ i, ∃ v ∈ values, d i = .ok v)
    (hexact : ∀ v ∈ values, v.hasNan = false) : (d.firsts n).length ≤ values.length := by
  have hsubset : d.firsts n ⊆ values := by
    intro v hv
    obtain ⟨i, -, hi⟩ := mem_before.mp (mem_before_of_mem_firsts hv)
    obtain ⟨w, hw, hiw⟩ := hd i
    rw [hi, Except.ok.injEq] at hiw
    rwa [hiw]
  have hnodup : (d.firsts n).Nodup := by
    refine (distinct_firsts d n).imp_of_mem fun {u v} hu _ hdistinct heq => ?_
    rw [← heq, Value.equal_self (hexact u (hsubset hu))] at hdistinct
    cases hdistinct
  exact (List.subperm_of_subset hnodup hsubset).length_le

theorem length_firsts_pos (hd : ∀ i, ∃ v ∈ values, d i = .ok v)
    (hexact : ∀ v ∈ values, v.hasNan = false) (hn : 0 < n) : 0 < (d.firsts n).length := by
  obtain ⟨v, hv, hfirst⟩ := hd 0
  have hany : ((d.firsts n).any fun u => u.equal v) = true := by
    rw [any_firsts]
    exact List.any_eq_true.mpr
      ⟨v, mem_before.mpr ⟨0, hn, hfirst⟩, Value.equal_self (hexact v hv)⟩
  obtain ⟨u, hu, -⟩ := List.any_eq_true.mp hany
  exact List.length_pos_of_mem hu

end Results

namespace Sampler

/-- The memories that a sampler can come to have, whatever the random words are. -/
inductive Remembers (σ : Sampler) : σ.Memory → Prop where
  | start : Remembers σ σ.start
  | draw {memory : σ.Memory} (h : Remembers σ memory) (source : Source) :
      Remembers σ (σ.draw memory source).2.1

/-- No draw fails, and every draw gives one of these values; there is no not-a-number in them. -/
structure DrawsFrom (σ : Sampler) (values : List Value) : Prop where
  draw_mem : ∀ memory, σ.Remembers memory → ∀ source,
    ∃ v ∈ values, (σ.draw memory source).1 = .ok v
  exact : ∀ v ∈ values, v.hasNan = false

theorem Remembers.after {σ : Sampler} {memory : σ.Memory} (h : σ.Remembers memory)
    (source : Source) (n : Nat) : σ.Remembers (σ.after memory source n).1 := by
  induction n with
  | zero => exact h
  | succ n ih => exact ih.draw _

theorem ofDraw_drawsFrom {draw : Source → Except Halt Value × Source} {values : List Value}
    (hdraw : ∀ source, ∃ v ∈ values, (draw source).1 = .ok v)
    (hexact : ∀ v ∈ values, v.hasNan = false) : (ofDraw draw).DrawsFrom values :=
  ⟨fun _ _ source => hdraw source, hexact⟩

end Sampler

/-- The integers from `a` up to `b`. -/
def integersBetween (a b : Int) : List Value :=
  (List.range (b - a + 1).toNat).map fun i : Nat => .int (Int64.ofInt (a + i))

theorem mem_integersBetween {a b : Int} {n : Int64} (hlow : a ≤ n.toInt) (hhigh : n.toInt ≤ b) :
    .int n ∈ integersBetween a b := by
  have hindex : (n.toInt - a).toNat < (b - a + 1).toNat := by omega
  have hsum : a + ((n.toInt - a).toNat : Int) = n.toInt := by omega
  refine List.mem_map.mpr ⟨_, List.mem_range.mpr hindex, ?_⟩
  rw [hsum, Int64.ofInt_toInt]

theorem intFunction_drawsFrom {c : Call} {left : Option Sampler} {σ : Sampler} {a b : Int}
    (h : intFunction.build c left = .ok σ) (hbounds : HasBounds c (1, 100) a b) :
    ((integersBetween a b).length : Int) = b - a + 1 ∧ σ.DrawsFrom (integersBetween a b) := by
  obtain ⟨range, hrange, rfl⟩ := exists_intSampler h
  obtain ⟨rfl, rfl⟩ := hbounds.unique (hasBounds_of_integerRange hrange)
  have hordered := Int64.le_iff_toInt_le.mp range.ordered
  refine ⟨?_, Sampler.ofDraw_drawsFrom (fun source => ?_) fun v hv => ?_⟩
  · rw [integersBetween, List.length_map, List.length_range]
    omega
  · obtain ⟨hlow, hhigh⟩ := range.draw_mem source
    exact ⟨_, mem_integersBetween hlow hhigh, rfl⟩
  · obtain ⟨i, -, rfl⟩ := List.mem_map.mp hv
    rfl

/-- The words of the dictionary, each of them once. -/
def dictionaryValues : List Value := dictionary.toList.dedup.map .text

theorem length_dictionaryValues : dictionaryValues.length = dictionary.toList.dedup.length := by
  rw [dictionaryValues, List.length_map]

theorem wordFunction_drawsFrom {c : Call} {left : Option Sampler} {σ : Sampler}
    (h : wordFunction.build c left = .ok σ) : σ.DrawsFrom dictionaryValues := by
  obtain ⟨hne, rfl⟩ := wordSampler h
  refine Sampler.ofDraw_drawsFrom (fun source => ?_) fun v hv => ?_
  · have hmeets := drawWord_meets dictionary hne source
    generalize (drawWord dictionary source).1 = result at hmeets
    obtain ⟨s, hs, rfl⟩ | hnone := hmeets
    · exact ⟨_, List.mem_map_of_mem (List.mem_dedup.mpr (Array.mem_toList_iff.mpr hs)), rfl⟩
    · exact hnone.elim
  · obtain ⟨s, -, rfl⟩ := List.mem_map.mp hv
    rfl

section Exhaustion

variable {inner : Sampler} {values : List Value} (hinner : inner.DrawsFrom values)
  {lengths : IntegerRange} {tries : Nat}

include hinner

theorem Sampler.Remembers.results {memory : inner.Memory} (h : inner.Remembers memory)
    (source : Source) (i : Nat) : ∃ v ∈ values, inner.results memory source i = .ok v :=
  hinner.draw_mem _ (h.after source i) _

/-- The draws can only end with a row of repetitions: they do not fail, and there are too few
values. -/
theorem arraySampler_exhausted (htries : 0 < tries) (hfew : values.length < lengths.low.toInt)
    {memory : inner.Memory} (h : inner.Remembers memory) (source : Source) :
    ∃ wanted found n : Nat, (arraySampler inner lengths true tries).draw memory source =
        (.error (.fault (.exhausted wanted found)),
          inner.after memory (lengths.draw source).2 n) ∧
      lengths.low.toInt ≤ wanted ∧ wanted ≤ lengths.high.toInt ∧ 1 ≤ found ∧
      found ≤ values.length ∧ n ≤ (values.length + 1) * tries := by
  obtain ⟨n, result, hdrawn, hends, -, hbound⟩ :=
    arraySampler_unique inner memory source lengths htries
  have hresults := h.results hinner (lengths.draw source).2
  have hfound := Results.length_firsts_le (n := n) hresults hinner.exact
  obtain ⟨hlow, hhigh⟩ := lengths.draw_mem source
  rcases hends.ends with hfilled | ⟨i, halt, -, herror⟩ | hworn
  · omega
  · obtain ⟨v, -, hv⟩ := hresults i
    rw [hv] at herror
    cases herror
  · obtain ⟨hless, hresult⟩ := hends.wornOut hworn
    have hpos := Results.length_firsts_pos hresults hinner.exact (Nat.lt_of_lt_of_le htries hworn.1)
    rw [hresult] at hdrawn
    refine ⟨_, _, n, hdrawn, by omega, by omega, hpos, hfound, ?_⟩
    exact Nat.le_trans hbound (Nat.mul_le_mul_right _ (Nat.add_le_add_right hfound 1))

end Exhaustion

/-- An array of distinct values that has to be longer than the values that its inner sampler draws
are many: every draw, the first one and every later one, is exhausted at a length in its range with
at least one value found and at most all of them, and no draw takes more inner draws than the tries
for one value more than there are. The integers of a range and the words of the dictionary are such
values. -/
theorem unique_array_exhausts :
    (∀ (limits : DrawLimits) (c : Call) (inner σ : Sampler) (values : List Value) (a b : Int),
      inner.DrawsFrom values → (arrayFunction limits).build c (some inner) = .ok σ →
      AsksUnique c → HasBounds c (1, 1) a b → values.length < a →
      (∃ lengths : IntegerRange,
        σ = arraySampler inner lengths true (max limits.uniqueRetries 1) ∧
        ∀ memory, inner.Remembers memory → ∀ source, ∃ wanted found n : Nat,
          (arraySampler inner lengths true (max limits.uniqueRetries 1)).draw memory source =
            (.error (.fault (.exhausted wanted found)),
              inner.after memory (lengths.draw source).2 n) ∧
          a ≤ wanted ∧ wanted ≤ b ∧ 1 ≤ found ∧ found ≤ values.length ∧
          n ≤ (values.length + 1) * max limits.uniqueRetries 1) ∧
      ∀ (source : Source) (count : Nat),
        ∀ result ∈ (Generator.mk σ σ.start source).results count, ∃ wanted found : Nat,
          result = .error (.fault (.exhausted wanted found)) ∧ a ≤ wanted ∧ wanted ≤ b ∧
          1 ≤ found ∧ found ≤ values.length) ∧
    (∀ (c : Call) (left : Option Sampler) (σ : Sampler) (a b : Int),
      intFunction.build c left = .ok σ → HasBounds c (1, 100) a b →
      ∃ values, (values.length : Int) = b - a + 1 ∧ σ.DrawsFrom values) ∧
    ∀ (c : Call) (left : Option Sampler) (σ : Sampler), wordFunction.build c left = .ok σ →
      ∃ values, values.length = dictionary.toList.dedup.length ∧ σ.DrawsFrom values := by
  refine ⟨?_, ?_, ?_⟩
  · intro limits c inner σ values a b hinner hσ hunique hbounds hfew
    have htries : 0 < max limits.uniqueRetries 1 := by omega
    obtain ⟨inner', lengths, unique, heq, hlengths, hflag, rfl⟩ := exists_arraySampler hσ
    obtain rfl := Option.some.inj heq
    obtain rfl : unique = true := (uniqueOption_eq_ok hflag).mpr hunique
    obtain ⟨rfl, rfl⟩ := hbounds.unique (lengthRange_eq_ok hlengths).1
    refine ⟨⟨lengths, rfl, fun memory h => arraySampler_exhausted hinner htries hfew h⟩, ?_⟩
    -- an array of distinct values remembers what its inner sampler remembers
    refine @Generator.forall_mem_results_of_step (arraySampler inner lengths true _)
      inner.Remembers _ ?_ _ .start
    intro memory h source
    obtain ⟨wanted, found, n, hdrawn, hlow, hhigh, hpos, hfound, -⟩ :=
      arraySampler_exhausted hinner htries hfew h source
    rw [hdrawn]
    exact ⟨⟨wanted, found, rfl, hlow, hhigh, hpos, hfound⟩, h.after _ n⟩
  · exact fun c left σ a b h hbounds => ⟨_, intFunction_drawsFrom h hbounds⟩
  · exact fun c left σ h => ⟨_, length_dictionaryValues, wordFunction_drawsFrom h⟩

/-- `int(1..3)` -/
def oneToThree : Call := ⟨"int", [.range 1 3]⟩

/-- `array(5..5, unique=true)` -/
def distinctFive : Call := ⟨"array", [.range 5 5, .option "unique" (.flag true)]⟩

/-- Five distinct integers are never found among three. -/
theorem unique_array_exhausts_three :
    ∃ inner σ, intFunction.build oneToThree none = .ok inner ∧
      (arrayFunction .standard).build distinctFive (some inner) = .ok σ ∧
      ∀ (source : Source) (count : Nat), ∀ result ∈ (Generator.mk σ σ.start source).results count,
        ∃ found : Nat, result = .error (.fault (.exhausted 5 found)) ∧ 1 ≤ found ∧ found ≤ 3 := by
  obtain ⟨hexhausts, hint, -⟩ := unique_array_exhausts
  have hinner : (intFunction.build oneToThree none).toBool = true := by decide +kernel
  obtain ⟨inner, hinner⟩ := exists_of_toBool hinner
  have hthree : HasBounds oneToThree (1, 100) 1 3 :=
    ⟨1, 3, .inl ⟨[], [], rfl, by simp⟩, by decide +kernel, by decide +kernel⟩
  have hfive : HasBounds distinctFive (1, 1) 5 5 :=
    ⟨5, 5, .inl ⟨[], [.option "unique" (.flag true)], rfl, by simp⟩, by decide +kernel,
      by decide +kernel⟩
  have hasks : AsksUnique distinctFive := ⟨[.range 5 5], [], rfl, by simp⟩
  obtain ⟨values, hlength, hdraws⟩ := hint oneToThree none inner 1 3 hinner hthree
  have hlengths : (lengthRange .standard distinctFive).toBool = true := by decide +kernel
  obtain ⟨lengths, hlengths⟩ := exists_of_toBool hlengths
  have hσ : (arrayFunction .standard).build distinctFive (some inner) =
      .ok (arraySampler inner lengths true 1000) := by
    simp only [arrayFunction, hlengths]
    rfl
  refine ⟨inner, _, hinner, hσ, fun source count result hresult => ?_⟩
  obtain ⟨-, hresults⟩ := hexhausts .standard distinctFive inner _ values 5 5 hdraws hσ hasks hfive
    (by omega)
  obtain ⟨wanted, found, hexhausted, hlow, hhigh, hpos, hfound⟩ :=
    hresults source count result hresult
  obtain rfl : wanted = 5 := by omega
  exact ⟨found, hexhausted, hpos, by omega⟩

end Assay.Draw
