import Assay.Proofs.Draw.IntegerRange
import Assay.Proofs.Random.UniformDraw

/-!
The integers of `int`, the lengths of `array` and the words of `word` are uniform. A range that a
call may ask for is never full, because its bounds are doubles, so no word arithmetic on it wraps.
-/

namespace Assay.Draw

open Chain (Call intCall)
open Number Binary64
open Assay.Random (IntegerRange Source UniformDraw drawIndex offset?)

/-- A range that a call asks for is drawn from uniformly. -/
theorem uniform_of_integerRange {c : Call} {default : Binary64 × Binary64} {range : IntegerRange}
    (h : integerRange c default = .ok range) :
    HasBounds c default range.low.toInt range.high.toInt ∧
      range.Uniform range.low.toInt range.high.toInt :=
  ⟨hasBounds_of_integerRange h, IntegerRange.uniform_of_not_full (not_full_of_integerRange h)⟩

/-- An array is as long as was drawn. -/
theorem length_of_arraySampler {inner : Sampler} {lengths : IntegerRange} {unique : Bool}
    {tries : Nat} {memory : inner.Memory} {source : Source} {v : Value}
    (h : ((arraySampler inner lengths unique tries).draw memory source).1 = .ok v) :
    ∃ items, v = .array items ∧ items.length = (lengths.draw source).1.toInt.toNat := by
  have hinner : inner.Draws (fun _ => True) fun _ => True := by
    intro memory source
    cases (inner.draw memory source).1 with
    | error halt => exact .error trivial
    | ok v => exact .ok trivial
  have hmeets := arraySampler_meets hinner lengths unique tries memory source
  rw [h] at hmeets
  cases hmeets with
  | ok hv =>
    obtain ⟨items, rfl, hlength, -⟩ := hv
    exact ⟨items, rfl, hlength⟩

theorem drawWord_eq {words : Array String} (hpos : 0 < words.size) (source : Source) :
    ∃ word, words[(drawIndex words.size source).1]? = some word ∧
      drawWord words source = (.ok (.text word), (drawIndex words.size source).2) := by
  have hword := Array.getElem?_eq_getElem (Random.drawIndex_lt hpos source)
  refine ⟨_, hword, ?_⟩
  simp only [drawWord, hword]

/-- Every range that is accepted is drawn from uniformly, with its bounds as they are. The value of
`int` and the length of an array are drawn from such a range, and the value of `word` is the entry
of the dictionary at an index that is drawn uniformly. -/
theorem draws_uniform :
    (∀ (c : Call) (default : Binary64 × Binary64) (range : IntegerRange),
      integerRange c default = .ok range →
      ∃ a b, HasBounds c default a b ∧ range.Uniform a b) ∧
    (∀ (c : Call) (left : Option Sampler) (σ : Sampler), intFunction.build c left = .ok σ →
      ∃ (range : IntegerRange) (a b : Int), HasBounds c (1, 100) a b ∧ range.Uniform a b ∧
        σ = .ofDraw fun s => (.ok (.int (range.draw s).1), (range.draw s).2)) ∧
    (∀ (limits : DrawLimits) (c : Call) (inner σ : Sampler),
      (arrayFunction limits).build c (some inner) = .ok σ →
      ∃ (lengths : IntegerRange) (a b : Int) (unique : Bool),
        HasBounds c (1, 1) a b ∧ 0 ≤ a ∧ lengths.Uniform a b ∧
        σ = arraySampler inner lengths unique (max limits.uniqueRetries 1) ∧
        ∀ (tries : Nat) (memory : inner.Memory) (source : Source) (v : Value),
          ((arraySampler inner lengths unique tries).draw memory source).1 = .ok v →
          ∃ items, v = .array items ∧ (items.length : Int) = (lengths.draw source).1.toInt) ∧
    ∀ (c : Call) (left : Option Sampler) (σ : Sampler), wordFunction.build c left = .ok σ →
      σ = .ofDraw (drawWord dictionary) ∧
        (∀ source, ∃ word, dictionary[(drawIndex dictionary.size source).1]? = some word ∧
          drawWord dictionary source =
            (.ok (.text word), (drawIndex dictionary.size source).2)) ∧
        UniformDraw .single dictionary.size {i | i < dictionary.size} (offset? 32 dictionary.size)
          (drawIndex dictionary.size) := by
  refine ⟨?_, ?_, ?_, ?_⟩
  · intro c default range h
    exact ⟨_, _, uniform_of_integerRange h⟩
  · intro c left σ h
    obtain ⟨range, hrange, hσ⟩ := exists_intSampler h
    obtain ⟨hbounds, huniform⟩ := uniform_of_integerRange hrange
    exact ⟨range, _, _, hbounds, huniform, hσ⟩
  · intro limits c inner σ h
    obtain ⟨inner', lengths, unique, hinner, hlengths, -, hσ⟩ := exists_arraySampler h
    obtain rfl := Option.some.inj hinner
    obtain ⟨hbounds, huniform⟩ := uniform_of_integerRange (integerRange_of_lengthRange hlengths)
    have hpos := (lengthRange_eq_ok hlengths).2.1
    refine ⟨lengths, _, _, unique, hbounds, hpos, huniform, hσ, ?_⟩
    intro tries memory source v hv
    obtain ⟨items, rfl, hlength⟩ := length_of_arraySampler hv
    have hlow := (lengths.draw_mem source).1
    exact ⟨items, rfl, by omega⟩
  · intro c left σ h
    have hpos : 0 < dictionary.size := by decide +kernel
    have hlt : dictionary.size < 2 ^ 32 := by decide +kernel
    exact ⟨(wordSampler h).2, drawWord_eq hpos, Random.uniformDraw_index hpos hlt⟩

theorem draws_uniform_negative :
    ∃ range, integerRange (intCall minusThree odd) (1, 100) = .ok range ∧
      range.Uniform (-3) 9007199254740992 := by
  have hlow : roundedInteger minusThree.value = -3 := by decide +kernel
  have hhigh : roundedInteger odd.value = 9007199254740992 := by decide +kernel
  rcases integerRange_intCall minusThree odd (1, 100) with
    ⟨range, hok, -, -, -, hlow', hhigh'⟩ | ⟨-, hnot⟩
  · obtain ⟨a, b, -, huniform⟩ := draws_uniform.1 _ _ range hok
    obtain rfl : a = -3 := by rw [← huniform.low, hlow', hlow]
    obtain rfl : b = 9007199254740992 := by rw [← huniform.high, hhigh', hhigh]
    exact ⟨range, hok, huniform⟩
  · rw [hlow, hhigh] at hnot
    exact absurd (by decide) hnot

end Assay.Draw
