import Assay.Proofs.Chain.IntegerLiteral
import Assay.Proofs.Draw.Conformance

/-!
The values of `int`. The bounds are doubles, so written bounds are rounded to fifty-three
significant bits before anything else is asked of them.
-/

namespace Assay.Draw

open Chain (Call IntegerLiteral intCall intSource)
open Number Binary64
open Assay.Random (IntegerRange Source)

/-- Which bounds are accepted, and as which integers. -/
theorem integerRange_cases {c : Call} {default : Binary64 × Binary64} {low high : Binary64}
    (hbounds : c.range?.getD default = (low, high)) :
    (∃ range, integerRange c default = .ok range ∧ low.isIntegral = true ∧
        high.isIntegral = true ∧ -(2 ^ 63) ≤ low.truncate ∧ low.truncate ≤ high.truncate ∧
        high.truncate < 2 ^ 63 ∧ range.low.toInt = low.truncate ∧
        range.high.toInt = high.truncate) ∨
      ((∃ e, integerRange c default = .error e) ∧
        ¬(low.isIntegral = true ∧ high.isIntegral = true ∧ -(2 ^ 63) ≤ low.truncate ∧
          low.truncate ≤ high.truncate ∧ high.truncate < 2 ^ 63)) := by
  cases hrange : integerRange c default with
  | ok range =>
    obtain ⟨hlow, hhigh⟩ := (integerRange_eq_ok_iff hbounds).1 hrange
    have hordered := Int64.le_iff_toInt_le.mp range.ordered
    have hleast := range.low.le_toInt
    have hgreatest := range.high.toInt_lt
    rw [hlow.truncate_eq, hhigh.truncate_eq]
    exact .inl ⟨range, rfl, hlow.isIntegral, hhigh.isIntegral, hleast, hordered, hgreatest, rfl,
      rfl⟩
  | error e =>
    refine .inr ⟨⟨e, rfl⟩, ?_⟩
    rintro ⟨hlow, hhigh, hleast, hordered, hgreatest⟩
    obtain ⟨range, hok, -, -⟩ := exists_integerRange hbounds (isInteger_truncate hlow)
      (isInteger_truncate hhigh) hleast hordered hgreatest
    rw [hok] at hrange
    cases hrange

/-- A range between two literals is accepted exactly if the rounded integers fit into a signed word
and are in order, and then these are its bounds. -/
theorem integerRange_intCall (a b : IntegerLiteral) (default : Binary64 × Binary64) :
    (∃ range, integerRange (intCall a b) default = .ok range ∧
        -(2 ^ 63) ≤ roundedInteger a.value ∧ roundedInteger a.value ≤ roundedInteger b.value ∧
        roundedInteger b.value ≤ 2 ^ 63 - 1 ∧ range.low.toInt = roundedInteger a.value ∧
        range.high.toInt = roundedInteger b.value) ∨
      ((∃ e, integerRange (intCall a b) default = .error e) ∧
        ¬(-(2 ^ 63) ≤ roundedInteger a.value ∧ roundedInteger a.value ≤ roundedInteger b.value ∧
          roundedInteger b.value ≤ 2 ^ 63 - 1)) := by
  have hbounds : (intCall a b).range?.getD default = (a.numeral.value, b.numeral.value) := rfl
  rcases integerRange_cases hbounds with
    ⟨range, hok, hlow, hhigh, hfit, hordered, hfit', hlow', hhigh'⟩ | ⟨herror, hnot⟩
  · rcases a.value_cases with ⟨-, ha⟩ | ⟨ha, -⟩
    · rcases b.value_cases with ⟨-, hb⟩ | ⟨hb, -⟩
      · rw [ha] at hfit hordered hlow'
        rw [hb] at hordered hfit' hhigh'
        exact .inl ⟨range, hok, hfit, hordered, by omega, hlow', hhigh'⟩
      · rw [hb] at hhigh
        cases hhigh
    · rw [ha] at hlow
      cases hlow
  · refine .inr ⟨herror, ?_⟩
    rintro ⟨hfit, hordered, hfit'⟩
    rcases a.value_cases with ⟨ha, ha'⟩ | ⟨-, ha⟩
    · rcases b.value_cases with ⟨hb, hb'⟩ | ⟨-, hb⟩
      · rw [ha', hb'] at hnot
        exact hnot ⟨ha, hb, hfit, hordered, by omega⟩
      · omega
    · omega

/-- A draw of `int`. -/
def drawInt (range : IntegerRange) (s : Source) : Except Halt Value × Source :=
  let (n, s) := range.draw s
  (.ok (.int n), s)

theorem fst_drawInt (range : IntegerRange) (s : Source) :
    (drawInt range s).1 = .ok (.int (range.draw s).1) := by
  unfold drawInt
  rcases range.draw s with ⟨n, s'⟩
  rfl

theorem build_int (limits : DrawLimits) {c : Call} (hname : c.name = "int")
    (left : Option Sampler) : (Vocabulary.standard limits).build left c =
      match integerRange c (1, 100) with
      | .error e => .error (.refused "int" e)
      | .ok range => .ok (.ofDraw (drawInt range)) := by
  have hfind : (Vocabulary.standard limits).find? c.name = some intFunction := by
    rw [find?_standard, hname]
    simp
  unfold Vocabulary.build
  rw [hfind]
  unfold intFunction drawInt
  dsimp only
  generalize integerRange c (1, 100) = result
  cases result with
  | error e => rfl
  | ok range => rfl

theorem evaluate_int (limits : DrawLimits) {c : Call} (hname : c.name = "int") :
    (Vocabulary.standard limits).evaluate [c] =
      match integerRange c (1, 100) with
      | .error e => .error (.refused "int" e)
      | .ok range => .ok (.ofDraw (drawInt range)) := by
  unfold Vocabulary.evaluate Vocabulary.buildAll
  rw [build_int limits hname]
  generalize integerRange c (1, 100) = result
  cases result with
  | error e => rfl
  | ok range => rfl

/-- A source `int(a..b)` is accepted exactly if the rounded integers fit into a signed word and are
in order. -/
theorem compile_intSource (limits : DrawLimits) (a b : IntegerLiteral) :
    (∃ range, (Vocabulary.standard limits).compile (intSource a b) = .ok (.ofDraw (drawInt range)) ∧
        -(2 ^ 63) ≤ roundedInteger a.value ∧ roundedInteger a.value ≤ roundedInteger b.value ∧
        roundedInteger b.value ≤ 2 ^ 63 - 1 ∧ range.low.toInt = roundedInteger a.value ∧
        range.high.toInt = roundedInteger b.value) ∨
      ((∃ fault, (Vocabulary.standard limits).compile (intSource a b) = .error fault) ∧
        ¬(-(2 ^ 63) ≤ roundedInteger a.value ∧ roundedInteger a.value ≤ roundedInteger b.value ∧
          roundedInteger b.value ≤ 2 ^ 63 - 1)) := by
  unfold Vocabulary.compile
  rw [Chain.read_intSource]
  dsimp only
  rw [evaluate_int limits rfl]
  rcases integerRange_intCall a b (1, 100) with ⟨range, hok, hrange⟩ | ⟨⟨e, herror⟩, hnot⟩
  · rw [hok]
    exact .inl ⟨range, rfl, hrange⟩
  · rw [herror]
    exact .inr ⟨⟨_, rfl⟩, hnot⟩

theorem mem_results_drawInt {range : IntegerRange} {source : Source} {count : Nat}
    {result : Except Halt Value}
    (h : result ∈ (Generator.mk (.ofDraw (drawInt range)) () source).results count) :
    ∃ v, result = .ok (.int v) ∧ range.low.toInt ≤ v.toInt ∧ v.toInt ≤ range.high.toInt := by
  obtain ⟨source', rfl⟩ := exists_source_of_mem_results h
  exact ⟨_, fst_drawInt range source', range.draw_mem source'⟩

/-- Every source `int(a..b)` is read. It is accepted exactly if the bounds, rounded to fifty-three
significant bits, fit into a signed word and are in order; then every draw lies between the rounded
bounds. Bounds with at most fifty-three significant bits are not changed by rounding, and others go
to the nearest integer that has no more. -/
theorem int_draws_rounded (limits : DrawLimits) (a b : IntegerLiteral) :
    Chain.read (intSource a b) = .ok [intCall a b] ∧
      ((∃ σ, (Vocabulary.standard limits).compile (intSource a b) = .ok σ) ↔
        -(2 ^ 63) ≤ roundedInteger a.value ∧ roundedInteger a.value ≤ roundedInteger b.value ∧
          roundedInteger b.value ≤ 2 ^ 63 - 1) ∧
      (∀ σ, (Vocabulary.standard limits).compile (intSource a b) = .ok σ →
        ∀ (source : Source) (count : Nat),
          ∀ result ∈ (Generator.mk σ σ.start source).results count,
            ∃ v, result = .ok (.int v) ∧ roundedInteger a.value ≤ v.toInt ∧
              v.toInt ≤ roundedInteger b.value) ∧
      (∀ (t : Int) (k : Nat), t.natAbs ≤ 2 ^ 53 → roundedInteger (t * 2 ^ k) = t * 2 ^ k) ∧
      ∀ (n t : Int) (k : Nat), t.natAbs ≤ 2 ^ 53 → |n - roundedInteger n| ≤ |n - t * 2 ^ k| := by
  refine ⟨Chain.read_intSource a b, ?_, ?_, fun t => roundedInteger_mul_two_pow,
    fun n t => roundedInteger_closest n⟩
  · rcases compile_intSource limits a b with
      ⟨range, hok, hfit, hordered, hfit', -, -⟩ | ⟨⟨fault, herror⟩, hnot⟩
    · rw [hok]
      exact ⟨fun _ => ⟨hfit, hordered, hfit'⟩, fun _ => ⟨_, rfl⟩⟩
    · rw [herror]
      exact ⟨fun ⟨_, hσ⟩ => (nomatch hσ), fun h => absurd h hnot⟩
  · intro σ hσ source count result hresult
    rcases compile_intSource limits a b with
      ⟨range, hok, -, -, -, hlow, hhigh⟩ | ⟨⟨fault, herror⟩, -⟩
    · rw [hok] at hσ
      cases hσ
      obtain ⟨v, hv, hle, hle'⟩ := mem_results_drawInt hresult
      exact ⟨v, hv, by omega, by omega⟩
    · rw [herror] at hσ
      cases hσ

/-- `-3` -/
def minusThree : IntegerLiteral := ⟨true, ['3'], by decide, List.all_eq_true.mp (by decide)⟩

/-- `9007199254740993`, the first natural number with more significant bits. -/
def odd : IntegerLiteral :=
  ⟨false, "9007199254740993".toList, by decide, List.all_eq_true.mp (by decide +kernel)⟩

/-- `9223372036854775807` -/
def greatest : IntegerLiteral :=
  ⟨false, "9223372036854775807".toList, by decide, List.all_eq_true.mp (by decide +kernel)⟩

theorem int_draws_rounded_odd :
    ∃ σ, (Vocabulary.standard .standard).compile (intSource minusThree odd) = .ok σ ∧
      ∀ result ∈ (Generator.mk σ σ.start (Source.ofSeed 5)).results 100,
        ∃ v, result = .ok (.int v) ∧ -3 ≤ v.toInt ∧ v.toInt ≤ 9007199254740992 := by
  obtain ⟨-, haccepted, hdraws, -⟩ := int_draws_rounded .standard minusThree odd
  have hlow : roundedInteger minusThree.value = -3 := by decide +kernel
  have hhigh : roundedInteger odd.value = 9007199254740992 := by decide +kernel
  rw [hlow, hhigh] at haccepted hdraws
  obtain ⟨σ, hσ⟩ := haccepted.mpr (by decide)
  exact ⟨σ, hσ, hdraws σ hσ (Source.ofSeed 5) 100⟩

/-- Every draw is below bounds that are rounded down, and a bound that is rounded up out of the
range of a signed word is not accepted. -/
theorem int_leaves_bounds :
    intSource odd odd = "int(9007199254740993..9007199254740993)" ∧
      (∃ σ, (Vocabulary.standard .standard).compile (intSource odd odd) = .ok σ ∧
        ∀ source, ∀ result ∈ (Generator.mk σ σ.start source).results 1,
          ∃ v, result = .ok (.int v) ∧ v.toInt < odd.value) ∧
      greatest.value = 2 ^ 63 - 1 ∧
      ∃ fault, (Vocabulary.standard .standard).compile (intSource greatest greatest) =
        .error fault := by
  have hvalue : odd.value = 9007199254740993 := by decide +kernel
  have hodd : roundedInteger odd.value = 9007199254740992 := by decide +kernel
  have hgreatest : roundedInteger greatest.value = 2 ^ 63 := by decide +kernel
  refine ⟨by decide +kernel, ?_, by decide +kernel, ?_⟩
  · rcases compile_intSource .standard odd odd with
      ⟨range, hok, -, -, -, -, hhigh⟩ | ⟨-, hnot⟩
    · refine ⟨_, hok, fun source result hresult => ?_⟩
      obtain ⟨v, hv, -, hle⟩ := mem_results_drawInt hresult
      exact ⟨v, hv, by omega⟩
    · rw [hodd] at hnot
      exact absurd (by decide) hnot
  · rcases compile_intSource .standard greatest greatest with
      ⟨-, -, -, -, hfit, -, -⟩ | ⟨hfault, -⟩
    · rw [hgreatest] at hfit
      exact absurd hfit (by decide)
    · exact hfault

end Assay.Draw
