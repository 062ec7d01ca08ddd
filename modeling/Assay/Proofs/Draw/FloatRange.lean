import Assay.Proofs.Draw.Conformance
import Assay.Proofs.Draw.FourPlaces
import Assay.Proofs.Random.Scale
import Assay.Proofs.Result

/-!
The values of `float`: a sampled double never leaves the range, and rounding it to four digits
after the point moves it no further than the rounded bounds. Bounds with at most four digits after
the point are their own rounded bounds.
-/

namespace Assay.Draw

open Chain (Call Refusal)
open Number Binary64
open Assay.Random (Source Spans largestUnit)

theorem spans_of_floatRange {c : Call} {bounds : Binary64 × Binary64}
    (h : floatRange c = .ok bounds) :
    bounds = c.range?.getD (0, 1) ∧ Spans bounds.1 bounds.2 := by
  unfold floatRange at h
  generalize c.range?.getD (0, 1) = range at h ⊢
  obtain ⟨low, high⟩ := range
  dsimp only at h
  split at h
  · cases h
  · next hfinite =>
    split at h
    · cases h
    · next hordered =>
      rw [← Except.ok.inj h]
      simp only [Bool.or_eq_true, Bool.not_eq_true', not_or, Bool.not_eq_false] at hfinite
      exact ⟨rfl, hfinite.1.1, hfinite.1.2, hfinite.2, by simpa using hordered⟩

/-- A result that is a finite double between two others. -/
def FloatBetween (low high : Binary64) (result : Except Halt Value) : Prop :=
  ∃ x, result = .ok (.float x) ∧ x.isFinite = true ∧ low.AtMost x ∧ x.AtMost high

section Spans

variable {low high : Binary64} (h : Spans low high)
include h

/-- A draw is a double of the range, rounded. -/
theorem drawFloat_eq (hscale : ((high - low) / largestUnit).isFinite = true) (source : Source) :
    ∃ s, s.isFinite = true ∧ low.place ≤ s.place ∧ s.place ≤ high.place ∧
      (drawFloat low high source).1 = .ok (.float (roundToFourPlaces s)) := by
  have hscale' : Random.scale? low high =
      some (Random.fitScale low high 1000 ((high - low) / largestUnit)) := by
    unfold Random.scale?
    exact if_pos hscale
  obtain ⟨hfinite, hlow, hhigh⟩ := (h.fits_scale hscale').draw_mem h source
  refine ⟨_, hfinite, hlow, hhigh, ?_⟩
  simp only [drawFloat, hscale']

/-- Rounding keeps a double between the rounded bounds. -/
theorem floatBetween_rounded {s : Binary64} (hs : s.isFinite = true) (hlow : low.place ≤ s.place)
    (hhigh : s.place ≤ high.place) (hscaledLow : (low * 10000).isFinite = true)
    (hscaledHigh : (high * 10000).isFinite = true) :
    FloatBetween (roundToFourPlaces low) (roundToFourPlaces high)
      (.ok (.float (roundToFourPlaces s))) := by
  have hscaled : (s * 10000).isFinite = true :=
    isFinite_scaled h.finite_low hs h.finite_high hscaledLow hscaledHigh hlow hhigh
  have hfinite := isFinite_roundToFourPlaces hscaled
  have hfiniteLow := isFinite_roundToFourPlaces hscaledLow
  have hfiniteHigh := isFinite_roundToFourPlaces hscaledHigh
  refine ⟨_, rfl, hfinite, (atMost_iff hfiniteLow hfinite).mpr ?_,
    (atMost_iff hfinite hfiniteHigh).mpr ?_⟩
  · exact place_roundToFourPlaces_mono h.finite_low hs hscaledLow hscaled hlow
  · exact place_roundToFourPlaces_mono hs h.finite_high hscaled hscaledHigh hhigh

/-- Bounds with at most four digits after the point are never left. -/
theorem floatBetween_of_fourPlaces (hlow : FourPlaces low) (hhigh : FourPlaces high)
    (source : Source) : FloatBetween low high (drawFloat low high source).1 := by
  have hnear : high.place - low.place ≤ (2 ^ 51 * unitsPerOne : Nat) := by
    have hlow' := hlow.natAbs_place_le
    have hhigh' := hhigh.natAbs_place_le
    omega
  obtain ⟨s, hs, hle, hle', hdraw⟩ := drawFloat_eq h (h.isFinite_div hnear) source
  have hbetween := floatBetween_rounded h hs hle hle' hlow.isFinite_scaled hhigh.isFinite_scaled
  rw [hlow.roundToFourPlaces_eq, hhigh.roundToFourPlaces_eq] at hbetween
  rwa [hdraw]

end Spans

/-- The sampler of a chain that ends with a call of `float`. -/
theorem sampler_of_float {limits : DrawLimits} {before : List Call} {c : Call}
    {low high : Binary64} {σ : Sampler} (hname : c.name = "float")
    (hrange : c.HasRange (0, 1) low high)
    (h : (Vocabulary.standard limits).evaluate (before ++ [c]) = .ok σ) :
    Spans low high ∧ σ = .ofDraw (drawFloat low high) := by
  obtain ⟨left, hbuild⟩ := exists_build_of_evaluate h
  have hb : floatFunction.build c left = .ok σ := by
    rcases build_standard hbuild with ⟨hn, -⟩ | ⟨hn, -⟩ | ⟨-, hb⟩ | ⟨hn, -⟩
    · exact absurd (hname.symm.trans hn) (by decide)
    · exact absurd (hname.symm.trans hn) (by decide)
    · exact hb
    · exact absurd (hname.symm.trans hn) (by decide)
  simp only [floatFunction] at hb
  cases hbounds : floatRange c with
  | error e => simp [hbounds] at hb
  | ok bounds =>
    obtain ⟨heq, hspans⟩ := spans_of_floatRange hbounds
    rw [hrange.range?_getD] at heq
    subst heq
    rw [hbounds] at hb
    exact ⟨hspans, (Except.ok.inj hb).symm⟩

/-- Every draw of an accepted call of `float`, whatever the random words are, is a double of the
range if its bounds are written with at most four digits after the point. With any bounds there is
a draw, provided that the scale of the range is in the finite range; and it is a double of the range
rounded to four digits after the point, and lies between the rounded bounds, if the bounds can be
scaled up for that. -/
theorem float_draws_rounded (limits : DrawLimits) (before : List Call) (c : Call)
    (low high : Binary64) (σ : Sampler) (hname : c.name = "float")
    (hrange : c.HasRange (0, 1) low high)
    (h : (Vocabulary.standard limits).evaluate (before ++ [c]) = .ok σ) :
    (low.isFinite = true ∧ high.isFinite = true ∧ (high - low).isFinite = true ∧
        low.AtMost high) ∧
      ∀ (source : Source) (count : Nat),
        ∀ result ∈ (Generator.mk σ σ.start source).results count,
          (FourPlaces low → FourPlaces high → FloatBetween low high result) ∧
            (((high - low) / largestUnit).isFinite = true →
              (∃ x, result = .ok (.float x)) ∧
                ((low * 10000).isFinite = true → (high * 10000).isFinite = true →
                  ∃ s, low.AtMost s ∧ s.AtMost high ∧
                    result = .ok (.float (roundToFourPlaces s)) ∧
                    FloatBetween (roundToFourPlaces low) (roundToFourPlaces high) result)) := by
  obtain ⟨hspans, rfl⟩ := sampler_of_float hname hrange h
  refine ⟨⟨hspans.finite_low, hspans.finite_high, hspans.finite_width,
    (atMost_iff hspans.finite_low hspans.finite_high).mpr hspans.place_le⟩, ?_⟩
  intro source count result hresult
  obtain ⟨source', rfl⟩ := exists_source_of_mem_results hresult
  refine ⟨fun hlow hhigh => floatBetween_of_fourPlaces hspans hlow hhigh source', ?_⟩
  intro hscale
  obtain ⟨s, hs, hle, hle', hdraw⟩ := drawFloat_eq hspans hscale source'
  refine ⟨⟨_, hdraw⟩, fun hscaledLow hscaledHigh => ?_⟩
  refine ⟨s, (atMost_iff hspans.finite_low hs).mpr hle, (atMost_iff hs hspans.finite_high).mpr hle',
    hdraw, ?_⟩
  rw [hdraw]
  exact floatBetween_rounded hspans hs hle hle' hscaledLow hscaledHigh

/-- `float(-1..2.5)` -/
def halves : Call := ⟨"float", [.range (ofDecimal true 1 0) (ofDecimal false 25 (-1))]⟩

theorem float_draws_rounded_halves :
    ∃ σ, (Vocabulary.standard .standard).evaluate ([] ++ [halves]) = .ok σ ∧
      ∀ result ∈ (Generator.mk σ σ.start (Source.ofSeed 3)).results 1000,
        FloatBetween (ofDecimal true 1 0) (ofDecimal false 25 (-1)) result ∧
          ∃ s, result = .ok (.float (roundToFourPlaces s)) := by
  have hok : ((Vocabulary.standard .standard).evaluate ([] ++ [halves])).toBool = true := by
    decide +kernel
  obtain ⟨σ, h⟩ := exists_of_toBool hok
  have hrange : halves.HasRange (0, 1) (ofDecimal true 1 0) (ofDecimal false 25 (-1)) :=
    .inl ⟨[], [], rfl, by simp⟩
  obtain ⟨-, hdraws⟩ := float_draws_rounded .standard [] halves _ _ σ rfl hrange h
  refine ⟨σ, h, fun result hresult => ?_⟩
  obtain ⟨hexact, hrounded⟩ := hdraws (Source.ofSeed 3) 1000 result hresult
  obtain ⟨-, hscaled⟩ := hrounded (by decide +kernel)
  obtain ⟨s, -, -, heq, -⟩ := hscaled (by decide +kernel) (by decide +kernel)
  exact ⟨hexact ⟨true, 1, 0, by decide, by decide, by decide +kernel⟩
    ⟨false, 25, 1, by decide, by decide, by decide +kernel⟩, s, heq⟩

/-- Every draw is below the range if the upper bound is rounded to a double below it. -/
theorem float_draws_below {limits : DrawLimits} {calls : List Call} {c : Call}
    {low high : Binary64} {σ : Sampler} (hname : c.name = "float")
    (hrange : c.HasRange (0, 1) low high)
    (h : (Vocabulary.standard limits).evaluate (calls ++ [c]) = .ok σ)
    (hscale : ((high - low) / largestUnit).isFinite = true)
    (hscaledLow : (low * 10000).isFinite = true) (hscaledHigh : (high * 10000).isFinite = true)
    (hbelow : (roundToFourPlaces high).lt low = true) (source : Source) (count : Nat) :
    ∀ result ∈ (Generator.mk σ σ.start source).results count,
      ∃ x, result = .ok (.float x) ∧ x.lt low = true := by
  obtain ⟨hspans, rfl⟩ := sampler_of_float hname hrange h
  intro result hresult
  obtain ⟨source', rfl⟩ := exists_source_of_mem_results hresult
  obtain ⟨s, hs, hle, hle', hdraw⟩ := drawFloat_eq hspans hscale source'
  obtain ⟨x, hx, hfinite, -, hmost⟩ :=
    floatBetween_rounded hspans hs hle hle' hscaledLow hscaledHigh
  refine ⟨x, hdraw.trans hx, ?_⟩
  have hlow := ne_nan_of_isFinite hspans.finite_low
  have hhigh := isFinite_roundToFourPlaces hscaledHigh
  rw [atMost_iff hfinite hhigh] at hmost
  rw [lt_iff_place (ne_nan_of_isFinite hhigh) hlow] at hbelow
  rw [lt_iff_place (ne_nan_of_isFinite hfinite) hlow]
  omega

/-- `float(0.00001..0.00001)` -/
def hundredThousandth : Call :=
  ⟨"float", [.range (ofDecimal false 1 (-5)) (ofDecimal false 1 (-5))]⟩

theorem float_leaves_range :
    ∃ σ, (Vocabulary.standard .standard).evaluate ([] ++ [hundredThousandth]) = .ok σ ∧
      ∀ source, ∀ result ∈ (Generator.mk σ σ.start source).results 1,
        ∃ x, result = .ok (.float x) ∧ x.lt (ofDecimal false 1 (-5)) = true := by
  have hok : ((Vocabulary.standard .standard).evaluate ([] ++ [hundredThousandth])).toBool =
      true := by decide +kernel
  obtain ⟨σ, h⟩ := exists_of_toBool hok
  have hrange : hundredThousandth.HasRange (0, 1) (ofDecimal false 1 (-5))
    (ofDecimal false 1 (-5)) := .inl ⟨[], [], rfl, by simp⟩
  refine ⟨σ, h, fun source => float_draws_below rfl hrange h ?_ ?_ ?_ ?_ source 1⟩
  · decide +kernel
  · decide +kernel
  · decide +kernel
  · decide +kernel

end Assay.Draw
