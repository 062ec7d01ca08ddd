import Assay.Proofs.Draw.Bounds
import Assay.Proofs.Draw.Results
import Assay.Proofs.Random.Uniform
import Assay.Proofs.Result

/-!
How an array depends on the results that its inner sampler gives one after another. A plain array
takes the first ones. An array of distinct values keeps the first occurrence of each value, until
it has enough of them, or a draw fails, or too many draws in a row give nothing new; and no draw
is made after the one that decides.
-/

namespace Assay.Draw

open Chain (Call)
open Assay.Random (IntegerRange Source)

variable (inner : Sampler) (memory : inner.Memory) (source : Source) {tries wanted : Nat}

/-- What has been done for an array after `n` draws, given the items that were kept. -/
def fillingAfter (items : List Value) (n : Nat) : Filling inner.Memory :=
  ⟨items.reverse, (inner.after memory source n).1, (inner.after memory source n).2⟩

/-- Items are drawn until one fails. -/
theorem fill_cases (missing : Nat) (items : List Value)
    (hitems : (inner.results memory source).StartsWith items) :
    (∃ vs, vs.length = items.length + missing ∧ (inner.results memory source).StartsWith vs ∧
        fill inner missing (fillingAfter inner memory source items items.length) =
          (.ok vs, inner.after memory source vs.length)) ∨
      ∃ vs halt, vs.length < items.length + missing ∧
        (inner.results memory source).StartsWith vs ∧
        inner.results memory source vs.length = .error halt ∧
        fill inner missing (fillingAfter inner memory source items items.length) =
          (.error halt, inner.after memory source (vs.length + 1)) := by
  induction missing generalizing items with
  | zero => exact .inl ⟨items, rfl, hitems, by simp [fill, fillingAfter]⟩
  | succ missing ih =>
    have hdraw := inner.draw_after memory source items.length
    cases hresult : inner.results memory source items.length with
    | error halt =>
      refine .inr ⟨items, halt, by omega, hitems, hresult, ?_⟩
      rw [hresult] at hdraw
      simp only [fill, fillingAfter, hdraw]
    | ok v =>
      have hlength : (items ++ [v]).length = items.length + 1 := by simp
      have hfill : fill inner (missing + 1)
          (fillingAfter inner memory source items items.length) =
          fill inner missing (fillingAfter inner memory source (items ++ [v])
            (items ++ [v]).length) := by
        rw [hresult] at hdraw
        simp only [fill, fillingAfter, hdraw, hlength, List.reverse_append,
          List.reverse_singleton, List.singleton_append]
      have hrest := ih (items ++ [v]) (hitems.append hresult)
      rwa [← hfill, hlength, Nat.add_right_comm, Nat.add_assoc] at hrest

/-- A search for a new value: some repetitions, and then either no try is left, or the next draw
fails or gives a new value. -/
theorem drawDistinct_cases (tries n : Nat) :
    ∃ k, (∀ i, n ≤ i → i < n + k → (inner.results memory source).Repeats i) ∧
      ((k = tries ∧ drawDistinct inner ((inner.results memory source).firsts n).reverse tries
          (inner.after memory source n).1 (inner.after memory source n).2 =
            (none, inner.after memory source (n + k))) ∨
        (k < tries ∧ ∃ halt, inner.results memory source (n + k) = .error halt ∧
          drawDistinct inner ((inner.results memory source).firsts n).reverse tries
            (inner.after memory source n).1 (inner.after memory source n).2 =
              (some (.error halt), inner.after memory source (n + k + 1))) ∨
        (k < tries ∧ ∃ v, inner.results memory source (n + k) = .ok v ∧
          ¬(inner.results memory source).Repeats (n + k) ∧
          drawDistinct inner ((inner.results memory source).firsts n).reverse tries
            (inner.after memory source n).1 (inner.after memory source n).2 =
              (some (.ok v), inner.after memory source (n + k + 1)))) := by
  -- on the tries left; a repetition moves on by one draw and keeps the same first occurrences
  induction tries generalizing n with
  | zero => exact ⟨0, fun i hi hlt => absurd hi (by omega), .inl ⟨rfl, rfl⟩⟩
  | succ tries ih =>
    have hnone : ∀ i, n ≤ i → i < n + 0 → (inner.results memory source).Repeats i :=
      fun i hi hlt => absurd hi (by omega)
    have hdraw := inner.draw_after memory source n
    cases hresult : inner.results memory source n with
    | error halt =>
      rw [hresult] at hdraw
      refine ⟨0, hnone, .inr (.inl ⟨Nat.succ_pos _, halt, hresult, ?_⟩)⟩
      simp only [drawDistinct, hdraw, Nat.add_zero]
    | ok v =>
      rw [hresult] at hdraw
      by_cases hseen : (inner.results memory source).Repeats n
      · obtain ⟨k, hrow, hcases⟩ := ih (n + 1)
        have hstep : drawDistinct inner ((inner.results memory source).firsts n).reverse
            (tries + 1) (inner.after memory source n).1 (inner.after memory source n).2 =
            drawDistinct inner ((inner.results memory source).firsts (n + 1)).reverse tries
              (inner.after memory source (n + 1)).1 (inner.after memory source (n + 1)).2 := by
          have hany := (Results.repeats_iff_firsts hresult).mp hseen
          simp only [drawDistinct, hdraw, List.any_reverse, hany, if_true]
          rw [Results.firsts_succ_of_repeats hseen]
        refine ⟨k + 1, ?_, ?_⟩
        · intro i hi hlt
          rcases Nat.eq_or_lt_of_le hi with rfl | hlt'
          · exact hseen
          · exact hrow i hlt' (by omega)
        · rw [hstep, show n + (k + 1) = n + 1 + k by omega]
          simpa only [Nat.add_right_cancel_iff, Nat.add_lt_add_iff_right] using hcases
      · refine ⟨0, hnone, .inr (.inr ⟨Nat.succ_pos _, v, hresult, hseen, ?_⟩)⟩
        have hany : ¬((inner.results memory source).firsts n).any (fun u => u.equal v) = true :=
          fun h => hseen ((Results.repeats_iff_firsts hresult).mpr h)
        simp only [drawDistinct, hdraw, List.any_reverse, hany, Nat.add_zero]
        rfl

/-- Filling with distinct values ends where the results of the inner sampler say so. -/
theorem fillDistinct_endsFirst (htries : 0 < tries) (missing n : Nat)
    (h : (inner.results memory source).Underway wanted tries n)
    (hcount : ((inner.results memory source).firsts n).length + missing = wanted) :
    ∃ m result, fillDistinct inner wanted tries missing
        (fillingAfter inner memory source ((inner.results memory source).firsts n) n) =
          (result, inner.after memory source m) ∧
      (inner.results memory source).EndsFirst wanted tries m result ∧ m ≤ wanted * tries ∧
      m ≤ (((inner.results memory source).firsts m).length + 1) * tries := by
  -- on the items that are missing; `Underway` is kept by each of them
  induction missing generalizing n with
  | zero =>
    have hbound := h.bound
    have hfilled : ((inner.results memory source).firsts n).length = wanted := by omega
    refine ⟨n, _, ?_, h.endsFirst_filled htries hfilled, hfilled ▸ hbound, ?_⟩
    · simp [fillDistinct, fillingAfter]
    · rw [Nat.add_mul]
      omega
  | succ missing ih =>
    have hless : ((inner.results memory source).firsts n).length < wanted := by omega
    have hbound : n + tries ≤ (((inner.results memory source).firsts n).length + 1) * tries := by
      have hbound := h.bound
      rw [Nat.add_mul, Nat.one_mul]
      omega
    have hbound' : (((inner.results memory source).firsts n).length + 1) * tries ≤ wanted * tries :=
      Nat.mul_le_mul_right tries hless
    obtain ⟨k, hrow, ⟨hk, hsearch⟩ | ⟨hk, halt, herror, hsearch⟩ | ⟨hk, v, hv, hnew, hsearch⟩⟩ :=
      drawDistinct_cases inner memory source tries n
    · refine ⟨n + k, _, ?_, h.endsFirst_wornOut hrow hk hless, by omega, ?_⟩
      · simp only [fillDistinct, fillingAfter, hsearch, List.length_reverse]
      · rw [Results.firsts_add_of_repeats hrow]
        omega
    · refine ⟨n + k + 1, _, ?_, h.endsFirst_failed hrow hk hless herror, by omega, ?_⟩
      · simp only [fillDistinct, fillingAfter, hsearch]
      · rw [Results.firsts_succ_of_error herror, Results.firsts_add_of_repeats hrow]
        omega
    · obtain ⟨hnext, hfirsts⟩ := h.next hrow hk hless hv hnew
      have hstep : fillDistinct inner wanted tries (missing + 1)
          (fillingAfter inner memory source ((inner.results memory source).firsts n) n) =
          fillDistinct inner wanted tries missing (fillingAfter inner memory source
            ((inner.results memory source).firsts (n + k + 1)) (n + k + 1)) := by
        rw [hfirsts]
        simp only [fillDistinct, fillingAfter, hsearch, List.reverse_append,
          List.reverse_singleton, List.singleton_append]
      rw [hstep]
      refine ih (n + k + 1) hnext ?_
      rw [hfirsts, List.length_append, List.length_singleton]
      omega

theorem arraySampler_unique (lengths : IntegerRange) (htries : 0 < tries) :
    let length := (lengths.draw source).1.toInt.toNat
    let rest := (lengths.draw source).2
    ∃ n result, (arraySampler inner lengths true tries).draw memory source =
        (result.map .array, inner.after memory rest n) ∧
      (inner.results memory rest).EndsFirst length tries n result ∧ n ≤ length * tries ∧
      n ≤ (((inner.results memory rest).firsts n).length + 1) * tries := by
  intro length rest
  obtain ⟨n, result, hfill, hends, hbounds⟩ := fillDistinct_endsFirst inner memory rest htries
    length 0 Results.underway_zero (Nat.zero_add length)
  refine ⟨n, result, ?_, hends, hbounds⟩
  change fillDistinct inner length tries length ⟨[], memory, rest⟩ = _ at hfill
  simp only [arraySampler, if_true]
  rw [hfill]

theorem arraySampler_plain (lengths : IntegerRange) (tries : Nat) :
    let length := (lengths.draw source).1.toInt.toNat
    let rest := (lengths.draw source).2
    (∃ vs, vs.length = length ∧ (inner.results memory rest).StartsWith vs ∧
        (arraySampler inner lengths false tries).draw memory source =
          (.ok (.array vs), inner.after memory rest vs.length)) ∨
      ∃ vs halt, vs.length < length ∧ (inner.results memory rest).StartsWith vs ∧
        inner.results memory rest vs.length = .error halt ∧
        (arraySampler inner lengths false tries).draw memory source =
          (.error halt, inner.after memory rest (vs.length + 1)) := by
  intro length rest
  have hfill := fill_cases inner memory rest length [] (Results.startsWith_nil _)
  simp only [List.length_nil, Nat.zero_add] at hfill
  have hdraw (result : Except Halt (List Value)) (left : inner.Memory × Source)
      (h : fill inner length (fillingAfter inner memory rest [] 0) = (result, left)) :
      (arraySampler inner lengths false tries).draw memory source = (result.map .array, left) := by
    change fill inner length ⟨[], memory, rest⟩ = _ at h
    simp only [arraySampler, Bool.false_eq_true, if_false]
    rw [h]
  rcases hfill with ⟨vs, hlength, hstarts, h⟩ | ⟨vs, halt, hlength, hstarts, herror, h⟩
  · exact .inl ⟨vs, hlength, hstarts, hdraw _ _ h⟩
  · exact .inr ⟨vs, halt, hlength, hstarts, herror, hdraw _ _ h⟩

/-- What an accepted call of `array` draws, as a function of the results of the sampler on its left
after the length was drawn. An array of distinct values has the first occurrences of their values,
in order, at the earliest draw that makes them enough; or the error of the earliest failed draw, or
that it is exhausted at the earliest draw with `max 1 retries` repetitions in a row, if that comes
first. An array without items draws nothing. A plain array has the first values themselves, or the
error of the first draw that fails. The source and the memory are left as these draws leave
them. -/
theorem array_of_draws (limits : DrawLimits) (c : Call) (inner σ : Sampler)
    (h : (arrayFunction limits).build c (some inner) = .ok σ) :
    ∃ lengths unique, HasBounds c (1, 1) lengths.low.toInt lengths.high.toInt ∧
      (unique = true ↔ AsksUnique c) ∧
      σ = arraySampler inner lengths unique (max limits.uniqueRetries 1) ∧
      ∀ (memory : inner.Memory) (source : Source),
        let tries := max limits.uniqueRetries 1
        let length := (lengths.draw source).1.toInt.toNat
        let rest := (lengths.draw source).2
        let d := inner.results memory rest
        let drawn := (arraySampler inner lengths unique tries).draw memory source
        (unique = true →
          (length = 0 → drawn = (.ok (.array []), memory, rest)) ∧
          ∃ n result, drawn = (result.map .array, inner.after memory rest n) ∧
            d.EndsFirst length tries n result ∧ n ≤ length * tries) ∧
        (unique = false →
          (∃ vs, vs.length = length ∧ d.StartsWith vs ∧
            drawn = (.ok (.array vs), inner.after memory rest vs.length)) ∨
          ∃ vs halt, vs.length < length ∧ d.StartsWith vs ∧ d vs.length = .error halt ∧
            drawn = (.error halt, inner.after memory rest (vs.length + 1))) := by
  obtain ⟨inner', lengths, unique, hinner, hlengths, hunique, rfl⟩ := exists_arraySampler h
  obtain rfl := Option.some.inj hinner
  refine ⟨lengths, unique, (lengthRange_eq_ok hlengths).1, uniqueOption_eq_ok hunique, rfl, ?_⟩
  have htries : 0 < max limits.uniqueRetries 1 := by omega
  cases unique with
  | true =>
    intro memory source tries length rest d drawn
    refine ⟨fun _ => ?_, fun hfalse => nomatch hfalse⟩
    obtain ⟨n, result, hdrawn, hends, hbound, -⟩ :=
      arraySampler_unique inner memory source lengths htries
    refine ⟨fun hzero => ?_, n, result, hdrawn, hends, hbound⟩
    obtain rfl : n = 0 := by
      change n ≤ length * tries at hbound
      rw [hzero, Nat.zero_mul] at hbound
      exact Nat.le_zero.mp hbound
    rw [hends.filled hzero.symm] at hdrawn
    exact hdrawn
  | false =>
    intro memory source tries length rest d drawn
    exact ⟨fun htrue => (nomatch htrue),
      fun _ => arraySampler_plain inner memory source lengths tries⟩

/-- Zero twice and then one, over and over. -/
def stuttering : Sampler where
  Memory := Nat
  start := 0
  draw count source := (.ok (.int (if count % 3 = 2 then 1 else 0)), count + 1, source)

theorem results_stuttering (source : Source) (i : Nat) :
    stuttering.results (0 : Nat) source i = .ok (.int (if i % 3 = 2 then 1 else 0)) := by
  have hafter (n : Nat) : stuttering.after (0 : Nat) source n = (n, source) := by
    induction n with
    | zero => rfl
    | succ n ih =>
      change (stuttering.draw (stuttering.after (0 : Nat) source n).1 _).2 = _
      rw [ih]
      rfl
  change (stuttering.draw (stuttering.after (0 : Nat) source i).1 _).1 = _
  rw [hafter]
  rfl

/-- The second zero is thrown away, the one after it is new. -/
theorem endsFirst_stuttering (source : Source) :
    (stuttering.results (0 : Nat) source).EndsFirst 2 2 3 (.ok [.int 0, .int 1]) := by
  have hresults := results_stuttering source
  generalize stuttering.results (0 : Nat) source = d at hresults
  have hfirsts : d.firsts 1 = [.int 0] ∧ d.firsts 2 = [.int 0] ∧ d.firsts 3 = [.int 0, .int 1] := by
    simp [Results.firsts, Results.before, hresults, List.range_succ, Value.equal, Except.toOption]
  have hsound (i : Nat) (halt : Halt) : d i ≠ .error halt := by
    rw [hresults]
    intro h
    cases h
  have hnew : ¬d.Repeats 0 ∧ ¬d.Repeats 2 := by
    rw [Results.repeats_iff_firsts (hresults 0), Results.repeats_iff_firsts (hresults 2),
      hfirsts.2.1]
    exact ⟨Bool.false_ne_true, by decide⟩
  have hfresh (i : Nat) (hi : i ≤ 3) : ¬d.WornOut 2 i := by
    rintro ⟨hle, hall⟩
    rcases Nat.lt_or_ge 2 i with hlt | hge
    · exact hnew.2 (hall 2 hlt (by omega))
    · exact hnew.1 (hall 0 (by omega) (by omega))
  refine ⟨.inl (by simp [hfirsts]), ?_, fun _ => by rw [hfirsts.2.2],
    fun i halt _ herror => absurd herror (hsound i halt), fun hworn => absurd hworn (hfresh 3 le_rfl)⟩
  rintro i hi (hfilled | ⟨j, halt, -, herror⟩ | hworn)
  · have hcases : i = 0 ∨ i = 1 ∨ i = 2 := by omega
    rcases hcases with rfl | rfl | rfl
    · cases hfilled
    · simp [hfirsts] at hfilled
    · simp [hfirsts] at hfilled
  · exact hsound j halt herror
  · exact hfresh i (by omega) hworn

/-- `array(2..2, unique=true)` -/
def distinctPair : Call := ⟨"array", [.range 2 2, .option "unique" (.flag true)]⟩

theorem array_of_draws_stuttering :
    ∃ σ, (arrayFunction ⟨2, 10⟩).build distinctPair (some stuttering) = .ok σ ∧
      ∃ lengths, σ = arraySampler stuttering lengths true 2 ∧
        ∀ source, (arraySampler stuttering lengths true 2).draw (0 : Nat) source =
          (.ok (.array [.int 0, .int 1]), (3 : Nat), (lengths.draw source).2) := by
  have hok : ((arrayFunction ⟨2, 10⟩).build distinctPair (some stuttering)).toBool = true := by
    decide +kernel
  obtain ⟨σ, hσ⟩ := exists_of_toBool hok
  obtain ⟨lengths, unique, hbounds, hunique, hsampler, hdraws⟩ :=
    array_of_draws ⟨2, 10⟩ distinctPair stuttering σ hσ
  have hasks : AsksUnique distinctPair := ⟨[.range 2 2], [], rfl, by simp⟩
  obtain rfl : unique = true := hunique.mpr hasks
  have htwo : HasBounds distinctPair (1, 1) 2 2 :=
    ⟨2, 2, .inl ⟨[], [.option "unique" (.flag true)], rfl, by simp⟩, by decide +kernel,
      by decide +kernel⟩
  obtain ⟨hlow, hhigh⟩ := hbounds.unique htwo
  refine ⟨σ, hσ, lengths, hsampler, fun source => ?_⟩
  have hlength : (lengths.draw source).1.toInt.toNat = 2 := by
    obtain ⟨hle, hge⟩ := lengths.draw_mem source
    omega
  obtain ⟨-, n, result, hdrawn, hends, -⟩ := (hdraws (0 : Nat) source).1 rfl
  rw [hlength] at hends
  obtain ⟨rfl, rfl⟩ := hends.unique (endsFirst_stuttering _)
  exact hdrawn

end Assay.Draw
