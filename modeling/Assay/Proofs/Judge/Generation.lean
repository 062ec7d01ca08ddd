import Assay.Judge.Generation
import Assay.Proofs.Judge.Flight
import Assay.Proofs.Result
import Assay.Proofs.Runner.Start

/-!
What generating tests comes to once nothing is in flight any more: the reference program run on
one input after another, up to the first run that fails.
-/

namespace Assay.Judge

open Draw (Vocabulary)
open Runner (Failure Registry)

variable {g : Registry} {r : Runner.Runner} {code : String}

/-- The result of running the reference program on an input. -/
def caseOf (g : Registry) (r : Runner.Runner) (code input : String) :
    Except Failure GeneratedCase :=
  (runReference g r code input).answer

theorem collect_untilLast (results : List (Except Failure GeneratedCase)) :
    collect (untilLast isFailed results) = collect results := by
  induction results with
  | nil => rfl
  | cons result results ih =>
    cases result with
    | error failure => rfl
    | ok c => simp only [untilLast, isFailed, Bool.false_eq_true, if_false, collect, ih]

/-- No schedule changes what is collected. -/
theorem collect_generating (concurrency : Nat) (schedule : Schedule) (inputs : List String) :
    collect ((generating g r code concurrency).report schedule inputs).answer =
      collect (inputs.map (caseOf g r code)) := by
  have hw : 0 < (generating g r code concurrency).width := show 0 < max concurrency 1 by omega
  have h := congrArg collect (Carrier.untilLast_results_run hw schedule inputs)
  change collect (untilLast isFailed _) = collect (untilLast isFailed _) at h
  rwa [collect_untilLast, collect_untilLast] at h

/-- All cases are collected only if no run failed. -/
theorem isFailed_of_collect_ok {results : List (Except Failure GeneratedCase)}
    {cases : List GeneratedCase} (h : collect results = .ok cases) :
    ∀ result ∈ results, isFailed result = false := by
  induction results generalizing cases with
  | nil => simp
  | cons result results ih =>
    cases result with
    | error failure => cases h
    | ok c =>
      obtain ⟨rest, hrest, -⟩ := exists_of_map_eq_ok h
      exact List.forall_mem_cons.mpr ⟨rfl, ih hrest⟩

/-- Either every run succeeds, or the first input on which the program fails decides. -/
theorem collect_caseOf (g : Registry) (r : Runner.Runner) (code : String)
    (inputs : List String) :
    (∃ cases, collect (inputs.map (caseOf g r code)) = .ok cases ∧
        cases.map GeneratedCase.input = inputs ∧
        ∀ c ∈ cases, ∃ success, (g.startOf r code c.input).Answers (.ok success) ∧
          c.output = success.stdout) ∨
      ∃ before input after failure, inputs = before ++ input :: after ∧
        (∀ earlier ∈ before, ∃ success, (g.startOf r code earlier).Answers (.ok success)) ∧
        (g.startOf r code input).Answers (.error failure) ∧
        collect (inputs.map (caseOf g r code)) = .error failure := by
  induction inputs with
  | nil => exact .inl ⟨[], rfl, rfl, by simp⟩
  | cons input inputs ih =>
    cases hrun : (g.run r code input).answer with
    | error failure =>
      refine .inr ⟨[], input, inputs, failure, rfl, by simp, Registry.answer_run_iff.mp hrun, ?_⟩
      simp [caseOf, runReference, hrun, Except.map, collect]
    | ok success =>
      have hanswers := Registry.answer_run_iff.mp hrun
      have hcollect : collect ((input :: inputs).map (caseOf g r code)) =
          (collect (inputs.map (caseOf g r code))).map (⟨input, success.stdout⟩ :: ·) := by
        simp only [List.map_cons, caseOf, runReference, Runner.Report.answer_map, hrun, Except.map,
          collect]
      rw [hcollect]
      rcases ih with ⟨cases, hcases, hinputs, houtputs⟩ |
        ⟨before, failing, after, failure, hsplit, hbefore, hfail, herror⟩
      · refine .inl ⟨⟨input, success.stdout⟩ :: cases, by rw [hcases]; rfl, by simp [hinputs], ?_⟩
        exact List.forall_mem_cons.mpr ⟨⟨success, hanswers, rfl⟩, houtputs⟩
      · refine .inr ⟨input :: before, failing, after, failure, by simp [hsplit], ?_, hfail,
          by rw [herror]; rfl⟩
        exact List.forall_mem_cons.mpr ⟨⟨success, hanswers⟩, hbefore⟩

section Generate

variable {v : Vocabulary} {language : Language} {source : String} {count : Int} {seed : UInt64}
  {limit : Nat} (concurrency : Nat) (schedule : Schedule)

theorem generate_of_not_pos (h : count < 1) :
    (generate g v language code source count seed limit concurrency schedule).answer =
      .error (.violation (.countNotPositive count)) := by
  simp [generate, checkCount, refuse, show count ≤ 0 by omega]

theorem generate_of_too_large (hpos : 1 ≤ count) (h : (limit : Int) < count) :
    (generate g v language code source count seed limit concurrency schedule).answer =
      .error (.violation (.countTooLarge limit count.toNat)) := by
  simp [generate, checkCount, refuse, show ¬count ≤ 0 by omega,
    show limit < count.toNat by omega]

theorem checkCount_of_within (hpos : 1 ≤ count) (h : count ≤ limit) :
    checkCount count limit = .ok count.toNat := by
  simp [checkCount, show ¬count ≤ 0 by omega, show ¬limit < count.toNat by omega]

theorem generate_of_unsupported (hpos : 1 ≤ count) (h : count ≤ limit)
    (hfind : g.find? language = none) :
    (generate g v language code source count seed limit concurrency schedule).answer =
      .error (.unsupported language) := by
  simp [generate, checkCount_of_within hpos h, hfind, refuse]

theorem generate_of_halt {halt : Draw.Halt} (hpos : 1 ≤ count) (h : count ≤ limit)
    (hfind : g.find? language = some r) (hsample : v.sample source count.toNat seed = .error halt) :
    (generate g v language code source count seed limit concurrency schedule).answer =
      .error (.ofHalt halt) := by
  simp [generate, checkCount_of_within hpos h, hfind, hsample, refuse]

theorem generate_of_inputs {inputs : List String} (hpos : 1 ≤ count) (h : count ≤ limit)
    (hfind : g.find? language = some r) (hsample : v.sample source count.toNat seed = .ok inputs) :
    (generate g v language code source count seed limit concurrency schedule).answer =
      (collect (inputs.map (caseOf g r code))).mapError .failure := by
  simp [generate, checkCount_of_within hpos h, hfind, hsample, collect_generating]

/-- Tests are generated from the inputs that a preview draws, and each output is what the
reference program wrote for its input. -/
theorem exists_of_generate_ok {cases : List GeneratedCase}
    (hok : (generate g v language code source count seed limit concurrency schedule).answer =
      .ok cases) :
    1 ≤ count ∧ count ≤ limit ∧ ∃ r, g.find? language = some r ∧
      v.sample source count.toNat seed = .ok (cases.map GeneratedCase.input) ∧
      ∀ c ∈ cases, ∃ success, (g.startOf r code c.input).Answers (.ok success) ∧
        c.output = success.stdout := by
  by_cases hpos : 1 ≤ count
  · by_cases hle : count ≤ limit
    · refine ⟨hpos, hle, ?_⟩
      cases hfind : g.find? language with
      | none => simp [generate_of_unsupported concurrency schedule hpos hle hfind] at hok
      | some r =>
        cases hsample : v.sample source count.toNat seed with
        | error halt => simp [generate_of_halt concurrency schedule hpos hle hfind hsample] at hok
        | ok inputs =>
          rw [generate_of_inputs concurrency schedule hpos hle hfind hsample] at hok
          rcases collect_caseOf g r code inputs with ⟨cases', hcases, hinputs, houtputs⟩ |
            ⟨_, _, _, _, -, -, -, herror⟩
          · rw [hcases] at hok
            rw [← Except.ok.inj hok]
            exact ⟨r, rfl, by rw [hinputs], houtputs⟩
          · rw [herror] at hok
            cases hok
    · rw [generate_of_too_large concurrency schedule hpos (Int.not_le.mp hle)] at hok
      cases hok
  · rw [generate_of_not_pos concurrency schedule (Int.not_le.mp hpos)] at hok
    cases hok

theorem sample_of_generate_ok {cases : List GeneratedCase}
    (hok : (generate g v language code source count seed limit concurrency schedule).answer =
      .ok cases) :
    1 ≤ count ∧ count ≤ limit ∧
      v.sample source count.toNat seed = .ok (cases.map GeneratedCase.input) := by
  obtain ⟨hpos, hle, -, -, hsample, -⟩ := exists_of_generate_ok concurrency schedule hok
  exact ⟨hpos, hle, hsample⟩

/-- When tests are generated, the reference program was run exactly once on each input. -/
theorem started_of_generate_ok {cases : List GeneratedCase}
    (hok : (generate g v language code source count seed limit concurrency schedule).answer =
      .ok cases) (hfind : g.find? language = some r) :
    (generate g v language code source count seed limit concurrency schedule).started =
      (cases.map GeneratedCase.input).map (g.startOf r code) := by
  obtain ⟨hpos, hle, hsample⟩ := sample_of_generate_ok concurrency schedule hok
  have hcount := checkCount_of_within hpos hle
  simp only [generate, hcount, hfind, hsample, Runner.Report.answer_map,
    Runner.Report.started_map] at hok ⊢
  have hcollect : ∃ cases', collect ((generating g r code concurrency).report schedule
      (cases.map GeneratedCase.input)).answer = .ok cases' := by
    cases h : collect ((generating g r code concurrency).report schedule
      (cases.map GeneratedCase.input)).answer with
    | error failure => simp [h, Except.mapError] at hok
    | ok cases' => exact ⟨cases', rfl⟩
  obtain ⟨cases', hcases'⟩ := hcollect
  have hw : 0 < (generating g r code concurrency).width := show 0 < max concurrency 1 by omega
  exact (Carrier.started_run hw schedule (isFailed_of_collect_ok hcases')).trans
    List.map_eq_flatMap.symm

end Generate

end Assay.Judge
