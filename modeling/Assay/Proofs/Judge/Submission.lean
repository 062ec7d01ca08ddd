import Assay.Judge.Submission
import Assay.Proofs.Judge.Flight
import Assay.Proofs.Runner.Start

/-!
What judging a submission comes to once nothing is in flight any more: one record for each test,
in the order of the tests, and the verdict on them.
-/

namespace Assay.Judge

open Runner (Failure Registry)

variable {g : Registry} {r : Runner.Runner} {code : String}

/-- The record that judging a test ends with. -/
def recordOf (g : Registry) (r : Runner.Runner) (code : String) (test : TestCase) : Record :=
  (judgeWith g r code test).answer

@[simp] theorem results_judging (concurrency : Nat) (schedule : Schedule)
    (tests : List TestCase) :
    ((judging g r code concurrency).report schedule tests).answer = tests.map (recordOf g r code) :=
  Carrier.results_run_of_never (show 0 < max concurrency 1 by omega) rfl schedule tests

/-- Every test is run exactly once. -/
@[simp] theorem started_judging (concurrency : Nat) (schedule : Schedule)
    (tests : List TestCase) :
    ((judging g r code concurrency).report schedule tests).started =
      tests.map fun test => g.startOf r code test.input :=
  (Carrier.started_run (show 0 < max concurrency 1 by omega) schedule fun _ _ => rfl).trans
    List.map_eq_flatMap.symm

section Aggregate

variable {language : Language} {tests : List TestCase} (concurrency : Nat) (schedule : Schedule)

theorem aggregate_of_unsupported (hne : tests ≠ []) (hfind : g.find? language = none) :
    (aggregate g language code tests concurrency schedule).answer =
      .error (.unsupported language) := by
  simp [aggregate, hne, hfind, refuse]

theorem aggregate_of_supported (hne : tests ≠ []) (hfind : g.find? language = some r) :
    (aggregate g language code tests concurrency schedule).answer =
      .ok ⟨reduce (tests.map (recordOf g r code)),
        (tests.map (recordOf g r code)).map Record.outcome⟩ := by
  simp [aggregate, hne, hfind]

/-- Only tests in a language that is supported are judged, and at least one of them. -/
theorem exists_of_aggregate_ok {submission : Submission}
    (hok : (aggregate g language code tests concurrency schedule).answer = .ok submission) :
    tests ≠ [] ∧ ∃ r, g.find? language = some r ∧
      submission = ⟨reduce (tests.map (recordOf g r code)),
        (tests.map (recordOf g r code)).map Record.outcome⟩ := by
  have hne : tests ≠ [] := by
    rintro rfl
    simp [aggregate, refuse] at hok
  cases hfind : g.find? language with
  | none =>
    rw [aggregate_of_unsupported concurrency schedule hne hfind] at hok
    cases hok
  | some r =>
    rw [aggregate_of_supported concurrency schedule hne hfind] at hok
    exact ⟨hne, r, rfl, (Except.ok.inj hok).symm⟩

theorem started_aggregate_of_supported (hne : tests ≠ []) (hfind : g.find? language = some r) :
    (aggregate g language code tests concurrency schedule).started =
      tests.map fun test => g.startOf r code test.input := by
  simp [aggregate, hne, hfind]

end Aggregate

theorem recordOf_eq_error_iff {test : TestCase} {failure : Failure} :
    recordOf g r code test = .error failure ↔
      (g.run r code test.input).answer = .error failure := by
  unfold recordOf judgeWith
  cases h : (g.run r code test.input).answer <;> simp [h, Except.map]

theorem outcome_eq_passed_iff {record : Record} : record.outcome = .passed ↔ record = .ok .passed := by
  cases record <;> simp [Record.outcome]

/-- The verdict by the first of four questions that is answered with yes. -/
theorem reduce_cases (records : List Record) :
    ((∃ failure : Failure, .error failure ∈ records ∧ failure.isCompile) ∧
        reduce records = .compileError) ∨
      ((¬∃ failure : Failure, .error failure ∈ records ∧ failure.isCompile) ∧
        (∃ failure : Failure, .error failure ∈ records) ∧ reduce records = .runtimeError) ∨
      ((¬∃ failure : Failure, .error failure ∈ records) ∧
        (∀ record ∈ records, record = .ok .passed) ∧ reduce records = .accepted) ∨
      ((¬∃ failure : Failure, .error failure ∈ records) ∧
        (¬∀ record ∈ records, record = .ok .passed) ∧ reduce records = .wrongAnswer) := by
  have hcompile : records.any Record.isCompileFailure = true ↔
      ∃ failure : Failure, .error failure ∈ records ∧ failure.isCompile := by
    rw [List.any_eq_true]
    constructor
    · rintro ⟨_ | _, hmem, h⟩
      · exact ⟨_, hmem, h⟩
      · cases h
    · rintro ⟨failure, hmem, h⟩
      exact ⟨_, hmem, h⟩
  have hfailure : records.any Record.isFailure = true ↔
      ∃ failure : Failure, .error failure ∈ records := by
    rw [List.any_eq_true]
    constructor
    · rintro ⟨_ | _, hmem, h⟩
      · exact ⟨_, hmem⟩
      · cases h
    · rintro ⟨failure, hmem⟩
      exact ⟨_, hmem, rfl⟩
  have hpassed : records.all Record.isPassed = true ↔
      ∀ record ∈ records, record = .ok .passed := by
    rw [List.all_eq_true]
    refine forall₂_congr fun record _ => ?_
    obtain _ | _ | _ := record <;> simp [Record.isPassed, Outcome.isPassed]
  rw [← hcompile, ← hfailure, ← hpassed]
  unfold reduce
  by_cases hc : records.any Record.isCompileFailure = true
  · exact .inl ⟨hc, if_pos hc⟩
  by_cases hf : records.any Record.isFailure = true
  · exact .inr (.inl ⟨hc, hf, by rw [if_neg hc, if_pos hf]⟩)
  by_cases hp : records.all Record.isPassed = true
  · exact .inr (.inr (.inl ⟨hf, hp, by rw [if_neg hc, if_neg hf, if_pos hp]⟩))
  · exact .inr (.inr (.inr ⟨hf, hp, by rw [if_neg hc, if_neg hf, if_neg hp]⟩))

end Assay.Judge
