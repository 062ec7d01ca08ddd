import Assay.Proofs.Draw.Preview
import Assay.Proofs.Judge.Generation
import Assay.Proofs.Judge.Submission

/-!
The reference program passes the tests that it generated: what it wrote for an input when the test
was generated is what it writes again when it is judged.
-/

namespace Assay.Judge

open Draw (Vocabulary)
open Runner (Registry)

/-- A generated test as a test of a submission: what was written is expected. -/
def GeneratedCase.test (c : GeneratedCase) : TestCase := ⟨c.input, c.output⟩

variable {g : Registry} {r : Runner.Runner} {code : String}

theorem recordOf_test {c : GeneratedCase} {success : Runner.Success}
    (hrun : (g.startOf r code c.input).Answers (.ok success)) (houtput : c.output = success.stdout) :
    recordOf g r code c.test = .ok .passed := by
  have hanswer := Registry.answer_run_iff.mpr hrun
  simp [recordOf, judgeWith, GeneratedCase.test, hanswer, houtput, Except.map, compare]

/-- All tests that a program generated pass, when it is the program that is judged. -/
theorem map_recordOf_test {cases : List GeneratedCase}
    (h : ∀ c ∈ cases, ∃ success, (g.startOf r code c.input).Answers (.ok success) ∧
      c.output = success.stdout) :
    (cases.map GeneratedCase.test).map (recordOf g r code) =
      List.replicate cases.length (.ok .passed) := by
  rw [List.map_map, List.eq_replicate_iff]
  refine ⟨by rw [List.length_map], ?_⟩
  intro record hrecord
  obtain ⟨c, hc, rfl⟩ := List.mem_map.mp hrecord
  obtain ⟨success, hrun, houtput⟩ := h c hc
  exact recordOf_test hrun houtput

theorem reduce_replicate_passed (count : Nat) :
    reduce (List.replicate count (.ok .passed)) = .accepted := by
  have hall : ∀ record ∈ List.replicate count (Except.ok Outcome.passed : Record),
      record = .ok .passed :=
    fun record hrecord => List.eq_of_mem_replicate hrecord
  rcases reduce_cases (List.replicate count (.ok .passed)) with
    ⟨⟨failure, hmem, -⟩, -⟩ | ⟨-, ⟨failure, hmem⟩, -⟩ | ⟨-, -, hverdict⟩ | ⟨-, hnot, -⟩
  · cases hall _ hmem
  · cases hall _ hmem
  · exact hverdict
  · exact absurd hall hnot

/-- Whenever tests are generated, as many as were asked for, the reference program is accepted on
all of them, whatever the concurrency and the schedules of both. -/
theorem generated_accepted (g : Registry) (v : Vocabulary) (language : Language)
    (code source : String) (count : Int) (seed : UInt64) (limit concurrency : Nat)
    (schedule : Schedule) (cases : List GeneratedCase)
    (hok : (generate g v language code source count seed limit concurrency schedule).answer =
      .ok cases) (concurrency' : Nat) (schedule' : Schedule) :
    1 ≤ count ∧
      (aggregate g language code (cases.map GeneratedCase.test) concurrency' schedule').answer =
        .ok ⟨.accepted, List.replicate count.toNat .passed⟩ := by
  obtain ⟨hpos, -, r, hfind, hsample, hruns⟩ := exists_of_generate_ok concurrency schedule hok
  have hlength : cases.length = count.toNat := by
    have h := Vocabulary.length_of_sample hsample
    rwa [List.length_map] at h
  have hne : cases.map GeneratedCase.test ≠ [] := by
    intro hnil
    have hzero : cases.length = 0 := by rw [List.map_eq_nil_iff.mp hnil, List.length_nil]
    omega
  refine ⟨hpos, ?_⟩
  rw [aggregate_of_supported concurrency' schedule' hne hfind, map_recordOf_test hruns,
    reduce_replicate_passed, List.map_replicate, hlength]
  rfl

/-- One language, whose programs write themselves before their input. -/
def quoting : Registry :=
  (Registry.empty ⟨0⟩).register <| .ofFunction "Quote" "1" fun code stdin =>
    .ok (.ofStdout (code ++ stdin))

/-- Three tests of two random integers each, generated one at a time and judged with two runs in
flight, the second of which ends first. -/
theorem generated_accepted_quoting :
    ∃ cases, (generate quoting (.standard .standard) ⟨"quote ", ""⟩ "x" "int(-5..5).array(2..2)" 3
        7 10 1).answer = .ok cases ∧ 1 ≤ (3 : Int) ∧
      (aggregate quoting ⟨"quote ", ""⟩ "x" (cases.map GeneratedCase.test) 2
        [.start, .start, .finish 1]).answer = .ok ⟨.accepted, [.passed, .passed, .passed]⟩ := by
  have hok : (generate quoting (.standard .standard) ⟨"quote ", ""⟩ "x" "int(-5..5).array(2..2)" 3
      7 10 1).answer.toBool = true := by decide +kernel
  cases h : (generate quoting (.standard .standard) ⟨"quote ", ""⟩ "x" "int(-5..5).array(2..2)" 3
      7 10 1).answer with
  | error error =>
    rw [h] at hok
    cases hok
  | ok cases =>
    exact ⟨cases, rfl, generated_accepted _ _ _ _ _ _ _ _ _ _ _ h 2 [.start, .start, .finish 1]⟩

end Assay.Judge
