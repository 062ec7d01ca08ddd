import Assay.Proofs.Judge.Generation
import Assay.Proofs.Judge.Submission
import Assay.Proofs.Service.Reply
import Mathlib.Data.List.Forall2

/-!
Commands that have to agree: what `submit` says of a test is what `run-code` says of its input,
and `generate-test-case` runs the reference program on the inputs that `sample` shows.
-/

namespace Assay.Service

open Draw (Vocabulary)
open Judge (GeneratedCase Schedule TestCase)
open Runner (Failure Registry)

variable {s : Service} {language : Language}

theorem runCode_of_unsupported (hfind : s.registry.find? language = none) (code input : String) :
    (s.runCode ⟨code, input, language⟩).answer = .error (.judge (.unsupported language)) := by
  simp [runCode, Judge.execute, hfind, Judge.refuse, Reply.ofReport, Except.map,
    Except.mapError]

theorem runCode_of_ok {r : Runner.Runner} (hfind : s.registry.find? language = some r)
    {code input : String} {success : Runner.Success}
    (hrun : (s.registry.run r code input).answer = .ok success) :
    (s.runCode ⟨code, input, language⟩).answer = .ok (.output success.stdout) := by
  simp [runCode, Judge.execute, hfind, hrun, Reply.ofReport, Except.map, Except.mapError]

theorem runCode_of_error {r : Runner.Runner} (hfind : s.registry.find? language = some r)
    {code input : String} {failure : Failure}
    (hrun : (s.registry.run r code input).answer = .error failure) :
    (s.runCode ⟨code, input, language⟩).answer = .error (.judge (.failure failure)) := by
  simp [runCode, Judge.execute, hfind, hrun, Reply.ofReport, Except.map, Except.mapError]

/-- `run-code` fails exactly where a test has a failure for its record. -/
theorem runCode_eq_error_iff {r : Runner.Runner} (hfind : s.registry.find? language = some r)
    {code : String} {test : TestCase} {failure : Failure} :
    (s.runCode ⟨code, test.input, language⟩).answer = .error (.judge (.failure failure)) ↔
      Judge.recordOf s.registry r code test = .error failure := by
  rw [Judge.recordOf_eq_error_iff]
  cases hrun : (s.registry.run r code test.input).answer with
  | ok success => simp [runCode_of_ok hfind hrun]
  | error failure' => simp [runCode_of_error hfind hrun]

/-- What an answer of `run-code` makes of the test with its input. -/
structure Settles (ran : Except RequestError Response) (expected : String)
    (outcome : Judge.Outcome) : Prop where
  passed_iff : outcome = .passed ↔ ran = .ok (.output expected)
  different : ∀ output, ran = .ok (.output output) → output ≠ expected →
    outcome = .failed (some (Judge.differenceMessage expected output))
  failed : ∀ error, ran = .error error → outcome = .failed (some error.message)

theorem settles_recordOf {r : Runner.Runner} (hfind : s.registry.find? language = some r)
    (code : String) (test : TestCase) :
    Settles (s.runCode ⟨code, test.input, language⟩).answer test.expectedOutput
      (Judge.recordOf s.registry r code test).outcome := by
  cases hrun : (s.registry.run r code test.input).answer with
  | error failure =>
    rw [runCode_of_error hfind hrun]
    simp only [Judge.recordOf, Judge.judgeWith, Runner.Report.answer_map, hrun, Except.map,
      Judge.Record.outcome]
    refine ⟨by simp, by simp, ?_⟩
    intro error herror
    rw [← Except.error.inj herror]
    rfl
  | ok success =>
    rw [runCode_of_ok hfind hrun]
    simp only [Judge.recordOf, Judge.judgeWith, Runner.Report.answer_map, hrun, Except.map,
      Judge.Record.outcome, Judge.compare]
    refine ⟨?_, ?_, by simp⟩
    · by_cases heq : success.stdout = test.expectedOutput <;> simp [heq]
    · intro output houtput hne
      have heq : success.stdout = output := by simpa using houtput
      simp [heq, hne]

section Records

variable {r : Runner.Runner} (hfind : s.registry.find? language = some r) (code : String)
  (tests : List TestCase)

include hfind

theorem fails_iff_error_mem :
    (∃ test ∈ tests, ∃ error, (s.runCode ⟨code, test.input, language⟩).answer = .error error) ↔
      ∃ failure : Failure, .error failure ∈ tests.map (Judge.recordOf s.registry r code) := by
  constructor
  · rintro ⟨test, htest, error, herror⟩
    cases hrun : (s.registry.run r code test.input).answer with
    | ok success => simp [runCode_of_ok hfind hrun] at herror
    | error failure =>
      exact ⟨failure, List.mem_map.mpr ⟨test, htest, Judge.recordOf_eq_error_iff.mpr hrun⟩⟩
  · rintro ⟨failure, hmem⟩
    obtain ⟨test, htest, hrecord⟩ := List.mem_map.mp hmem
    exact ⟨test, htest, _, (runCode_eq_error_iff hfind).mpr hrecord⟩

theorem compileFails_iff_error_mem :
    (∃ test ∈ tests, ∃ message, (s.runCode ⟨code, test.input, language⟩).answer =
        .error (.judge (.failure (.compile message)))) ↔
      ∃ failure : Failure, .error failure ∈ tests.map (Judge.recordOf s.registry r code) ∧
        failure.isCompile := by
  constructor
  · rintro ⟨test, htest, message, herror⟩
    exact ⟨.compile message,
      List.mem_map.mpr ⟨test, htest, (runCode_eq_error_iff hfind).mp herror⟩, rfl⟩
  · rintro ⟨failure, hmem, hcompile⟩
    obtain ⟨test, htest, hrecord⟩ := List.mem_map.mp hmem
    cases failure with
    | compile message => exact ⟨test, htest, message, (runCode_eq_error_iff hfind).mpr hrecord⟩
    | runtime | timeout | outputLimit | sandbox => cases hcompile

end Records

/-- `submit` agrees with `run-code` on every test, whatever the concurrency and the order in which
the runs start and end. -/
theorem submit_agrees_with_runCode (s : Service) (code : String) (language : Language)
    (tests : List TestCase) (schedule : Schedule) (hne : tests ≠ []) :
    let answer := (s.submit ⟨code, language, tests⟩ schedule).answer
    let ran := fun input => (s.runCode ⟨code, input, language⟩).answer
    (s.registry.find? language = none →
      answer = .error (.judge (.unsupported language)) ∧
        ∀ input, ran input = .error (.judge (.unsupported language))) ∧
    (s.registry.find? language ≠ none → ∃ submission, answer = .ok (.judged submission) ∧
      List.Forall₂ (fun test outcome => Settles (ran test.input) test.expectedOutput outcome)
        tests submission.perTest ∧
      let compileFails := ∃ test ∈ tests, ∃ message,
        ran test.input = .error (.judge (.failure (.compile message)))
      let fails := ∃ test ∈ tests, ∃ error, ran test.input = .error error
      let allPass := ∀ outcome ∈ submission.perTest, outcome = .passed
      (submission.verdict = .compileError ↔ compileFails) ∧
      (submission.verdict = .runtimeError ↔ ¬compileFails ∧ fails) ∧
      (submission.verdict = .accepted ↔ allPass) ∧
      (submission.verdict = .wrongAnswer ↔ ¬fails ∧ ¬allPass)) := by
  intro answer ran
  constructor
  · intro hfind
    refine ⟨?_, fun input => runCode_of_unsupported hfind code input⟩
    simp [answer, submit, Reply.ofReport, Judge.aggregate_of_unsupported _ _ hne hfind,
      Except.map, Except.mapError]
  · intro hfind
    obtain ⟨r, hr⟩ := Option.ne_none_iff_exists'.mp hfind
    let records := tests.map (Judge.recordOf s.registry r code)
    refine ⟨⟨Judge.reduce records, records.map Judge.Record.outcome⟩, ?_, ?_, ?_⟩
    · simp [answer, records, submit, Reply.ofReport, Judge.aggregate_of_supported _ _ hne hr,
        Except.map, Except.mapError]
    · rw [List.map_map, List.forall₂_map_right_iff, List.forall₂_same]
      exact fun test _ => settles_recordOf hr code test
    · intro compileFails fails allPass
      have hcompile : compileFails ↔ _ := compileFails_iff_error_mem hr code tests
      have hfails : fails ↔ _ := fails_iff_error_mem hr code tests
      have hpass : allPass ↔ ∀ record ∈ records, record = .ok .passed := by
        simp only [allPass, List.forall_mem_map, Judge.outcome_eq_passed_iff]
      have hclash : allPass → ¬fails := by
        rw [hpass, hfails]
        rintro hall ⟨failure, hmem⟩
        cases hall _ hmem
      have hfirst : compileFails → fails := by
        rw [hcompile, hfails]
        rintro ⟨failure, hmem, -⟩
        exact ⟨failure, hmem⟩
      have hcases := Judge.reduce_cases records
      rw [← hcompile, ← hfails, ← hpass] at hcases
      clear_value compileFails fails allPass
      rcases hcases with ⟨hc, hv⟩ | ⟨hc, hf, hv⟩ | ⟨hf, hp, hv⟩ | ⟨hf, hp, hv⟩ <;>
        simp only [hv, reduceCtorEq, true_iff, false_iff] <;> tauto

/-- A service that runs one language, whose programs repeat their input or end with code one. -/
def echoService : Service where
  registry := (Runner.Registry.empty ⟨0⟩).register <| .ofFunction "echo" "1" fun code stdin =>
    if code = "crash" then .error (.runtime (some 1) "boom") else .ok (.ofStdout stdin)
  vocabulary := .empty
  maxCount := 10
  concurrency := 0

/-- The second run is not even started before the first one has ended. -/
theorem submit_agrees_with_runCode_echo :
    [TestCase.mk "a" "a", ⟨"b", "c"⟩] ≠ [] ∧ ∃ submission,
      (echoService.submit ⟨"", ⟨" Echo", ""⟩, [⟨"a", "a"⟩, ⟨"b", "c"⟩]⟩
        [.start, .start, .finish 1]).answer = .ok (.judged submission) ∧
      submission.perTest.length = 2 := by
  have hne : [TestCase.mk "a" "a", ⟨"b", "c"⟩] ≠ [] := by simp
  have hfind : echoService.registry.find? ⟨" Echo", ""⟩ ≠ none := by
    decide +kernel
  obtain ⟨submission, hanswer, houtcomes, -⟩ :=
    (submit_agrees_with_runCode echoService "" ⟨" Echo", ""⟩ _ [.start, .start, .finish 1] hne).2 hfind
  exact ⟨hne, submission, hanswer, houtcomes.length_eq.symm⟩

/-- Generating is a sequential program, whatever the concurrency and the order in which the runs
start and end: the count, the language and the chain are checked in this order, and then the
reference program runs on the inputs of the preview, of which the first one that it fails on
decides. -/
theorem generate_sequential (g : Registry) (v : Vocabulary) (language : Language)
    (code source : String) (count : Int) (seed : UInt64) (limit concurrency : Nat)
    (schedule : Schedule) :
    let answer :=
      (Judge.generate g v language code source count seed limit concurrency schedule).answer
    ((count < 1 ∧ answer = .error (.violation (.countNotPositive count))) ∨
      (1 ≤ count ∧ limit < count ∧
        answer = .error (.violation (.countTooLarge limit count.toNat))) ∨
      (1 ≤ count ∧ count ≤ limit ∧ g.find? language = none ∧
        answer = .error (.unsupported language)) ∨
      ∃ r, 1 ≤ count ∧ count ≤ limit ∧ g.find? language = some r ∧
        ((∃ halt, v.sample source count.toNat seed = .error halt ∧ answer = .error (.ofHalt halt)) ∨
          ∃ inputs, v.sample source count.toNat seed = .ok inputs ∧
            ((∃ cases, answer = .ok cases ∧ cases.map GeneratedCase.input = inputs ∧
                ∀ c ∈ cases, ∃ success, (g.startOf r code c.input).Answers (.ok success) ∧
                  c.output = success.stdout) ∨
              ∃ before input after failure, inputs = before ++ input :: after ∧
                (∀ earlier ∈ before, ∃ success,
                  (g.startOf r code earlier).Answers (.ok success)) ∧
                (g.startOf r code input).Answers (.error failure) ∧
                answer = .error (.failure failure)))) ∧
    ∀ entropy cases,
      (Service.generate ⟨g, v, limit, concurrency⟩ entropy
        ⟨code, count, source, language, some seed⟩ schedule).answer = .ok (.generated cases) →
      ∀ entropy', (Service.sample ⟨g, v, limit, concurrency⟩ entropy'
        ⟨source, count, some seed⟩).answer = .ok (.inputs (cases.map GeneratedCase.input)) := by
  intro answer
  constructor
  · by_cases hpos : 1 ≤ count
    · by_cases hle : count ≤ limit
      · cases hfind : g.find? language with
        | none =>
          have hanswer : answer = _ :=
            Judge.generate_of_unsupported concurrency schedule hpos hle hfind
          exact .inr (.inr (.inl ⟨hpos, hle, rfl, hanswer⟩))
        | some r =>
          refine .inr (.inr (.inr ⟨r, hpos, hle, rfl, ?_⟩))
          cases hsample : v.sample source count.toNat seed with
          | error halt =>
            exact .inl ⟨halt, rfl,
              Judge.generate_of_halt concurrency schedule hpos hle hfind hsample⟩
          | ok inputs =>
            refine .inr ⟨inputs, rfl, ?_⟩
            have hanswer : answer = _ :=
              Judge.generate_of_inputs concurrency schedule hpos hle hfind hsample
            rcases Judge.collect_caseOf g r code inputs with ⟨cases, hcases, hrest⟩ |
              ⟨before, input, after, failure, hsplit, hbefore, hfail, herror⟩
            · exact .inl ⟨cases, by rw [hanswer, hcases]; rfl, hrest⟩
            · exact .inr ⟨before, input, after, failure, hsplit, hbefore, hfail,
                by rw [hanswer, herror]; rfl⟩
      · have hlarge := Int.not_le.mp hle
        have hanswer : answer = _ := Judge.generate_of_too_large concurrency schedule hpos hlarge
        exact .inr (.inl ⟨hpos, hlarge, hanswer⟩)
    · have hsmall := Int.not_le.mp hpos
      exact .inl ⟨hsmall, Judge.generate_of_not_pos concurrency schedule hsmall⟩
  · intro entropy cases hgenerate entropy'
    obtain ⟨cases', hcases', hcases⟩ := Reply.answer_ofReport_eq_ok hgenerate
    have hok : answer = .ok cases := by
      rw [← Response.generated.inj hcases]
      exact hcases'
    obtain ⟨hpos, hle, hsample⟩ := Judge.sample_of_generate_ok concurrency schedule hok
    simp [Service.sample, Reply.ofReport, Judge.checkCount_of_within hpos hle, hsample,
      Except.map, Except.mapError]

end Assay.Service
