import Assay.Judge.Submission
import Assay.Proofs.Runner.Execution
import Assay.Proofs.Runner.Registry
import Assay.Proofs.Text.Utf8

/-!
What judging says about the bytes that a program wrote. They are compared as a text, so a program
passes exactly if its output reads as the expected text; these are the same bytes unless ill-formed
ones were read as replacement characters.
-/

namespace Assay.Judge

open Runner (CommandRunner Finished Host Registry)
open Text.Utf8 (Reads encode replacement)

theorem compare_eq_passed_iff {output expected : String} :
    compare output expected = .passed ↔ output = expected := by
  unfold compare
  by_cases h : output = expected
  · simp [h]
  · simp [h]

theorem judge_answer {g : Registry} {language : Language} {r : Runner.Runner} {code : String}
    (test : TestCase) {success : Runner.Success} (hfind : g.find? language = some r)
    (hrun : (g.run r code test.input).answer = .ok success) :
    (judge g language code test).answer = .ok (compare success.stdout test.expectedOutput) := by
  simp only [judge, hfind, judgeWith, Runner.Report.answer_map, hrun]
  rfl

/-- A program that ends well, in time and within the limit of its output passes exactly if its
output reads as the expected text. Without replacement characters in that text, or if the output is
well-formed, this is equality of the bytes. -/
theorem passes_iff_reads (g : Registry) (language : Language) (r : CommandRunner) (host : Host)
    (code : String) (test : TestCase) (takes : Duration) (finished : Finished)
    (hfind : g.find? language = some (r.toRunner host))
    (hend : r.toEnd host (g.limitOf (r.toRunner host)) code test.input =
      .finished takes (.ok finished))
    (htakes : takes ≤ g.limitOf (r.toRunner host))
    (hexit : finished.ending = .exited 0)
    (hstdout : finished.stdout.length ≤ r.judge.stdoutLimit) :
    ∃ outcome, (judge g language code test).answer = .ok outcome ∧
      (outcome = .passed ↔ Reads finished.stdout test.expectedOutput.toList) ∧
      (replacement ∉ test.expectedOutput.toList ∨ (∃ text, finished.stdout = encode text) →
        (outcome = .passed ↔ finished.stdout = encode test.expectedOutput)) := by
  have hrun := Registry.run_of_toEnd hend htakes
  rw [CommandRunner.outcome_of_success hexit hstdout] at hrun
  have hreads : compare (Text.Utf8.decode finished.stdout) test.expectedOutput = .passed ↔
      Reads finished.stdout test.expectedOutput.toList :=
    compare_eq_passed_iff.trans Text.Utf8.decode_eq_iff
  refine ⟨_, judge_answer _ hfind hrun, hreads, ?_⟩
  intro hclean
  exact hreads.trans (Text.Utf8.reads_iff_of_clean hclean)

/-- A host on which every program writes the same bytes and ends well at once. -/
def writing (stdout : List UInt8) : Host where
  files := .empty
  directory := []
  freshName := "run"
  launch _ _ _ := .ok (some ⟨.empty, stdout, [], .exited 0, ⟨0⟩⟩)

/-- A language without compilation. -/
def interpreted : CommandRunner where
  name := "shell"
  language := ⟨"posix", [], ["sh", "main.sh"], "main.sh", none⟩
  judge := ⟨[], .ofMilliseconds 1000, 1024, 1024, 1, 1, ""⟩

/-- The registry of that language on such a host. -/
def writers (stdout : List UInt8) : Registry :=
  (Registry.empty (.ofMilliseconds 1000)).register (interpreted.toRunner (writing stdout))

theorem find?_writers (stdout : List UInt8) (version : String) :
    (writers stdout).find? ⟨"shell", version⟩ = some (interpreted.toRunner (writing stdout)) := by
  rw [Registry.find?, writers, Registry.lookup_register]
  exact if_pos rfl

/-- An output that ends in the middle of a character fails where the whole character is expected. -/
theorem passes_iff_reads_truncated :
    ∃ outcome, (judge (writers [0x61, 0xE2, 0x82]) ⟨"shell", ""⟩ "" ⟨"", "a€"⟩).answer =
        .ok outcome ∧ outcome ≠ .passed := by
  have hfind := find?_writers [0x61, 0xE2, 0x82] ""
  obtain ⟨outcome, hanswer, -, hclean⟩ := passes_iff_reads (writers [0x61, 0xE2, 0x82])
    ⟨"shell", ""⟩ interpreted (writing [0x61, 0xE2, 0x82]) "" ⟨"", "a€"⟩
    CommandRunner.preparationTime ⟨.empty, [0x61, 0xE2, 0x82], [], .exited 0, ⟨0⟩⟩ hfind rfl
    (by decide) rfl (by decide)
  have hbytes : [0x61, 0xE2, 0x82] ≠ encode "a€" := by decide
  exact ⟨outcome, hanswer, fun hpassed => hbytes ((hclean (.inl (by decide))).1 hpassed)⟩

/-- A stray byte passes where the replacement character is expected. -/
theorem passes_other_bytes :
    (writers [0xFF]).find? ⟨"shell", ""⟩ = some (interpreted.toRunner (writing [0xFF])) ∧
    interpreted.toEnd (writing [0xFF]) (.ofMilliseconds 1000) "" "" =
      .finished CommandRunner.preparationTime (.ok ⟨.empty, [0xFF], [], .exited 0, ⟨0⟩⟩) ∧
    (judge (writers [0xFF]) ⟨"shell", ""⟩ "" ⟨"", "\ufffd"⟩).answer = .ok .passed ∧
    [0xFF] ≠ encode "\ufffd" := by
  have hfind := find?_writers [0xFF] ""
  have hend : interpreted.toEnd (writing [0xFF]) (.ofMilliseconds 1000) "" "" =
      .finished CommandRunner.preparationTime (.ok ⟨.empty, [0xFF], [], .exited 0, ⟨0⟩⟩) := rfl
  have hrun : ((writers [0xFF]).run (interpreted.toRunner (writing [0xFF])) "" "").answer =
      CommandRunner.outcome interpreted.judge ⟨.empty, [0xFF], [], .exited 0, ⟨0⟩⟩ :=
    Registry.run_of_toEnd hend (by decide)
  rw [CommandRunner.outcome_of_success rfl (by decide)] at hrun
  have hanswer : (judge (writers [0xFF]) ⟨"shell", ""⟩ "" ⟨"", "\ufffd"⟩).answer =
      .ok (compare (Text.Utf8.decode [0xFF]) "\ufffd") :=
    judge_answer ⟨"", "\ufffd"⟩ hfind hrun
  have hsame : compare (Text.Utf8.decode [0xFF]) "\ufffd" = .passed := by decide
  rw [hsame] at hanswer
  exact ⟨hfind, hend, hanswer, by decide⟩

end Assay.Judge
