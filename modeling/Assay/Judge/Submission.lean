import Assay.Judge.Difference
import Assay.Judge.Flight
import Assay.Judge.Reduction
import Assay.Judge.Report

/-!
Judging a program on one test and on all tests of a submission.
-/

namespace Assay.Judge

open Runner (Registry Report)

/-- An input and the output that is expected for it. -/
structure TestCase where
  input : String
  expectedOutput : String
  deriving DecidableEq, Repr

/-- The judgement of a submission, one outcome for each test in the order of the tests. -/
structure Submission where
  verdict : Verdict
  perTest : List Outcome
  deriving DecidableEq, Repr

/-- Judge a program on one test with the runner of its language. -/
def judgeWith (g : Registry) (r : Runner.Runner) (code : String) (test : TestCase) :
    Report Record :=
  (g.run r code test.input).map
    (Except.map fun success => compare success.stdout test.expectedOutput)

/-- Judge a program on one test. A program that does not run to its end has no outcome. -/
def judge (g : Registry) (language : Language) (code : String) (test : TestCase) :
    Report (Except Error Outcome) :=
  match g.find? language with
  | none => refuse (.unsupported language)
  | some r => (judgeWith g r code test).map (Except.mapError .failure)

/-- Judging every test of a submission, whatever becomes of the others. -/
def judging (g : Registry) (r : Runner.Runner) (code : String) (concurrency : Nat) :
    Carrier TestCase Record where
  width := max concurrency 1
  carry := judgeWith g r code
  isLast _ := false

/-- Judge a program on every test, at most `concurrency` of them at a time. -/
def aggregate (g : Registry) (language : Language) (code : String) (tests : List TestCase)
    (concurrency : Nat := 4) (schedule : Schedule := []) : Report (Except Error Submission) :=
  if tests.isEmpty then refuse (.violation .noTestCases)
  else
    match g.find? language with
    | none => refuse (.unsupported language)
    | some r => ((judging g r code concurrency).report schedule tests).map fun records =>
        .ok ⟨reduce records, records.map Record.outcome⟩

end Assay.Judge
