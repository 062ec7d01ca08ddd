import Assay.Judge.Outcome
import Assay.Runner.Failure

/-!
From the records of the single tests to one verdict.
-/

namespace Assay.Judge

open Runner (Failure)

/-- The record of one test: its outcome, or why the program did not run to its end. -/
abbrev Record := Except Failure Outcome

/-- The program did not compile. -/
def Record.isCompileFailure : Record → Bool
  | .error failure => failure.isCompile
  | .ok _ => false

def Record.isFailure : Record → Bool
  | .error _ => true
  | .ok _ => false

def Record.isPassed : Record → Bool
  | .error _ => false
  | .ok outcome => outcome.isPassed

/-- A failure is told to the author of the program as a failed test. -/
def Record.outcome : Record → Outcome
  | .ok outcome => outcome
  | .error failure => .failed (some failure.message)

/-- The verdict on all records. A failure to compile outweighs every other failure, and a failure
outweighs a wrong answer. -/
def reduce (records : List Record) : Verdict :=
  if records.any Record.isCompileFailure then .compileError
  else if records.any Record.isFailure then .runtimeError
  else if records.all Record.isPassed then .accepted
  else .wrongAnswer

end Assay.Judge
