/-!
The outcome of one test and the verdict on all of them.
-/

namespace Assay.Judge

/-- The outcome of a program on a single test. -/
inductive Outcome where
  | passed
  | failed (message : Option String)
  deriving DecidableEq, Repr

namespace Outcome

def isPassed : Outcome → Bool
  | .passed => true
  | .failed _ => false

def message? : Outcome → Option String
  | .passed => none
  | .failed message => message

end Outcome

/-- The overall result of a submission. -/
inductive Verdict where
  | accepted
  | wrongAnswer
  | runtimeError
  | compileError
  deriving DecidableEq, Repr

namespace Verdict

def all : List Verdict := [.accepted, .wrongAnswer, .runtimeError, .compileError]

def name : Verdict → String
  | .accepted => "accepted"
  | .wrongAnswer => "wrong_answer"
  | .runtimeError => "runtime_error"
  | .compileError => "compile_error"

/-- The verdict of a name. -/
def ofName? (s : String) : Option Verdict := all.find? fun v => v.name == s

end Verdict

end Assay.Judge
