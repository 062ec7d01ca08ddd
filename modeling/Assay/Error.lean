import Assay.Draw.Sampler
import Assay.Language
import Assay.Runner.Failure

/-!
Every error that judging and generating can end with.
-/

namespace Assay

/-- A request that asks for what is never given. -/
inductive Violation where
  | countNotPositive (count : Int)
  | countTooLarge (limit count : Nat)
  | noTestCases
  deriving DecidableEq, Repr

def Violation.message : Violation → String
  | .countNotPositive count => s!"count must be a positive integer, got {count}"
  | .countTooLarge limit count => s!"count must not exceed {limit}, got {count}"
  | .noTestCases => "a submission needs at least one test case"

inductive Error where
  | fault (fault : Chain.Fault)
  | unsupported (language : Language)
  | failure (failure : Runner.Failure)
  | violation (violation : Violation)
  /-- A draw ended the program; nobody is left to report it. -/
  | abort
  deriving DecidableEq

namespace Error

def ofHalt : Draw.Halt → Error
  | .fault f => .fault f
  | .abort => .abort

/-- The short name of the kind of error. -/
def kind : Error → String
  | .fault f => f.kind
  | .unsupported _ => "unsupported_language"
  | .failure _ => "execution_error"
  | .violation _ => "validation_error"
  | .abort => "abort"

def message : Error → String
  | .fault f => f.message
  | .unsupported l => l.unsupportedMessage
  | .failure f => f.message
  | .violation v => "validation error: " ++ v.message
  | .abort => "the program was aborted"

end Error

end Assay
