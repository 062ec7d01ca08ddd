import Assay.Duration

/-!
Why a run of a program gives no output to judge.
-/

namespace Assay.Runner

inductive Failure where
  | compile (message : String)
  /-- The program ended with a code other than zero, or without one because of a signal. -/
  | runtime (code : Option Int) (stderr : String)
  | timeout (limit : Duration)
  | outputLimit (bytes : Nat)
  /-- The program could not be started. -/
  | sandbox (message : String)
  deriving DecidableEq, Repr

namespace Failure

def isCompile : Failure → Bool
  | .compile _ => true
  | _ => false

private def codeText : Option Int → String
  | none => "None"
  | some code => s!"Some({code})"

def message : Failure → String
  | .compile message => "compile failed: " ++ message
  | .runtime code stderr => "runtime error (exit code: " ++ codeText code ++ "): " ++ stderr
  | .timeout limit => "time limit exceeded (" ++ limit.toText ++ ")"
  | .outputLimit bytes => s!"output limit exceeded ({bytes} bytes)"
  | .sandbox message => "sandbox error: " ++ message

end Failure

end Assay.Runner
