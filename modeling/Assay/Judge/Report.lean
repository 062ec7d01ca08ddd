import Assay.Error
import Assay.Runner.Registry

/-!
Running a program of a language, and the report of a job that checks its request first.
-/

namespace Assay.Judge

open Runner (Registry Report Success)

/-- The report of a job that finds an error before anything runs. -/
def refuse {α : Type} (error : Error) : Report (Except Error α) := .idle (.error error)

/-- The runner of a language, or the error that nothing runs it. -/
def resolve (g : Registry) (language : Language) : Except Error Runner.Runner :=
  match g.find? language with
  | none => .error (.unsupported language)
  | some r => .ok r

/-- Run code of a language. -/
def execute (g : Registry) (language : Language) (code stdin : String) :
    Report (Except Error Success) :=
  match g.find? language with
  | none => refuse (.unsupported language)
  | some r => (g.run r code stdin).map (Except.mapError .failure)

end Assay.Judge
