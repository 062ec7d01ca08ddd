import Assay.Language
import Assay.Runner.Failure

/-!
Runners: what runs the programs of one language.
-/

namespace Assay.Runner

/-- What a program left behind that ended well. -/
structure Success where
  stdout : String
  stderr : String
  exitCode : Option Int
  deriving DecidableEq, Repr

def Success.ofStdout (stdout : String) : Success := ⟨stdout, "", some 0⟩

/-- Something that is run and watched for some time. -/
inductive Run (α : Type) where
  /-- Still going when the watch ended. -/
  | unfinished
  | finished (takes : Duration) (result : Except Failure α)

namespace Run

variable {α β : Type}

/-- A run that ends without waiting for anything. -/
def immediate (result : Except Failure α) : Run α := .finished ⟨0⟩ result

/-- A run that goes on with `next` if it succeeds. What is left of the watch is handed on, and
the times add up. -/
def andThen (r : Run α) (watch : Duration) (next : α → Duration → Run β) : Run β :=
  match r with
  | .unfinished => .unfinished
  | .finished takes (.error failure) => .finished takes (.error failure)
  | .finished takes (.ok value) =>
    match next value (watch - takes) with
    | .unfinished => .unfinished
    | .finished more result => .finished (takes + more) result

/-- The result of a run that is dropped if it has not ended at the limit. -/
def within (limit : Duration) : Run α → Except Failure α
  | .unfinished => .error (.timeout limit)
  | .finished takes result => if takes ≤ limit then result else .error (.timeout limit)

end Run

/-- The capability to run programs of one language. `run watch code stdin` starts a fresh run, of
which nothing after `watch` matters. -/
structure Runner where
  name : String
  version : String
  /-- The runner's own time limit, if it has one. -/
  timeLimit : Option Duration
  run : Duration → String → String → Run Success

def Runner.key (r : Runner) : String := languageKey r.name

/-- A runner that computes its answer in place. -/
def Runner.ofFunction (name version : String)
    (f : String → String → Except Failure Success) : Runner where
  name := name
  version := version
  timeLimit := none
  run _ code stdin := .immediate (f code stdin)

end Assay.Runner
