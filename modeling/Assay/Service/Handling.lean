import Assay.Files.SystemError
import Assay.Service.Response
import Assay.Settings.Sources

/-!
Answering the requests of the four commands. A request is read, checked, and only then allowed to
run anything.
-/

namespace Assay

open Draw (Vocabulary)
open Judge (Schedule)
open Runner (Registry Report)

namespace Service

/-- What a request can ask for. -/
inductive Command where
  | runCode
  | generateTestCase
  | submit
  | sample
  deriving DecidableEq, Repr

namespace Command

def all : List Command := [.runCode, .generateTestCase, .submit, .sample]

/-- The word for a command on the command line. -/
def word : Command → String
  | .runCode => "run-code"
  | .generateTestCase => "generate-test-case"
  | .submit => "submit"
  | .sample => "sample"

/-- The command of a word. -/
def ofWord? (s : String) : Option Command := all.find? fun c => c.word == s

end Command

/-- Why a request gets no response. -/
inductive RequestError where
  | judge (error : Error)
  | unreadable (problem : Json.Problem)
  | io (error : Files.SystemError)
  | settings (error : Settings.LoadError)
  deriving DecidableEq

namespace RequestError

/-- The short name of the kind of error. -/
def kind : RequestError → String
  | .judge e => e.kind
  | .unreadable _ => "validation_error"
  | .io _ => "io_error"
  | .settings _ => "config_error"

def message : RequestError → String
  | .judge e => e.message
  | .unreadable problem => "invalid request: " ++ problem.message
  | .io e => "failed to read request: " ++ e.message
  | .settings e => "invalid config: " ++ e.message

def response (e : RequestError) : ErrorResponse := ⟨e.kind, e.message⟩

end RequestError

/-- The answer to a request, and the runs that were started for it. -/
abbrev Reply := Report (Except RequestError Response)

namespace Reply

/-- The reply of a finished job. -/
def ofReport {α : Type} (respond : α → Response) (report : Report (Except Error α)) : Reply :=
  report.map fun answer => (answer.map respond).mapError .judge

/-- Read a body, and answer the request in it. -/
def ofBody {α : Type} (reader : Json.Reader α) (body : String) (answer : α → Reply) : Reply :=
  match reader.run body with
  | .error problem => .idle (.error (.unreadable problem))
  | .ok request => answer request

end Reply

end Service

/-- What answers requests: the runners, the functions of chains, the greatest count of tests that
one request may generate, and how many runs of one request are in flight at a time. -/
structure Service where
  registry : Registry
  vocabulary : Vocabulary
  maxCount : Nat
  concurrency : Nat

namespace Service

/-- The service of some settings over given runners. -/
def ofSettings (registry : Registry) (settings : Settings) : Service :=
  ⟨registry, .standard settings.draw, settings.judge.maxGenerateCount, settings.judge.concurrency⟩

def runCode (s : Service) (r : RunRequest) : Reply :=
  Reply.ofReport (fun success => .output success.stdout)
    (Judge.execute s.registry r.language r.code r.input)

/-- Generate tests. A request without a seed gets `entropy` as its seed. -/
def generate (s : Service) (entropy : UInt64) (r : GenerateRequest) (schedule : Schedule := []) :
    Reply :=
  Reply.ofReport .generated
    (Judge.generate s.registry s.vocabulary r.language r.code r.source r.count
      (r.seed.getD entropy) s.maxCount s.concurrency schedule)

def submit (s : Service) (r : SubmitRequest) (schedule : Schedule := []) : Reply :=
  Reply.ofReport .judged
    (Judge.aggregate s.registry r.language r.code r.tests s.concurrency schedule)

/-- The inputs that `generate` would run the reference program on; nothing is run for them. -/
def sample (s : Service) (entropy : UInt64) (r : SampleRequest) : Reply :=
  Reply.ofReport .inputs <|
    match Judge.checkCount r.count s.maxCount with
    | .error violation => Judge.refuse (.violation violation)
    | .ok count =>
      .idle ((s.vocabulary.sample r.source count (r.seed.getD entropy)).mapError .ofHalt)

/-- Answer the body of a request. The schedule is when its runs happen to start and to end. -/
def handle (s : Service) (entropy : UInt64) (command : Command) (body : String)
    (schedule : Schedule := []) : Reply :=
  match command with
  | .runCode => Reply.ofBody RunRequest.reader body s.runCode
  | .generateTestCase => Reply.ofBody GenerateRequest.reader body (s.generate entropy · schedule)
  | .submit => Reply.ofBody SubmitRequest.reader body (s.submit · schedule)
  | .sample => Reply.ofBody SampleRequest.reader body (s.sample entropy)

end Service

end Assay
