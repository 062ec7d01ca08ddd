import Assay.Proofs.Judge.Acceptance
import Assay.Proofs.Judge.Starts
import Assay.Proofs.Service.Reply
import Mathlib.Data.List.Forall2

/-!
Nothing is started before a request has passed every check, and then exactly the runs that it asks
for are, and their answers make up the response.
-/

namespace Assay.Service

open Judge (ChecksFirst GeneratedCase Schedule TestCase)
open Runner (Report Start)

namespace Reply

theorem checksFirst_ofReport {α : Type} {respond : α → Response}
    {report : Report (Except Error α)} (h : ChecksFirst Error.kind report) :
    ChecksFirst RequestError.kind (ofReport respond report) := by
  intro error herror hkind
  obtain ⟨e, he, rfl⟩ := answer_ofReport_eq_error herror
  exact h e he hkind

theorem checksFirst_ofBody {α : Type} {reader : Json.Reader α} {body : String}
    {answer : α → Reply} (h : ∀ request, ChecksFirst RequestError.kind (answer request)) :
    ChecksFirst RequestError.kind (ofBody reader body answer) := by
  rcases ofBody_cases reader body answer with ⟨problem, -, hreply⟩ | ⟨request, -, hreply⟩
  · rw [hreply]
    exact Judge.checksFirst_of_started rfl
  · rw [hreply]
    exact h request

end Reply

/-- The language and the code that a body asks to run. A preview asks for nothing. -/
def Command.program? (command : Command) (body : String) : Option (Language × String) :=
  match command with
  | .runCode => (RunRequest.reader.run body).toOption.map fun r => (r.language, r.code)
  | .generateTestCase =>
    (GenerateRequest.reader.run body).toOption.map fun r => (r.language, r.code)
  | .submit => (SubmitRequest.reader.run body).toOption.map fun r => (r.language, r.code)
  | .sample => none

variable (s : Service) (entropy : UInt64) (body : String) (schedule : Schedule)

theorem started_sample (request : SampleRequest) : (s.sample entropy request).started = [] := by
  unfold sample
  split
  · rfl
  · rfl

theorem started_handle_sample :
    (s.handle entropy .sample body schedule).started = [] := by
  rcases Reply.ofBody_cases SampleRequest.reader body (s.sample entropy) with
    ⟨problem, -, hreply⟩ | ⟨request, -, hreply⟩
  · rw [handle, hreply]
    rfl
  · rw [handle, hreply]
    exact started_sample s entropy request

theorem handle_checksFirst (command : Command) :
    ChecksFirst RequestError.kind (s.handle entropy command body schedule) := by
  cases command with
  | runCode =>
    apply Reply.checksFirst_ofBody
    intro request
    exact Reply.checksFirst_ofReport (Judge.execute_checks _ _ _ _).1
  | generateTestCase =>
    apply Reply.checksFirst_ofBody
    intro request
    exact Reply.checksFirst_ofReport (Judge.generate_checks _ _ _ _ _ _ _ _ _ _).1
  | submit =>
    apply Reply.checksFirst_ofBody
    intro request
    exact Reply.checksFirst_ofReport (Judge.aggregate_checks _ _ _ _ _ _).1
  | sample => exact Judge.checksFirst_of_started (started_handle_sample s entropy body schedule)

/-- What a body starts is started by the request in it. -/
theorem startsOnly_ofBody {α : Type} (reader : Json.Reader α) (answer : α → Reply)
    (language : α → Language) (code : α → String)
    (h : ∀ request, ∀ start ∈ (answer request).started, ∃ r,
      s.registry.find? (language request) = some r ∧
        start = s.registry.startOf r (code request) start.stdin) :
    ∀ start ∈ (Reply.ofBody reader body answer).started, ∃ l c r,
      (reader.run body).toOption.map (fun request => (language request, code request)) =
          some (l, c) ∧
        s.registry.find? l = some r ∧ start = s.registry.startOf r c start.stdin := by
  intro start hstart
  rcases Reply.ofBody_cases reader body answer with ⟨problem, -, hreply⟩ | ⟨request, hread, hreply⟩
  · rw [hreply] at hstart
    cases hstart
  · rw [hreply] at hstart
    obtain ⟨r, hfind, hr⟩ := h request start hstart
    exact ⟨language request, code request, r, by rw [hread]; rfl, hfind, hr⟩

/-- Whatever becomes of a request, only its own program is run, by the runner of its language. -/
theorem handle_startsOnly (command : Command) :
    ∀ start ∈ (s.handle entropy command body schedule).started, ∃ language code r,
      command.program? body = some (language, code) ∧ s.registry.find? language = some r ∧
        start = s.registry.startOf r code start.stdin := by
  cases command with
  | runCode =>
    apply startsOnly_ofBody s body RunRequest.reader s.runCode
    intro request
    exact (Judge.execute_checks _ _ _ _).2
  | generateTestCase =>
    apply startsOnly_ofBody s body GenerateRequest.reader (s.generate entropy · schedule)
    intro request
    exact (Judge.generate_checks _ _ _ _ _ _ _ _ _ _).2
  | submit =>
    apply startsOnly_ofBody s body SubmitRequest.reader (s.submit · schedule)
    intro request
    exact (Judge.aggregate_checks _ _ _ _ _ _).2
  | sample =>
    rw [started_handle_sample]
    intro start hstart
    cases hstart

/-- A request for tests that succeeds has run its program once on each drawn input, and tells what
the program wrote. -/
theorem started_handle_generate {response : Response}
    (h : (s.handle entropy .generateTestCase body schedule).answer = .ok response) :
    ∃ request r inputs cases, GenerateRequest.reader.run body = .ok request ∧
      s.registry.find? request.language = some r ∧
      s.vocabulary.sample request.source request.count.toNat (request.seed.getD entropy) =
        .ok inputs ∧
      (s.handle entropy .generateTestCase body schedule).started =
        inputs.map (s.registry.startOf r request.code) ∧
      response = .generated cases ∧
      List.Forall₂ (fun input c => c.input = input ∧ ∃ success,
        (s.registry.startOf r request.code input).Answers (.ok success) ∧
          c.output = success.stdout) inputs cases := by
  rcases Reply.ofBody_cases GenerateRequest.reader body (s.generate entropy · schedule) with
    ⟨problem, -, hreply⟩ | ⟨request, hread, hreply⟩
  · rw [handle, hreply] at h
    cases h
  · rw [handle, hreply] at h ⊢
    obtain ⟨cases, hcases, hresponse⟩ := Reply.answer_ofReport_eq_ok h
    obtain ⟨-, -, r, hfind, hsample, houtputs⟩ := Judge.exists_of_generate_ok _ _ hcases
    refine ⟨request, r, _, cases, hread, hfind, hsample,
      Judge.started_of_generate_ok _ _ hcases hfind, hresponse.symm, ?_⟩
    rw [List.forall₂_map_left_iff, List.forall₂_same]
    exact fun c hc => ⟨rfl, houtputs c hc⟩

/-- A submission that is judged has been run once on the input of each of its tests, and tells what
came of that. -/
theorem started_handle_submit {response : Response}
    (h : (s.handle entropy .submit body schedule).answer = .ok response) :
    ∃ request r submission, SubmitRequest.reader.run body = .ok request ∧
      s.registry.find? request.language = some r ∧
      (s.handle entropy .submit body schedule).started =
        request.tests.map (fun test => s.registry.startOf r request.code test.input) ∧
      response = .judged submission ∧
      List.Forall₂ (fun test outcome => ∃ result,
        (s.registry.startOf r request.code test.input).Answers result ∧
          outcome = Judge.Record.outcome
            (result.map fun success => Judge.compare success.stdout test.expectedOutput))
        request.tests submission.perTest := by
  rcases Reply.ofBody_cases SubmitRequest.reader body (s.submit · schedule) with
    ⟨problem, -, hreply⟩ | ⟨request, hread, hreply⟩
  · rw [handle, hreply] at h
    cases h
  · rw [handle, hreply] at h ⊢
    obtain ⟨submission, hsubmission, hresponse⟩ := Reply.answer_ofReport_eq_ok h
    obtain ⟨hne, r, hfind, hjudged⟩ := Judge.exists_of_aggregate_ok _ _ hsubmission
    refine ⟨request, r, submission, hread, hfind,
      Judge.started_aggregate_of_supported _ _ hne hfind, hresponse.symm, ?_⟩
    rw [hjudged, List.map_map, List.forall₂_map_right_iff, List.forall₂_same]
    exact fun test _ => ⟨_, Runner.Registry.answers_answer_run, rfl⟩

/-- Nothing runs before everything is checked. An error other than the failure of a run leaves
nothing started, a preview starts nothing at all, and a request that succeeds has started each of
its runs exactly once, all of them by the one runner of its language; the answers of these runs are
what the response tells. -/
theorem runs_only_after_checks (s : Service) (entropy : UInt64) (command : Command)
    (body : String) (schedule : Schedule) :
    let reply := s.handle entropy command body schedule
    (∀ error, reply.answer = .error error → error.kind ≠ "execution_error" →
      reply.started = []) ∧
    (command = .sample → reply.started = []) ∧
    (command = .generateTestCase → ∀ response, reply.answer = .ok response →
      ∃ request r inputs cases, GenerateRequest.reader.run body = .ok request ∧
        s.registry.find? request.language = some r ∧
        s.vocabulary.sample request.source request.count.toNat (request.seed.getD entropy) =
          .ok inputs ∧
        reply.started = inputs.map (s.registry.startOf r request.code) ∧
        response = .generated cases ∧
        List.Forall₂ (fun input c => c.input = input ∧ ∃ success,
          (s.registry.startOf r request.code input).Answers (.ok success) ∧
            c.output = success.stdout) inputs cases) ∧
    (command = .submit → ∀ response, reply.answer = .ok response →
      ∃ request r submission, SubmitRequest.reader.run body = .ok request ∧
        s.registry.find? request.language = some r ∧
        reply.started =
          request.tests.map (fun test => s.registry.startOf r request.code test.input) ∧
        response = .judged submission ∧
        List.Forall₂ (fun test outcome => ∃ result,
          (s.registry.startOf r request.code test.input).Answers result ∧
            outcome = Judge.Record.outcome
              (result.map fun success => Judge.compare success.stdout test.expectedOutput))
          request.tests submission.perTest) ∧
    ∀ start ∈ reply.started, ∃ language code r,
      command.program? body = some (language, code) ∧ s.registry.find? language = some r ∧
        start = s.registry.startOf r code start.stdin := by
  intro reply
  refine ⟨handle_checksFirst s entropy body schedule command, ?_, ?_, ?_,
    handle_startsOnly s entropy body schedule command⟩
  · rintro rfl
    exact started_handle_sample s entropy body schedule
  · rintro rfl response hresponse
    exact started_handle_generate s entropy body schedule hresponse
  · rintro rfl response hresponse
    exact started_handle_submit s entropy body schedule hresponse

/-- A service whose programs write themselves before their input, and whose unique arrays give up
after two draws for an item. -/
def quotingService : Service := ⟨Judge.quoting, .standard ⟨2, 10⟩, 10, 2⟩

/-- Two inputs can be drawn, and the third one wants three distinct values of two. -/
def scarceBody : String :=
  "\x7b\"code\":\"x\",\"count\":3,\"inputStatus\":\"int(1..2).array(1..3,unique=true)\"," ++
    "\"language\":\x7b\"name\":\"quote\"\x7d,\"seed\":9\x7d"

/-- The second of two tests expects something else. -/
def submitBody : String :=
  "\x7b\"code\":\"x\",\"language\":\x7b\"name\":\" QUOTE\"\x7d,\"testCases\":[" ++
    "\x7b\"input\":\"a\",\"expectedOutput\":\"xa\"\x7d," ++
    "\x7b\"input\":\"b\",\"expectedOutput\":\"b\"\x7d]\x7d"

/-- A request that fails at its third draw, and a submission whose runs overlap. -/
theorem runs_only_after_checks_quoting :
    (∃ error, (quotingService.handle 0 .generateTestCase scarceBody).answer = .error error ∧
      error.kind ≠ "execution_error" ∧
      (quotingService.handle 0 .generateTestCase scarceBody).started = []) ∧
    ∃ response,
      (quotingService.handle 0 .submit submitBody [.start, .start, .finish 1]).answer =
        .ok response ∧
      (quotingService.handle 0 .submit submitBody [.start, .start, .finish 1]).started.map
          (fun start => (start.runner.name, start.code, start.stdin)) =
        [("Quote", "x", "a"), ("Quote", "x", "b")] := by
  constructor
  · have hkind : (match (quotingService.handle 0 .generateTestCase scarceBody).answer with
        | .error error => error.kind == "exhausted"
        | .ok _ => false) = true := by decide +kernel
    cases hanswer : (quotingService.handle 0 .generateTestCase scarceBody).answer with
    | ok response =>
      rw [hanswer] at hkind
      cases hkind
    | error error =>
      rw [hanswer] at hkind
      have hne : error.kind ≠ "execution_error" := by
        rw [eq_of_beq hkind]
        decide
      exact ⟨error, rfl, hne,
        (runs_only_after_checks quotingService 0 .generateTestCase scarceBody []).1 error
          hanswer hne⟩
  · have hok : (quotingService.handle 0 .submit submitBody
        [.start, .start, .finish 1]).answer.toBool = true := by decide +kernel
    have hread : (SubmitRequest.reader.run submitBody).toOption =
        some ⟨"x", ⟨" QUOTE", ""⟩, [⟨"a", "xa"⟩, ⟨"b", "b"⟩]⟩ := by decide +kernel
    obtain ⟨response, hanswer⟩ := exists_of_toBool hok
    obtain ⟨request, r, submission, hrequest, hfind, hstarted, -⟩ :=
      (runs_only_after_checks quotingService 0 .submit submitBody
        [.start, .start, .finish 1]).2.2.2.1 rfl response hanswer
    rw [hrequest] at hread
    obtain rfl := Option.some.inj hread
    have hname : r.name = "Quote" := by
      have hfound : (quotingService.registry.find? ⟨" QUOTE", ""⟩).map Runner.Runner.name =
          some "Quote" := by decide +kernel
      rw [hfind] at hfound
      exact Option.some.inj hfound
    refine ⟨response, hanswer, ?_⟩
    rw [hstarted]
    simp only [List.map_cons, List.map_nil, Runner.Registry.startOf, hname]

end Assay.Service
