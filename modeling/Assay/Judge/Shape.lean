import Assay.Json.Reader
import Assay.Judge.Generation
import Assay.Judge.Submission

/-!
The JSON shapes of tests, outcomes, verdicts and submissions.
-/

namespace Assay.Judge

open Json (Found Problem Reader Step closeWith nextItem nextKey readColon readItems readString
  skipBlanks unexpected)

namespace TestCase

def reader : Reader TestCase :=
  .record "struct TestCase"
    [.mandatory "input" (.text "a string") fun s t => { t with input := s },
      .mandatory "expectedOutput" (.text "a string") fun s t => { t with expectedOutput := s }]
    ⟨"", ""⟩

def toJson (t : TestCase) : Json :=
  .object [("input", .text t.input), ("expectedOutput", .text t.expectedOutput)]

end TestCase

namespace GeneratedCase

def reader : Reader GeneratedCase :=
  .record "struct GeneratedCase"
    [.mandatory "input" (.text "a string") fun s g => { g with input := s },
      .mandatory "output" (.text "a string") fun s g => { g with output := s }]
    ⟨"", ""⟩

def toJson (g : GeneratedCase) : Json :=
  .object [("input", .text g.input), ("output", .text g.output)]

end GeneratedCase

namespace Verdict

/-- A verdict is its name, or an object with that name and `null`. -/
def reader : Reader Verdict := fun budget cs =>
  let name : Reader Verdict := .nameOf "variant identifier" ofName? (all.map Verdict.name)
  match skipBlanks cs with
  | [] => .error .ended
  | '"' :: rest => name budget ('"' :: rest)
  | '\x7b' :: rest =>
    if budget ≤ 1 then .error .malformed
    else
      match name (budget - 1) rest with
      | .error e => .error e
      | .ok (verdict, rest) =>
        match readColon rest with
        | .error e => .error e
        | .ok (_, rest) =>
          match Reader.unit (budget - 1) rest with
          | .error e => .error e
          | .ok (_, rest) => closeWith '\x7d' verdict rest
  | _ => .error .malformed

def toJson (v : Verdict) : Json := .text v.name

end Verdict

namespace Outcome

/-- The status of an outcome, before its other members are looked at. -/
inductive Status where
  | passed
  | failed
  deriving DecidableEq

def Status.ofName? (s : String) : Option Status :=
  if s = "passed" then some .passed else if s = "failed" then some .failed else none

def statusReader : Reader Status := .nameOf "variant identifier" Status.ofName? ["passed", "failed"]

/-- What an outcome holds besides its status. -/
inductive Body where
  | sequence (items : List Json)
  | members (members : List (String × Json))

/-- How a value is called in a message about its type. -/
def found : Json → Found
  | .null => .null
  | .bool b => .bool b
  | .int n => .integer n
  | .float x => .float x
  | .text s => .text s
  | .array _ => .sequence
  | .object _ => .map

/-- The message of a failed test: a string or `null`. -/
def messageOf : Json → Except Problem (Option String)
  | .null => .ok none
  | .text s => .ok (some s)
  | v => .error (.unfit (.wrongType (found v) "a string"))

/-- The message among the members of an object, at most once. -/
def messageAmong (seen : Option (Option String)) :
    List (String × Json) → Except Problem (Option String)
  | [] => .ok (seen.getD none)
  | (key, value) :: rest =>
    if key = "message" then
      if seen.isSome then .error (.unfit (.duplicateField key))
      else
        match messageOf value with
        | .error e => .error e
        | .ok message => messageAmong (some message) rest
    else messageAmong seen rest

/-- The outcome of a status and a body. A passed test ignores the members of an object. -/
def ofParts : Status → Body → Except Problem Outcome
  | .passed, .members _ => .ok .passed
  | .passed, .sequence [] => .ok .passed
  | .passed, .sequence items =>
    .error (.unfit (.wrongLength items.length "0 elements in sequence"))
  | .failed, .members members => (messageAmong none members).map .failed
  | .failed, .sequence [] => .ok (.failed none)
  | .failed, .sequence (item :: rest) =>
    match messageOf item with
    | .error e => .error e
    | .ok message =>
      if rest.isEmpty then .ok (.failed message)
      else .error (.unfit (.wrongLength (rest.length + 1) "1 element in sequence"))

/-- The members of an outcome: the status, once, and the others as they are. -/
def readBody (budget : Nat) (first : Bool) (status : Option Status)
    (members : List (String × Json)) : Nat → List Char → Step (Status × Body)
  | 0, _ => .error .ended
  | fuel + 1, cs =>
    match nextKey first cs with
    | .error e => .error e
    | .ok none =>
      match status with
      | none => .error (.unfit (.missingField "status"))
      | some status => .ok ((status, .members members.reverse), cs)
    | .ok (some cs) =>
      match readString cs with
      | .error e => .error e
      | .ok (key, rest) =>
        if key = "status" ∧ status.isSome then .error (.unfit (.duplicateField key))
        else
          match readColon rest with
          | .error e => .error e
          | .ok (_, rest) =>
            if key = "status" then
              match statusReader budget rest with
              | .error e => .error e
              | .ok (status, rest) => readBody budget false (some status) members fuel rest
            else
              match Reader.value budget rest with
              | .error e => .error e
              | .ok (value, rest) => readBody budget false status ((key, value) :: members) fuel rest

/-- An outcome: the status decides how the rest, which may come before it, is understood. -/
def reader : Reader Outcome := fun budget cs =>
  let parts : Step (Status × Body) :=
    match skipBlanks cs with
    | '[' :: rest =>
      if budget ≤ 1 then .error .malformed
      else
        match nextItem true rest with
        | .error e => .error e
        | .ok none => .error (.unfit (.missingField "status"))
        | .ok (some rest) =>
          match statusReader (budget - 1) rest with
          | .error e => .error e
          | .ok (status, rest) =>
            match readItems Reader.value (budget - 1) false [] (rest.length + 1) rest with
            | .error e => .error e
            | .ok (items, rest) => closeWith ']' (status, Body.sequence items) rest
    | '\x7b' :: rest =>
      if budget ≤ 1 then .error .malformed
      else
        match readBody (budget - 1) true none [] (rest.length + 1) rest with
        | .error e => .error e
        | .ok (parts, rest) => closeWith '\x7d' parts rest
    | cs => .error (unexpected "internally tagged enum TestOutcome" cs)
  match parts with
  | .error e => .error e
  | .ok ((status, body), rest) =>
    match ofParts status body with
    | .error e => .error e
    | .ok outcome => .ok (outcome, rest)

def toJson : Outcome → Json
  | .passed => .object [("status", .text "passed")]
  | .failed none => .object [("status", .text "failed")]
  | .failed (some message) => .object [("status", .text "failed"), ("message", .text message)]

end Outcome

namespace Submission

def reader : Reader Submission :=
  .record "struct Submission"
    [.mandatory "verdict" Verdict.reader fun v s => { s with verdict := v },
      .mandatory "perTest" (.list Outcome.reader) fun os s => { s with perTest := os }]
    ⟨.accepted, []⟩

def toJson (s : Submission) : Json :=
  .object [("verdict", s.verdict.toJson), ("perTest", .array (s.perTest.map Outcome.toJson))]

end Submission

end Assay.Judge
