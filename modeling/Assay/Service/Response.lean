import Assay.Service.Request

/-!
The responses of the service and their JSON shapes.
-/

namespace Assay.Service

open Json (Reader)

/-- The response to a request that succeeds. -/
inductive Response where
  | output (text : String)
  | generated (cases : List Judge.GeneratedCase)
  | judged (submission : Judge.Submission)
  | inputs (texts : List String)
  deriving DecidableEq, Repr

def Response.toJson : Response → Json
  | .output text => .object [("output", .text text)]
  | .generated cases => .object [("results", .array (cases.map Judge.GeneratedCase.toJson))]
  | .judged submission => submission.toJson
  | .inputs texts => .object [("inputs", .array (texts.map .text))]

/-- The generated tests of a response. -/
def generatedReader : Reader (List Judge.GeneratedCase) :=
  .record "struct GenerateTestCaseResponse"
    [.mandatory "results" (.list Judge.GeneratedCase.reader) fun cases _ => cases] []

/-- What is printed in the place of a response when a request fails. -/
structure ErrorResponse where
  error : String
  message : String
  deriving DecidableEq, Repr

namespace ErrorResponse

def reader : Reader ErrorResponse :=
  .record "struct ErrorResponse"
    [.mandatory "error" (.text "a string") fun s r => { r with error := s },
      .mandatory "message" (.text "a string") fun s r => { r with message := s }]
    ⟨"", ""⟩

def toJson (r : ErrorResponse) : Json :=
  .object [("error", .text r.error), ("message", .text r.message)]

end ErrorResponse

end Assay.Service
