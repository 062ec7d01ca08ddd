import Assay.Judge.Shape

/-!
The requests of the service and their JSON shapes.
-/

namespace Assay

open Json (Reader)

namespace Language

def reader : Reader Language :=
  .record "struct SupportedLanguage"
    [.mandatory "name" (.text "a string") fun s l => { l with name := s },
      .defaulted "version" (.text "a string") fun s l => { l with version := s }]
    ⟨"", ""⟩

def toJson (l : Language) : Json :=
  .object [("name", .text l.name), ("version", .text l.version)]

end Language

namespace Service

/-- A count of tests: a signed 64-bit integer, since a negative one gets a message of its own. -/
def countReader : Reader Int := .integer (-(2 ^ 63)) (2 ^ 63 - 1) "i64"

def seedReader : Reader (Option UInt64) := .optional ((Reader.word "u64").map UInt64.ofNat)

def seedJson : Option UInt64 → Json
  | none => .null
  | some seed => .int seed.toNat

/-- Run code with an input. -/
structure RunRequest where
  code : String
  input : String
  language : Language
  deriving DecidableEq, Repr

namespace RunRequest

def reader : Reader RunRequest :=
  .record "struct RunCodeRequest"
    [.mandatory "code" (.text "a string") fun s r => { r with code := s },
      .defaulted "input" (.text "a string") fun s r => { r with input := s },
      .mandatory "language" Language.reader fun l r => { r with language := l }]
    ⟨"", "", ⟨"", ""⟩⟩

def toJson (r : RunRequest) : Json :=
  .object [("code", .text r.code), ("input", .text r.input), ("language", r.language.toJson)]

end RunRequest

/-- Generate tests with a reference program. -/
structure GenerateRequest where
  code : String
  count : Int
  /-- The source of the chain that inputs are drawn from. -/
  source : String
  language : Language
  seed : Option UInt64
  deriving DecidableEq, Repr

namespace GenerateRequest

def reader : Reader GenerateRequest :=
  .record "struct GenerateTestCaseRequest"
    [.mandatory "code" (.text "a string") fun s r => { r with code := s },
      .mandatory "count" countReader fun n r => { r with count := n },
      .mandatory "inputStatus" (.text "a string") fun s r => { r with source := s },
      .mandatory "language" Language.reader fun l r => { r with language := l },
      .defaulted "seed" seedReader fun s r => { r with seed := s }]
    ⟨"", 0, "", ⟨"", ""⟩, none⟩

def toJson (r : GenerateRequest) : Json :=
  .object [("code", .text r.code), ("count", .int r.count), ("inputStatus", .text r.source),
    ("language", r.language.toJson), ("seed", seedJson r.seed)]

end GenerateRequest

/-- Judge a program on tests. -/
structure SubmitRequest where
  code : String
  language : Language
  tests : List Judge.TestCase
  deriving DecidableEq, Repr

namespace SubmitRequest

def reader : Reader SubmitRequest :=
  .record "struct SubmitRequest"
    [.mandatory "code" (.text "a string") fun s r => { r with code := s },
      .mandatory "language" Language.reader fun l r => { r with language := l },
      .mandatory "testCases" (.list Judge.TestCase.reader) fun ts r => { r with tests := ts }]
    ⟨"", ⟨"", ""⟩, []⟩

def toJson (r : SubmitRequest) : Json :=
  .object [("code", .text r.code), ("language", r.language.toJson),
    ("testCases", .array (r.tests.map Judge.TestCase.toJson))]

end SubmitRequest

/-- Draw inputs without running anything. -/
structure SampleRequest where
  source : String
  count : Int
  seed : Option UInt64
  deriving DecidableEq, Repr

namespace SampleRequest

def reader : Reader SampleRequest :=
  .record "struct SampleRequest"
    [.mandatory "inputStatus" (.text "a string") fun s r => { r with source := s },
      .mandatory "count" countReader fun n r => { r with count := n },
      .defaulted "seed" seedReader fun s r => { r with seed := s }]
    ⟨"", 0, none⟩

def toJson (r : SampleRequest) : Json :=
  .object [("inputStatus", .text r.source), ("count", .int r.count), ("seed", seedJson r.seed)]

end SampleRequest

end Service

end Assay
