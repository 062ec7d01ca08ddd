import Assay.Draw.Builtin
import Assay.Duration
import Assay.Json.Reader

/-!
The settings of the service, their defaults and their JSON shapes.
-/

namespace Assay.Settings

open Draw (DrawLimits)
open Json (Reader)

/-- The name that settings carry in the environment, in lower case. -/
def programName : String := "arbiter"

/-- Directory for temporary files. -/
def temporaryDirectory : String := "/tmp"

/-- Directory of the work directories, unless a setting says otherwise. -/
def defaultWorkRoot : String := temporaryDirectory ++ "/" ++ programName

/-- How programs of one language are compiled and run. -/
structure LanguageSettings where
  version : String
  /-- Empty for a language that is not compiled. -/
  compileCommand : List String
  runCommand : List String
  /-- The name of the source file in the work directory. -/
  sourceName : String
  /-- Takes the place of the general time limit. -/
  timeLimit : Option Duration
  deriving DecidableEq, Repr

/-- How runs are carried out. -/
structure JudgeSettings where
  /-- Environment of every program, in the form `KEY=VALUE`. -/
  environment : List String
  /-- Time limit of one run, compilation included. -/
  timeLimit : Duration
  /-- Greatest number of bytes on standard output. -/
  stdoutLimit : Nat
  /-- Number of bytes of standard error that are kept. -/
  stderrLimit : Nat
  /-- Runs in flight at a time for one request. -/
  concurrency : Nat
  /-- Greatest number of tests that one request generates. -/
  maxGenerateCount : Nat
  /-- Directory of the work directories. -/
  workRoot : String
  deriving DecidableEq, Repr

end Settings

/-- All settings. -/
structure Settings where
  /-- Languages by name, each name at most once. -/
  languages : List (String × Settings.LanguageSettings)
  judge : Settings.JudgeSettings
  draw : Draw.DrawLimits
  deriving DecidableEq, Repr

namespace Settings

open Draw (DrawLimits)
open Json (Reader)

/-- An order in which the languages of some settings are visited: each of them once. The settings
do not say which order it is; it may be another one every time. -/
structure Visit (s : Settings) where
  order : List (String × LanguageSettings)
  perm : order.Perm s.languages

/-- The visit in the order in which the languages are listed. -/
def Visit.listed (s : Settings) : s.Visit := ⟨s.languages, .refl _⟩

namespace LanguageSettings

def empty : LanguageSettings := ⟨"", [], [], "", none⟩

def interpreted (version : String) (runCommand : List String) (sourceName : String) :
    LanguageSettings := ⟨version, [], runCommand, sourceName, none⟩

def compiled (version : String) (compileCommand : List String) (sourceName : String) :
    LanguageSettings := ⟨version, compileCommand, ["./main"], sourceName, none⟩

end LanguageSettings

/-- The languages that are known without any setting. -/
def defaultLanguages : List (String × LanguageSettings) :=
  [("python", .interpreted "3" ["python3", "main.py"] "main.py"),
    ("javascript", .interpreted "18" ["node", "main.js"] "main.js"),
    ("shell", .interpreted "posix" ["sh", "main.sh"] "main.sh"),
    ("c", .compiled "c11" ["gcc", "main.c", "-o", "main", "-O2", "-lm"] "main.c"),
    ("cpp", .compiled "c++17" ["g++", "main.cpp", "-o", "main", "-O2", "-std=c++17"] "main.cpp")]

def JudgeSettings.standard : JudgeSettings where
  environment := ["PATH=/usr/local/sbin:/usr/local/bin:/usr/sbin:/usr/bin:/sbin:/bin", "HOME=/tmp"]
  timeLimit := .ofMilliseconds 10000
  stdoutLimit := 64 * 1024 * 1024
  stderrLimit := 16 * 1024
  concurrency := 4
  maxGenerateCount := 1000
  workRoot := defaultWorkRoot

def standard : Settings := ⟨defaultLanguages, .standard, .standard⟩

/-- A number of milliseconds. -/
def millisecondsReader : Reader Duration := (Reader.word "u64").map .ofMilliseconds

def textsReader : Reader (List String) := .list (.text "a string")

def textsJson (texts : List String) : Json := .array (texts.map .text)

def durationJson (d : Duration) : Json := .int d.toMilliseconds

namespace LanguageSettings

def reader : Reader LanguageSettings :=
  .record "struct LangCfg"
    [.defaulted "version" (.text "a string") fun s l => { l with version := s },
      .defaulted "compile_cmd" textsReader fun ss l => { l with compileCommand := ss },
      .defaulted "run_cmd" textsReader fun ss l => { l with runCommand := ss },
      .defaulted "source_name" (.text "a string") fun s l => { l with sourceName := s },
      .defaulted "time_limit" (.optional millisecondsReader) fun d l => { l with timeLimit := d }]
    .empty

def toJson (l : LanguageSettings) : Json :=
  .object [("version", .text l.version), ("compile_cmd", textsJson l.compileCommand),
    ("run_cmd", textsJson l.runCommand), ("source_name", .text l.sourceName),
    ("time_limit", (l.timeLimit.map durationJson).getD .null)]

end LanguageSettings

namespace JudgeSettings

def reader : Reader JudgeSettings :=
  .record "struct JudgeCfg"
    [.defaulted "env" textsReader fun ss j => { j with environment := ss },
      .defaulted "time_limit" millisecondsReader fun d j => { j with timeLimit := d },
      .defaulted "stdout_limit" (.word "u64") fun n j => { j with stdoutLimit := n },
      .defaulted "stderr_limit" (.word "u64") fun n j => { j with stderrLimit := n },
      .defaulted "concurrency" (.word "usize") fun n j => { j with concurrency := n },
      .defaulted "max_generate_count" (.word "usize") fun n j => { j with maxGenerateCount := n },
      .defaulted "work_dir" (.text "path string") fun s j => { j with workRoot := s }]
    .standard

def toJson (j : JudgeSettings) : Json :=
  .object [("env", textsJson j.environment), ("time_limit", durationJson j.timeLimit),
    ("stdout_limit", .int j.stdoutLimit), ("stderr_limit", .int j.stderrLimit),
    ("concurrency", .int j.concurrency), ("max_generate_count", .int j.maxGenerateCount),
    ("work_dir", .text j.workRoot)]

end JudgeSettings

def limitsReader : Reader DrawLimits :=
  .record "struct DslCfg"
    [.defaulted "unique_retries" (.word "usize") fun n l => { l with uniqueRetries := n },
      .defaulted "max_array_len" (.word "usize") fun n l => { l with maxArrayLength := n }]
    .standard

def limitsJson (l : DrawLimits) : Json :=
  .object [("unique_retries", .int l.uniqueRetries), ("max_array_len", .int l.maxArrayLength)]

def reader : Reader Settings :=
  .record "struct Cfg"
    [.defaulted "lang" (.table LanguageSettings.reader) fun ls s => { s with languages := ls },
      .defaulted "judge" JudgeSettings.reader fun j s => { s with judge := j },
      .defaulted "dsl" limitsReader fun l s => { s with draw := l }]
    .standard

def toJson (s : Settings) : Json :=
  .object [("lang", .object (s.languages.map fun e => (e.1, e.2.toJson))),
    ("judge", s.judge.toJson), ("dsl", limitsJson s.draw)]

end Settings

end Assay
