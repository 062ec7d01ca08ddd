import Assay.Runner.Capture
import Assay.Runner.Host
import Assay.Runner.Registry
import Assay.Runner.StdinCursor
import Assay.Settings.Basic
import Assay.Text.Abridged
import Assay.Text.Blank
import Assay.Text.Utf8

/-!
Running the programs of a language as processes: the code is written to a file in a new work
directory, compiled there if the language needs it, and run.
-/

namespace Assay.Runner

open Files (Path SystemError Tree)
open Settings (JudgeSettings LanguageSettings)

/-- What is needed to run a language by commands. -/
structure CommandRunner where
  name : String
  language : LanguageSettings
  judge : JudgeSettings
  deriving DecidableEq, Repr

namespace CommandRunner

/-- Time for making a work directory and writing the source file. -/
def preparationTime : Duration := ⟨100000⟩

/-- The name and the value of an entry `NAME=VALUE`. -/
def assignment? (entry : String) : Option (String × String) :=
  let cs := entry.toList
  match cs.dropWhile (· != '=') with
  | [] => none
  | _ :: value => some (String.ofList (cs.takeWhile (· != '=')), String.ofList value)

/-- The environment of every process: sorted by name, the last value of each name. Entries without
an equals sign are ignored. -/
def environment (entries : List String) : List (String × String) :=
  let assigned := entries.filterMap assignment?
  let distinct := assigned.foldl (fun kept e => e :: kept.filter fun f => f.1 != e.1) []
  distinct.mergeSort fun a b => !decide (b.1 < a.1)

/-- A new work directory. -/
def workDirectory (r : CommandRunner) (host : Host) : Path :=
  Path.resolve host.directory r.judge.workRoot ++ [host.freshName]

/-- The text of the path of the work directory; it is relative if the root is. -/
def workPath (r : CommandRunner) (host : Host) : String := Path.join r.judge.workRoot host.freshName

/-- A relative path that holds a slash is put behind the path of the work directory. A program is
looked up from there, so it is found only if that path is absolute. -/
def locate (workPath program : String) : String :=
  if program.toList.contains '/' && !Path.isAbsolute program then Path.join workPath program
  else program

/-- Start a command in the work directory and watch it. -/
def start (r : CommandRunner) (host : Host) (directory : Path) (command : List String)
    (stdin : Option (List UInt8)) (files : Tree) (watch : Duration) : Run Finished :=
  match command with
  | [] => .immediate (.error (.sandbox ("empty command for " ++ r.name)))
  | program :: arguments =>
    let launch : Launch :=
      ⟨locate (r.workPath host) program, arguments, directory, environment r.judge.environment,
        stdin⟩
    match host.launch watch files launch with
    | .error e => .immediate (.error (.sandbox e.message))
    | .ok none => .unfinished
    | .ok (some finished) => .finished finished.takes (.ok finished)

/-- The text of the bytes that are kept. -/
def textOf (limit : Nat) (bytes : List UInt8) : String :=
  Text.Utf8.decode (Capture.collect limit [bytes]).kept

/-- The message of a compiler: its standard error, or its standard output if that says nothing. -/
def compilerMessage (limit : Nat) (finished : Finished) : String :=
  let stderr := textOf limit finished.stderr
  Text.abridge <|
    if (Text.trimString stderr).isEmpty then textOf limit finished.stdout else stderr

/-- The files after compilation. -/
def compiled (limit : Nat) (finished : Finished) : Except Failure Tree :=
  match finished.ending with
  | .exited 0 => .ok finished.files
  | _ => .error (.compile (compilerMessage limit finished))

/-- What a finished program comes to. Too much output outweighs the way it ended. -/
def outcome (judge : JudgeSettings) (finished : Finished) : Except Failure Success :=
  let stdout := Capture.collect judge.stdoutLimit [finished.stdout]
  if stdout.truncated then .error (.outputLimit judge.stdoutLimit)
  else
    let stderr := textOf judge.stderrLimit finished.stderr
    match finished.ending with
    | .exited 0 => .ok ⟨Text.Utf8.decode stdout.kept, stderr, some 0⟩
    | .exited code => .error (.runtime (some code) (Text.abridge stderr))
    | .killed => .error (.runtime none (Text.abridge stderr))

/-- Compile the source file, if the language is compiled. -/
def compile (r : CommandRunner) (host : Host) (directory : Path) (files : Tree)
    (watch : Duration) : Run Tree :=
  if r.language.compileCommand.isEmpty then .immediate (.ok files)
  else
    (r.start host directory r.language.compileCommand none files watch).andThen watch
      fun finished _ => .immediate (compiled r.judge.stderrLimit finished)

/-- Run the program on an input. -/
def runProgram (r : CommandRunner) (host : Host) (directory : Path) (stdin : String)
    (files : Tree) (watch : Duration) : Run Success :=
  let input := Text.Utf8.encode (StdinCursor.ofString stdin).feed
  (r.start host directory r.language.runCommand (some input) files watch).andThen watch
    fun finished _ => .immediate (outcome r.judge finished)

/-- Make the work directory and write the source file. -/
def prepare (r : CommandRunner) (host : Host) (code : String) : Except Failure Tree :=
  let directory := r.workDirectory host
  let prepared : Except SystemError Tree :=
    match host.files.makeDirectories directory with
    | .error e => .error e
    | .ok files =>
      match files.resolve directory r.language.sourceName with
      | .error e => .error e
      | .ok source => files.write source (Text.Utf8.encode code)
  prepared.mapError fun e => .sandbox e.message

/-- Compile and run code, all of it within the watch. -/
def execute (r : CommandRunner) (host : Host) (watch : Duration) (code stdin : String) :
    Run Success :=
  let directory := r.workDirectory host
  (Run.finished preparationTime (r.prepare host code)).andThen watch fun files watch =>
    (r.compile host directory files watch).andThen watch fun files watch =>
      r.runProgram host directory stdin files watch

/-- The runner of the commands on a host. -/
def toRunner (r : CommandRunner) (host : Host) : Runner where
  name := r.name
  version := r.language.version
  timeLimit := r.language.timeLimit
  run := r.execute host

end CommandRunner

/-- The runners of the languages of some settings, registered in the order of a visit. -/
def Registry.ofSettings (host : Host) (settings : Settings) (visit : settings.Visit) : Registry :=
  visit.order.foldl
    (fun g (name, language) =>
      g.register ((CommandRunner.mk name language settings.judge).toRunner host))
    (Registry.empty settings.judge.timeLimit)

end Assay.Runner
