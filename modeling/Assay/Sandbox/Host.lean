import Assay.Runner.Host
import Assay.Sandbox.Shell.Interpreter

/-!
A host of its own: a small system of files, with a shell and the common tools. Programs run on a
clock that moves with what they do, so that waiting takes no time.
-/

namespace Assay.Sandbox

open Files (Path SystemError Tree)
open Runner (Ending Finished Launch)

/-- The files of a system on which nothing has run yet. -/
def systemFiles : Tree := Tool.systemFiles

/-- The search path of a process that is given none. -/
def fallbackPath : Octets := "/bin:/usr/bin".toList

/-- The number of the first process. -/
def firstProcess : Nat := 100

/-- A new process: standard input, standard output and standard error are the channels 0, 1 and 2. -/
def firstState (watch : Duration) (files : Tree) (launch : Launch)
    (environment : List (Octets × Octets)) : State where
  machine :=
    { files
      channels := #[
        match launch.stdin with
        | some bytes => .source ⟨.ofBytes bytes, []⟩ 0
        | none => .null,
        .sink [] false, .sink [] false]
      clock := 0
      deadline := watch.nanoseconds
      job := 0
      nextProcess := firstProcess + 1
      alarm := none }
  process :=
    { id := firstProcess
      shell := firstProcess
      directory := launch.directory
      descriptors := [(0, 0), (1, 1), (2, 2)]
      bindings := Shell.givenVariables environment
      arguments := []
      name := .ofText launch.program
      command := none
      status := 0
      line := 0
      functions := []
      traps := []
      jobs := []
      lastJob := none
      substituted := none
      options := Shell.noOptions
      guarded := false
      loops := 0
      hidden := [] }

/-- Everything that a channel has collected up to a time. -/
def outputOf (m : Machine) (channel : Nat) : List UInt8 :=
  match m.channels[channel]? with
  | some (.sink chunks _) =>
    (Exec.collect (chunks.filter fun c => c.time ≤ m.clock)).start.toBytes
  | _ => []

/-- What a process left behind, if it has ended. -/
def finish (result : Except Stop Nat) (m : Machine) : Option Finished :=
  let finished (ending : Ending) : Option Finished :=
    some ⟨m.files, outputOf m 1, outputOf m 2, ending, ⟨max 1 m.clock⟩⟩
  match result with
  | .ok code => finished (.exited code)
  | .error (.exited code) => finished (.exited code)
  | .error (.returned code) => finished (.exited code)
  | .error (.killed ..) => finished .killed
  | .error .expired => none
  | .error (.broke _) => finished (.exited 0)
  | .error (.continued _) => finished (.exited 0)

/-- The environment that a launch gives its process. -/
def environmentOf (launch : Launch) : List (Octets × Octets) :=
  launch.environment.map fun (name, x) => (.ofText name, .ofText x)

/-- Start a program and run it to its end, or to the end of the watch. -/
def launch (watch : Duration) (files : Tree) (launch : Launch) :
    Except SystemError (Option Finished) :=
  let environment := environmentOf launch
  let search := (environment.lookup "PATH".toList).getD fallbackPath
  let word := Octets.ofText launch.program
  match Shell.findProgram files launch.directory search word with
  | .error .missing => .error .noSuchFile
  | .error .denied => .error .permissionDenied
  | .ok path =>
    let e := Shell.engine Shell.maxDepth
    let run := e.program (Shell.startWith e Shell.startDepth) path word
      (launch.arguments.map Octets.ofText) environment
    let (result, s) := run.run (firstState watch files launch environment)
    .ok (finish result s.machine)

/-- A host whose processes see nothing but its own files. -/
def host (files : Tree) (directory : Path) : Runner.Host where
  files := files
  directory := directory
  freshName := "3f2a9c1e-7b40-4d5c-9e18-60a1b2c3d4e5"
  launch := launch

end Assay.Sandbox
