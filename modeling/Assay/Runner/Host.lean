import Assay.Duration
import Assay.Files.Tree

/-!
A host: what starts programs as processes.
-/

namespace Assay.Runner

open Files (Path SystemError Tree)

/-- A program to be started. -/
structure Launch where
  /-- A path if it holds a slash, otherwise a name to be looked up. -/
  program : String
  arguments : List String
  directory : Path
  /-- Everything there is in the environment, each name once. -/
  environment : List (String × String)
  /-- The whole input; none for a program without one. -/
  stdin : Option (List UInt8)

/-- How a process ended. -/
inductive Ending where
  | exited (code : Nat)
  /-- Ended by a signal. -/
  | killed
  deriving DecidableEq, Repr

/-- What a finished process left behind. -/
structure Finished where
  files : Tree
  /-- Everything that was written, whatever the limits. -/
  stdout : List UInt8
  stderr : List UInt8
  ending : Ending
  takes : Duration

/-- A process is started on some files and watched for some time. It cannot be started, or it has
not ended when the watch ends, or it has. -/
structure Host where
  /-- The files before any program runs. -/
  files : Tree
  /-- The directory that relative paths of the settings start from. -/
  directory : Path
  /-- A name that no entry of any directory has. -/
  freshName : String
  launch : Duration → Tree → Launch → Except SystemError (Option Finished)

end Assay.Runner
