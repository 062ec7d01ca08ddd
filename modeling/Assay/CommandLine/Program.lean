import Assay.CommandLine.Invocation
import Assay.Runner.CommandRunner

/-!
The whole program: it reads its command line, its settings and one request, and answers that.
-/

namespace Assay.CommandLine

open Files (Path Tree)
open Runner (Host Registry)
open Service (RequestError Response)

/-- What the program is started with. -/
structure Setting where
  /-- The words of the command line, the name of the program left out. -/
  words : List String
  stdin : List UInt8
  environment : List (String × String)
  /-- Where programs are run; its files are those that the program itself sees. -/
  host : Host
  /-- The seed of a request that has none. -/
  entropy : UInt64
  /-- The order in which the languages of the settings happen to be visited. -/
  visit : (settings : Settings) → settings.Visit

/-- How the program ends. -/
inductive Ending where
  | misused (misuse : Misuse)
  | answered (answer : Except RequestError Response)

namespace Ending

/-- A draw that leaves the finite range ends the program at once. -/
def isAbort : Ending → Bool
  | .answered (.error (.judge .abort)) => true
  | _ => false

/-- Asking for help or for the version is no error. -/
def exitCode (e : Ending) : Nat :=
  if e.isAbort then 101
  else
    match e with
    | .misused .helpWanted => 0
    | .misused .versionWanted => 0
    | .misused _ => 2
    | .answered (.ok _) => 0
    | .answered (.error _) => 1

/-- The response, or the error in its place. -/
def json? (e : Ending) : Option Json :=
  if e.isAbort then none
  else
    match e with
    | .misused _ => none
    | .answered (.ok response) => some response.toJson
    | .answered (.error error) => some error.response.toJson

end Ending

/-- JSON as the program prints it: over several lines, names sorted, a newline at the end. -/
def printed (v : Json) : String := v.sortMembers.pretty ++ "\n"

/-- Bytes that have to be UTF-8. -/
def utf8Text (bytes : List UInt8) : Except RequestError String :=
  let text := Text.Utf8.decode bytes
  if Text.Utf8.encode text = bytes then .ok text else .error (.io .invalidText)

/-- The text of a request, from a file or from standard input. -/
def readRequest (files : Tree) (directory : Path) (stdin : List UInt8) (path : Option String) :
    Except RequestError String :=
  match path with
  | none => utf8Text stdin
  | some path =>
    match (files.resolve directory path).bind files.read with
    | .error e => .error (.io e)
    | .ok bytes => utf8Text bytes

/-- Carry out a command. The settings are loaded before the request is read. -/
def carryOut (s : Setting) (invocation : Invocation) : Except RequestError Response :=
  let files := s.host.files
  match Settings.load files s.host.directory invocation.searchPaths s.environment with
  | .error e => .error (.settings e)
  | .ok settings =>
    match readRequest files s.host.directory s.stdin invocation.request with
    | .error e => .error e
    | .ok body =>
      let registry := Registry.ofSettings s.host settings (s.visit settings)
      let service := Service.ofSettings registry settings
      (service.handle s.entropy invocation.command body).answer

/-- Run the program. -/
def run (s : Setting) : Ending :=
  match Invocation.read s.words with
  | .error misuse => .misused misuse
  | .ok invocation => .answered (carryOut s invocation)

end Assay.CommandLine
