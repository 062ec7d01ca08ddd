import Assay.CommandLine.Resemblance
import Assay.Service.Handling

/-!
Reading the words of a command line.

An option that takes a value takes the word after it, unless that word is itself an option. Values
of the search path add up; of the request the last use counts, and one after the command outweighs
those before it.
-/

namespace Assay.CommandLine

open Service (Command)

/-- Why a command line names no command to carry out. -/
inductive Misuse where
  | helpWanted
  | versionWanted
  | noCommand
  | unknownArgument
  /-- The word is no command, but nearly one. -/
  | resemblesCommand
  /-- Help is wanted on something that is no command. -/
  | unknownHelpTopic
  | missingValue
  /-- A flag was given a value. -/
  | needlessValue
  deriving DecidableEq, Repr

/-- What a command line asks for. -/
structure Invocation where
  command : Command
  /-- The file of the request; standard input if there is none. -/
  request : Option String
  searchPaths : List String
  deriving DecidableEq, Repr

/-- The options that take a value. -/
inductive ValueOption where
  | searchPath
  | request
  deriving DecidableEq, Repr

inductive Flag where
  | valued (option : ValueOption)
  | help
  | version
  deriving DecidableEq, Repr

/-- Where a word stands: before the command or after it. -/
inductive Level where
  | program
  | command
  deriving DecidableEq, Repr

namespace Level

/-- The flags of a level, with their long and short names. -/
def flags : Level → List (String × Char × Flag)
  | .program => [("config-search-path", 'c', .valued .searchPath), ("request", 'r', .valued .request),
      ("help", 'h', .help), ("version", 'V', .version)]
  | .command => [("request", 'r', .valued .request), ("help", 'h', .help)]

def ofLong? (level : Level) (name : List Char) : Option Flag :=
  (level.flags.find? fun f => f.1.toList == name).map fun f => f.2.2

def ofShort? (level : Level) (name : Char) : Option Flag :=
  (level.flags.find? fun f => f.2.1 == name).map fun f => f.2.2

/-- The word that asks for help on a command. -/
def helpWord : String := "help"

/-- The words that are commands at a level. -/
def words : Level → List String
  | .program => Command.all.map Command.word ++ [helpWord]
  | .command => []

end Level

/-- What has been read at one level. An option that was used without a value holds none. -/
structure Reading where
  /-- One entry for every use of the search path, the last one first. -/
  searchPaths : List (Option String)
  /-- The last use of the request. -/
  request : Option (Option String)
  /-- The option whose use is still open, because its value, if it has one, may yet be refused. -/
  open? : Option (ValueOption × Option String)

namespace Reading

def start : Reading := ⟨[], none, none⟩

/-- Keep one use of an option. A file name must not be empty. -/
def keep (r : Reading) (o : ValueOption) (value : Option String) : Except Misuse Reading :=
  match o with
  | .searchPath => .ok { r with searchPaths := value :: r.searchPaths }
  | .request =>
    if value = some "" then .error .missingValue else .ok { r with request := some value }

/-- Close the open use, if there is one. -/
def close (r : Reading) : Except Misuse Reading :=
  match r.open? with
  | none => .ok r
  | some (o, value) => { r with open? := none }.keep o value

/-- Use an option whose value is part of the same word. -/
def attach (r : Reading) (o : ValueOption) (value : String) : Except Misuse Reading :=
  match r.close with
  | .error e => .error e
  | .ok r => r.keep o (some value)

/-- Use an option whose value may be the next word. -/
def await (r : Reading) (o : ValueOption) : Except Misuse Reading :=
  match r.close with
  | .error e => .error e
  | .ok r => .ok { r with open? := some (o, none) }

/-- The option that waits for its value. -/
def awaiting? (r : Reading) : Option ValueOption :=
  match r.open? with
  | some (o, none) => some o
  | _ => none

/-- Whether an option was used, but never with a value. -/
def lacksValue (r : Reading) : ValueOption → Bool
  | .searchPath => !r.searchPaths.isEmpty && r.searchPaths.all Option.isNone
  | .request => r.request == some none

end Reading

/-- The misuse of a word that is neither a flag nor a value. `escaped` tells that a double dash
came before it. -/
def strayWord (level : Level) (escaped : Bool) (word : String) : Misuse :=
  if escaped && level.words.contains word then .unknownArgument
  else if level.words.any (resembles word) then .resemblesCommand
  else .unknownArgument

/-- Read a flag with a long name, which may have a value after an equals sign. -/
def readLong (level : Level) (r : Reading) (word : List Char) : Except Misuse Reading :=
  let name := word.takeWhile (· != '=')
  let value := match word.dropWhile (· != '=') with
    | [] => none
    | _ :: value => some (String.ofList value)
  match level.ofLong? name with
  | none => .error .unknownArgument
  | some (.valued o) =>
    match value with
    | some value => r.attach o value
    | none => r.await o
  | some flag =>
    if value.isSome then .error .needlessValue
    else if flag = .help then .error .helpWanted
    else .error .versionWanted

/-- Read a flag with a short name. What follows it in the word is its value, and an equals sign
before the value is dropped. -/
def readShort (level : Level) (r : Reading) (name : Char) (rest : List Char) :
    Except Misuse Reading :=
  match level.ofShort? name with
  | none => .error .unknownArgument
  | some .help => .error .helpWanted
  | some .version => .error .versionWanted
  | some (.valued o) =>
    match rest with
    | [] => r.await o
    | '=' :: value => r.attach o (String.ofList value)
    | value => r.attach o (String.ofList value)

/-- Asking for help on a command; the commands themselves have none below them. -/
def helpOn (level : Level) : List String → Misuse
  | [] => .helpWanted
  | topic :: rest => if level.words.contains topic then helpOn .command rest else .unknownHelpTopic

/-- Read the words of one level, up to the command with the words after it. -/
def readWords (level : Level) (r : Reading) :
    List String → Except Misuse (Reading × Option (Command × List String))
  | [] => .ok (r, none)
  | word :: rest =>
    if r.awaiting?.isNone && level.words.contains word then
      match Command.ofWord? word with
      | some command => .ok (r, some (command, rest))
      | none => .error (helpOn level rest)
    else
      let flag : Except Misuse (Option Reading) :=
        match word.toList with
        | '-' :: '-' :: name => (readLong level r name).map some
        | '-' :: name :: value => (readShort level r name value).map some
        | _ => .ok none
      if word = "--" then
        match rest with
        | [] => .ok (r, none)
        | stray :: _ => .error (strayWord level true stray)
      else
        match flag with
        | .error e => .error e
        | .ok (some r) => readWords level r rest
        | .ok none =>
          match r.awaiting? with
          | some o => readWords level { r with open? := some (o, some word) } rest
          | none => .error (strayWord level false word)

/-- The end of a level: the option that still waits must have had a value before. -/
def finish (r : Reading) : Except Misuse Reading :=
  match r.close with
  | .error e => .error e
  | .ok closed =>
    if r.awaiting?.any closed.lacksValue then .error .missingValue else .ok closed

/-- The words after a command: at most a request. -/
def readAfterCommand (words : List String) : Except Misuse (Option String) :=
  match readWords .command .start words with
  | .error e => .error e
  | .ok (r, _) =>
    match finish r with
    | .error e => .error e
    | .ok r => if r.lacksValue .request then .error .missingValue else .ok r.request.join

/-- Read a command line, the name of the program left out. -/
def Invocation.read (words : List String) : Except Misuse Invocation :=
  match readWords .program .start words with
  | .error e => .error e
  | .ok (r, command?) =>
    let later : Except Misuse (Option (Command × Option String)) :=
      match command? with
      | none => .ok none
      | some (command, rest) => (readAfterCommand rest).map fun request => some (command, request)
    match later with
    | .error e => .error e
    | .ok later =>
      match finish r with
      | .error e => .error e
      | .ok r =>
        match later with
        | none => .error .noCommand
        | some (command, request) =>
          if r.lacksValue .searchPath || r.lacksValue .request then .error .missingValue
          else .ok ⟨command, request.or r.request.join, r.searchPaths.reverse.filterMap id⟩

end Assay.CommandLine
