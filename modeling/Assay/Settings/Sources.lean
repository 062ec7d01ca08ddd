import Assay.Files.Tree
import Assay.Settings.Conversion
import Assay.Text.Utf8

/-!
Where settings come from: files, in the order they are given, and then the environment. Sources
are merged section by section, and what comes later wins.
-/

namespace Assay.Settings

open Files (Path Tree)

/-- The value of a member. -/
def memberOf (name : String) (members : List (String × Json)) : Option Json := members.lookup name

/-- Put a member, in the place of the one with its name. -/
def putMember (name : String) (v : Json) (members : List (String × Json)) : List (String × Json) :=
  if (memberOf name members).isSome then
    members.map fun e => if e.1 == name then (name, v) else e
  else members ++ [(name, v)]

/-- The members of an object; anything else counts as an empty one. -/
def membersOf : Json → List (String × Json)
  | .object members => members
  | _ => []

mutual

/-- Set a member of `root`. A section is merged into the one that is there, a member at a time;
any other value takes the place of what was there. -/
def setMember (name : String) (root : Json) : Json → Json
  | .object incoming =>
    let members := membersOf root
    let target := (memberOf name members).getD (.object [])
    .object (putMember name (setMembers target incoming) members)
  | v => .object (putMember name v (membersOf root))

/-- Set several members, one after another. -/
def setMembers (root : Json) : List (String × Json) → Json
  | [] => root
  | (name, v) :: rest => setMembers (setMember name root v) rest

end

/-- One step into a value. -/
inductive Step where
  | member (name : String)
  | item (index : Int)
  deriving DecidableEq, Repr

/-- Characters of a name in a dotted key. -/
def isKeyChar (c : Char) : Bool := c.isAlphanum || c == ' ' || c == '_' || c == '-'

/-- An index in brackets, whose opening bracket has been read. -/
def readIndex (cs : List Char) : Option (Int × List Char) :=
  let isSpace (c : Char) : Bool := c == ' ' || c == '\t' || c == '\r' || c == '\n'
  let cs := cs.dropWhile isSpace
  let (negative, cs) := match cs with
    | '-' :: rest => (true, rest)
    | _ => (false, cs)
  let digits := cs.takeWhile Char.isDigit
  if digits.isEmpty || 18 < digits.length then none
  else
    match (cs.dropWhile Char.isDigit).dropWhile isSpace with
    | ']' :: rest =>
      let n : Int := digits.foldl (fun n c => n * 10 + (c.toNat - '0'.toNat)) 0
      some (if negative then -n else n, rest)
    | _ => none

/-- The steps of a dotted key after its first name. -/
def readSteps : Nat → List Char → Option (List Step)
  | _, [] => some []
  | 0, _ => none
  | fuel + 1, c :: rest =>
    if c = '.' then
      match rest.takeWhile isKeyChar with
      | [] => none
      | name =>
        (readSteps fuel (rest.dropWhile isKeyChar)).map (.member (String.ofList name) :: ·)
    else if c = '[' then
      match readIndex rest with
      | none => none
      | some (index, rest) => (readSteps fuel rest).map (.item index :: ·)
    else none

/-- The steps that a key stands for; a key that is not dotted names is one member. -/
def stepsOfKey (key : String) : List Step :=
  let cs := key.toList
  let plain : List Step := [.member key]
  match cs.takeWhile isKeyChar with
  | [] => plain
  | name =>
    match readSteps (cs.length + 1) (cs.dropWhile isKeyChar) with
    | none => plain
    | some steps => .member (String.ofList name) :: steps

/-- The place of an index in a list; negative indices count from its end. -/
def placeOf (index : Int) (length : Nat) : Nat :=
  if 0 ≤ index then index.toNat else length - index.natAbs

/-- Change one item of a list, which grows if it is too short. -/
def updateItem (place : Nat) (f : Json → Json) (items : List Json) : List Json :=
  let items := items ++ List.replicate (place + 1 - items.length) .null
  items.modify place f

/-- Set the value that the steps lead to, making sections and lists where there are none. -/
def setAt (v : Json) : List Step → Json → Json
  | [], _ => v
  | [.member name], root => setMember name root v
  | .member name :: rest, root =>
    let members := membersOf root
    .object (putMember name (setAt v rest ((memberOf name members).getD .null)) members)
  | .item index :: rest, root =>
    let items := match root with
      | .array items => items
      | _ => []
    .array (updateItem (placeOf index items.length) (setAt v rest) items)

/-- Merge one source into those before it. Its own top-level keys may be dotted. -/
def merge (root : Json) (source : List (String × Json)) : Json :=
  source.foldl (fun root (key, v) => setAt v (stepsOfKey key) root) root

/-- Replace every double underscore by a point. -/
def dotted : List Char → List Char
  | '_' :: '_' :: rest => '.' :: dotted rest
  | c :: rest => c :: dotted rest
  | [] => []

/-- The settings in the environment: variables that begin with the program's name and two
underscores, in any case. -/
def ofEnvironment (environment : List (String × String)) : List (String × Json) :=
  environment.filterMap fun (name, value) =>
    let key := (Text.lowercase name).toList
    let start := (programName ++ "__").toList
    if start.isPrefixOf key then
      some (String.ofList (dotted (key.drop start.length)), .text value)
    else none

/-- Names of settings files end with this. -/
def fileExtension : String := ".json"

/-- The extension of the last name of a path. -/
def extensionOf (p : Path) : List Char :=
  let name := (p.getLast?.getD "").toList
  let stem := name.reverse.dropWhile (· != '.')
  match stem with
  | [] => []
  | [_] => []
  | _ => name.reverse.takeWhile (· != '.') |>.reverse

/-- The settings file that a search path leads to. -/
def findFile (files : Tree) (directory : Path) (searchPath : String) : Option Path :=
  let exact := Path.resolve directory searchPath
  if files.isFile exact then
    if extensionOf exact = fileExtension.toList.drop 1 then some exact else none
  else
    let extended := Path.resolve directory (searchPath ++ fileExtension)
    if files.isFile extended then some extended else none

/-- Why settings cannot be loaded. -/
inductive LoadError where
  | malformedFile (path : Path)
  | unusableValue
  deriving DecidableEq, Repr

def LoadError.message : LoadError → String
  | .malformedFile p => "malformed file " ++ p.toText
  | .unusableValue => "unusable value"

mutual

/-- Keep the last of the members of one name, at every depth. -/
def settle : Json → Json
  | .array items => .array (settleItems items)
  | .object members => .object (Json.lastOfEach (settleMembers members))
  | v => v

def settleItems : List Json → List Json
  | [] => []
  | v :: rest => settle v :: settleItems rest

def settleMembers : List (String × Json) → List (String × Json)
  | [] => []
  | (k, v) :: rest => (k, settle v) :: settleMembers rest

end

/-- The members of a settings file; one that holds no object counts as empty. -/
def readFile (files : Tree) (p : Path) : Except LoadError (List (String × Json)) :=
  match files.read p with
  | .error _ => .error (.malformedFile p)
  | .ok bytes =>
    match Json.parse (Text.Utf8.decode bytes) with
    | .ok v => .ok (membersOf (settle v))
    | .error _ => .error (.malformedFile p)

/-- Merge the files of the search paths; a path that leads nowhere is passed over. -/
def mergeFiles (files : Tree) (directory : Path) (root : Json) :
    List String → Except LoadError Json
  | [] => .ok root
  | searchPath :: rest =>
    match findFile files directory searchPath with
    | none => mergeFiles files directory root rest
    | some p =>
      match readFile files p with
      | .error e => .error e
      | .ok source => mergeFiles files directory (merge root source) rest

/-- The settings file of the whole system. -/
def systemPath : String := "/etc/" ++ programName ++ "/config"

/-- Load the settings: the file of the system, the files of the search paths, the environment. -/
def load (files : Tree) (directory : Path) (searchPaths : List String)
    (environment : List (String × String)) : Except LoadError Settings :=
  match mergeFiles files directory (.object []) (systemPath :: searchPaths) with
  | .error e => .error e
  | .ok root =>
    match ofMerged (merge root (ofEnvironment environment)) with
    | some settings => .ok settings
    | none => .error .unusableValue

end Assay.Settings
