import Assay.Sandbox.Pattern
import Assay.Sandbox.Tool.Text

/-!
Tools that look at files and change them.
-/

namespace Assay.Sandbox.Tool

open Files (Node Path SystemError Tree)

/-- The last name of a path text. -/
def baseName (cs : Octets) : Octets :=
  let trimmed := (cs.reverse.dropWhile (· == '/')).reverse
  if trimmed.isEmpty then (if cs.isEmpty then [] else ['/'])
  else (trimmed.reverse.takeWhile (· != '/')).reverse

/-- A path text without its last name. -/
def directoryName (cs : Octets) : Octets :=
  let trimmed := (cs.reverse.dropWhile (· == '/')).reverse
  if trimmed.isEmpty then (if cs.isEmpty then ['.'] else ['/'])
  else
    let parent := trimmed.reverse.dropWhile (· != '/')
    if parent.isEmpty then ['.']
    else
      let parent := (parent.dropWhile (· == '/')).reverse
      if parent.isEmpty then ['/'] else parent

/-- Drop an ending that is not the whole text. -/
def dropSuffix (ending cs : Octets) : Octets :=
  if ending.isSuffixOf cs && ending.length < cs.length then cs.take (cs.length - ending.length) else cs

def basenameUsage : Usage := .of "basename" "as:z" [("multiple", 'a'), ("suffix", 's')]

def basename : Tool := basenameUsage.run fun a => do
  let several := a.has 'a' || a.has 's'
  match a.operands with
  | [] => basenameUsage.refuse (Octets.ofText "missing operand")
  | name :: rest =>
    let (names, ending) := if several then (name :: rest, (a.value? 's').getD [])
      else ([name], rest.headD [])
    if let (false, _ :: extra :: _) := (several, rest) then
      return ← basenameUsage.refuse (Octets.ofText "extra operand " ++ quoted extra)
    Exec.write 1 (Octets.unlines (names.map fun n => dropSuffix ending (baseName n)))
    return 0

def dirname : Tool := (Usage.of "dirname" "z" []).run fun a => do
  if a.operands.isEmpty then return ← (Usage.of "dirname" "z" []).refuse (Octets.ofText "missing operand")
  Exec.write 1 (Octets.unlines (a.operands.map directoryName))
  return 0

/-- A name inside a directory. -/
def inside (directory name : Octets) : Octets :=
  if directory.getLast? = some '/' then directory ++ name else directory ++ '/' :: name

/-- The nodes under a path, each directory before what is in it, with their names relative to it. -/
def walk (files : Tree) : Nat → Path → Octets → List (Octets × Path)
  | 0, _, _ => []
  | fuel + 1, path, name =>
    let below := if files.isDirectory path then files.children path else []
    (name, path) :: below.flatMap fun child =>
      walk files fuel (path ++ [child]) (inside name (Octets.ofText child))

/-- How deep a tree can be walked. -/
def walkFuel (files : Tree) : Nat := files.nodes.length + 1

/-- Apply a change to every operand and complain about those that cannot be changed. There has to
be an operand. -/
def changeEach (u : Usage) (doing : String) (operands : List Octets)
    (change : Octets → Exec (Except SystemError Unit)) : Exec Nat := do
  if operands.isEmpty then
    return ← u.refuse (Octets.ofText (if u.name = "touch" then "missing file operand" else "missing operand"))
  let mut status := 0
  for operand in operands do
    match ← change operand with
    | .ok () => pure ()
    | .error e =>
      complain u.name (Octets.ofText doing ++ ' ' :: quoted operand ++ Octets.ofText (": " ++ e.description))
      status := 1
  return status

/-- Resolve a name and change the files there. -/
def changeAt (name : Octets) (change : Tree → Path → Except SystemError Tree) :
    Exec (Except SystemError Unit) := do
  match ← Exec.resolve name with
  | .error e => return .error e
  | .ok path => Exec.changeFiles fun files => change files path

def mkdirUsage : Usage := .of "mkdir" "pm:v" [("parents", 'p'), ("mode", 'm')]

def mkdir : Tool := mkdirUsage.run fun a =>
  changeEach mkdirUsage "cannot create directory" a.operands fun o =>
    if a.has 'p' then do
      let path := Path.resolve (← Exec.process).directory o.toText
      Exec.changeFiles fun files => files.makeDirectories path
    else changeAt o fun files path => files.makeDirectory path

def rmdirUsage : Usage := .of "rmdir" "v" []

def rmdir : Tool := rmdirUsage.run fun a =>
  changeEach rmdirUsage "failed to remove" a.operands fun o =>
    changeAt o fun files path =>
      match files.locate path with
      | .error e => .error e
      | .ok (.file ..) => .error .notADirectory
      | .ok .directory =>
        if (files.children path).isEmpty then files.removeAll path else .error .notEmpty

def rmUsage : Usage := .of "rm" "rRfiIdv" [("recursive", 'r'), ("force", 'f')]

def rm : Tool := rmUsage.run fun a => do
  if a.operands.isEmpty && a.has 'f' then return 0
  changeEach rmUsage "cannot remove" a.operands fun o => do
    match ← changeAt o fun files path =>
      match files.locate path with
      | .error e => .error e
      | .ok .directory =>
        if a.has 'r' || a.has 'R' then files.removeAll path else .error .isADirectory
      | .ok (.file ..) => files.removeAll path with
    | .error .noSuchFile => return if a.has 'f' then .ok () else .error .noSuchFile
    | result => return result

/-- Where a file goes: into a directory under its own name, or to the name itself. -/
def placeFor (source target : Octets) : Exec Octets := do
  match ← Exec.node? target with
  | some .directory => return inside target (baseName source)
  | _ => return target

/-- Copy what is at one path to another. -/
def copyTree (files : Tree) (source target : Path) : Except SystemError Tree :=
  match files.locate source with
  | .error e => .error e
  | .ok (.file content executable) =>
    match files.write target content with
    | .error e => .error e
    | .ok files => if executable then files.setExecutable target true else .ok files
  | .ok .directory =>
    let nodes := files.nodes.filter fun e => Tree.isWithin source e.1
    nodes.foldl (fun result (path, node) =>
      result.map fun (files : Tree) => files.put (target ++ path.drop source.length) node) (.ok files)

/-- Sources and the place that the last operand names. -/
def sourcesAndTarget (u : Usage) (operands : List Octets) : Exec (Option (List Octets × Octets)) := do
  match operands with
  | [] =>
    let _ ← u.refuse (Octets.ofText "missing file operand")
    return none
  | [one] =>
    let _ ← u.refuse (Octets.ofText "missing destination file operand after " ++ quoted one)
    return none
  | operands => return some (operands.dropLast, operands.getLastD [])

def cpUsage : Usage := .of "cp" "rRafipv" [("recursive", 'r'), ("force", 'f'), ("archive", 'a')]

def cp : Tool := cpUsage.run fun a => do
  match ← sourcesAndTarget cpUsage a.operands with
  | none => return 1
  | some (sources, target) =>
    let mut status := 0
    for source in sources do
      let place ← placeFor source target
      match ← Exec.resolve source, ← Exec.resolve place with
      | .ok path, .ok targetPath =>
        let files := (← Exec.machine).files
        if files.isDirectory path && !(a.has 'r' || a.has 'R' || a.has 'a') then
          complain "cp" (Octets.ofText "-r not specified; omitting directory " ++ quoted source)
          status := 1
        else
          match files.locate path, ← Exec.changeFiles fun files => copyTree files path targetPath with
          | .error e, _ =>
            complain "cp" (Octets.ofText "cannot stat " ++ quoted source ++
              Octets.ofText (": " ++ e.description))
            status := 1
          | _, .error e =>
            complain "cp" (Octets.ofText "cannot create regular file " ++ quoted place ++
              Octets.ofText (": " ++ e.description))
            status := 1
          | _, .ok () => pure ()
      | .error e, _ =>
        complain "cp" (Octets.ofText "cannot stat " ++ quoted source ++
          Octets.ofText (": " ++ e.description))
        status := 1
      | _, .error e =>
        complain "cp" (Octets.ofText "cannot create regular file " ++ quoted place ++
          Octets.ofText (": " ++ e.description))
        status := 1
    return status

def mvUsage : Usage := .of "mv" "finv" [("force", 'f')]

def mv : Tool := mvUsage.run fun a => do
  match ← sourcesAndTarget mvUsage a.operands with
  | none => return 1
  | some (sources, target) =>
    let mut status := 0
    for source in sources do
      let place ← placeFor source target
      let moved : Except SystemError Unit ← do
        match ← Exec.resolve source, ← Exec.resolve place with
        | .ok path, .ok targetPath =>
          if path = targetPath then pure (.ok ())
          else
            Exec.changeFiles fun files =>
              match copyTree files path targetPath with
              | .error e => .error e
              | .ok files => files.removeAll path
        | .error e, _ => pure (.error e)
        | _, .error e => pure (.error e)
      match moved with
      | .ok () => pure ()
      | .error e =>
        complain "mv" (Octets.ofText "cannot stat " ++ quoted source ++
          Octets.ofText (": " ++ e.description))
        status := 1
    return status

def touchUsage : Usage := .of "touch" "acmd:r:t:" [("no-create", 'c'), ("date", 'd')]

def touch : Tool := touchUsage.run fun a =>
  changeEach touchUsage "cannot touch" a.operands fun o =>
    changeAt o fun files path =>
      match files.find? path with
      | some _ => .ok files
      | none => if a.has 'c' then .ok files else files.write path []

/-- Whether a mode lets a file be executed, if it says anything about that. -/
def executeBit (mode : Octets) : Option Bool :=
  if mode.all Char.isDigit then some ((Octets.valueOf 8 mode) % 128 / 64 % 2 == 1)
  else
    match mode.dropWhile fun c => not (['+', '-', '='].contains c) with
    | '+' :: bits => if bits.contains 'x' then some true else none
    | '-' :: bits => if bits.contains 'x' then some false else none
    | '=' :: bits => some (bits.contains 'x')
    | _ => none

def chmod : Tool := fun words => do
  let u := Usage.of "chmod" "" []
  match words.filter fun w => w != "-R".toList with
  | mode :: operands =>
    if operands.isEmpty then
      return ← u.refuse (Octets.ofText "missing operand after " ++ quoted mode)
    changeEach u "cannot access" operands fun o =>
      changeAt o fun files path =>
        match executeBit mode with
        | some executable => files.setExecutable path executable
        | none => (files.locate path).map fun _ => files
  | [] => u.refuse (Octets.ofText "missing operand")

def lsUsage : Usage :=
  { Usage.of "ls" "1aAdrtSFCxpQ" [("all", 'a'), ("almost-all", 'A'), ("directory", 'd'), ("reverse", 'r')] with
    misuse := 2 }

def ls : Tool := lsUsage.run fun a => do
  let files := (← Exec.machine).files
  let operands := if a.operands.isEmpty then [['.']] else a.operands
  let mut status := 0
  let mut single : List Octets := []
  let mut directories : List (Octets × List Octets) := []
  for operand in operands do
    match (← Exec.resolve operand).bind fun path => (files.locate path).map fun node => (path, node) with
    | .error e =>
      complain "ls" (Octets.ofText "cannot access " ++ quoted operand ++
        Octets.ofText (": " ++ e.description))
      status := 2
    | .ok (path, .directory) =>
      if a.has 'd' then single := single ++ [operand]
      else
        let names := (files.children path).map Octets.ofText
        let names := if a.has 'a' then [['.'], ['.', '.']] ++ names else names
        let shown := names.filter fun n => a.has 'a' || a.has 'A' || n.head? != some '.'
        directories := directories ++ [(operand, if a.has 'r' then shown.reverse else shown)]
    | .ok _ => single := single ++ [operand]
  Exec.write 1 (Octets.unlines (single.mergeSort fun x y => compareOctets x y != .gt))
  let titles := 1 < operands.length
  let sorted := directories.mergeSort fun x y => compareOctets x.1 y.1 != .gt
  let blocks := sorted.map fun (name, names) =>
    (if titles then name ++ [':', '\n'] else []) ++ Octets.unlines names
  Exec.write 1 ((if single.isEmpty || blocks.isEmpty then [] else ['\n']) ++ Octets.join ['\n'] blocks)
  return status

/-- `find`, with conditions on the name, the kind and the depth of a node. -/
def find : Tool := fun words => do
  let starts := words.takeWhile fun w => w.head? != some '-'
  let conditions := words.drop starts.length
  let starts := if starts.isEmpty then [['.']] else starts
  let files := (← Exec.machine).files
  let rec holds (name : Octets) (path : Path) (depth : Nat) : List Octets → Bool
    | ['-', 'n', 'a', 'm', 'e'] :: pattern :: rest =>
      Pattern.isMatch (Pattern.compile (pattern.map fun c => (c, false))) (baseName name) &&
        holds name path depth rest
    | ['-', 't', 'y', 'p', 'e'] :: kind :: rest =>
      (if kind = ['d'] then files.isDirectory path else files.isFile path) && holds name path depth rest
    | option :: value :: rest =>
      if option = "-maxdepth".toList then
        depth ≤ (Octets.toNat? value).getD depth && holds name path depth rest
      else if option = "-mindepth".toList then
        (Octets.toNat? value).getD 0 ≤ depth && holds name path depth rest
      else holds name path depth (value :: rest)
    | _ => true
  let mut status := 0
  for start in starts do
    match (← Exec.resolve start).bind fun path => (files.locate path).map fun _ => path with
    | .error e =>
      complain "find" (quoted start ++ Octets.ofText (": " ++ e.description))
      status := 1
    | .ok top =>
      for (name, path) in walk files (walkFuel files) top start do
        if holds name path (path.length - top.length) conditions then
          Exec.write 1 (name ++ ['\n'])
  return status

end Assay.Sandbox.Tool
