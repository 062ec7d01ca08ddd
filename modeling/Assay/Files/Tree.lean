import Assay.Files.SystemError

/-!
A file tree: directories and files under absolute paths.
-/

namespace Assay.Files

/-- An absolute path, as the names from the root on. -/
abbrev Path := List String

namespace Path

/-- Cut a path text at slashes; `pending` holds the characters of the open name, the last first. -/
def namesFrom (pending : List Char) : List Char → List String
  | [] => [String.ofList pending.reverse]
  | c :: rest => if c = '/' then String.ofList pending.reverse :: namesFrom [] rest
    else namesFrom (c :: pending) rest

/-- Walk from a directory along names; a point stays and two points go up. -/
def walk (directory : Path) : List String → Path
  | [] => directory
  | name :: rest =>
    if name = "" ∨ name = "." then walk directory rest
    else if name = ".." then walk directory.dropLast rest
    else walk (directory ++ [name]) rest

def isAbsolute (text : String) : Bool := text.toList.head? == some '/'

/-- The path that a text means in a directory. -/
def resolve (directory : Path) (text : String) : Path :=
  walk (if isAbsolute text then [] else directory) (namesFrom [] text.toList)

def toText (p : Path) : String := "/" ++ "/".intercalate p

/-- The path text of a relative path in a directory, which may be relative as well. -/
def join (directory name : String) : String :=
  if directory.isEmpty || directory.toList.getLast? == some '/' then directory ++ name
  else directory ++ "/" ++ name

end Path

/-- What a path can lead to. -/
inductive Node where
  | directory
  | file (content : List UInt8) (executable : Bool)
  deriving DecidableEq

/-- The nodes below the root, each path at most once; the root is a directory by itself. -/
structure Tree where
  nodes : List (Path × Node)

namespace Tree

def empty : Tree := ⟨[]⟩

def find? (t : Tree) (p : Path) : Option Node :=
  if p.isEmpty then some .directory else t.nodes.lookup p

def isDirectory (t : Tree) (p : Path) : Bool := t.find? p == some .directory

def isFile (t : Tree) (p : Path) : Bool :=
  match t.find? p with
  | some (.file ..) => true
  | _ => false

/-- Put a node at a path, in the place of the one that was there. -/
def put (t : Tree) (p : Path) (node : Node) : Tree :=
  if (t.nodes.lookup p).isSome then
    ⟨t.nodes.map fun e => if e.1 == p then (p, node) else e⟩
  else ⟨t.nodes ++ [(p, node)]⟩

/-- The node at a path, or why there is none. -/
def locate (t : Tree) (p : Path) : Except SystemError Node :=
  match t.find? p with
  | some node => .ok node
  | none =>
    if (List.range p.length).any fun k => t.isFile (p.take k) then .error .notADirectory
    else if p.any fun name => 255 < name.utf8ByteSize then .error .nameTooLong
    else .error .noSuchFile

/-- Follow names one at a time. Every name but the last has to lead to a directory. -/
def follow (t : Tree) (here : Path) : List String → Except SystemError Path
  | [] => .ok here
  | name :: rest =>
    match t.locate here with
    | .error e => .error e
    | .ok (.file ..) => .error .notADirectory
    | .ok .directory =>
      if name = "" ∨ name = "." then t.follow here rest
      else if name = ".." then t.follow here.dropLast rest
      else if 255 < name.utf8ByteSize then .error .nameTooLong
      else t.follow (here ++ [name]) rest

/-- The path that a text leads to in a directory; its last name need not be there. -/
def resolve (t : Tree) (directory : Path) (text : String) : Except SystemError Path :=
  t.follow (if Path.isAbsolute text then [] else directory) (Path.namesFrom [] text.toList)

/-- The bytes of a file. -/
def read (t : Tree) (p : Path) : Except SystemError (List UInt8) :=
  match t.locate p with
  | .error e => .error e
  | .ok .directory => .error .isADirectory
  | .ok (.file content _) => .ok content

/-- The directory that a new node at `p` would stand in. -/
def parentOf (t : Tree) (p : Path) : Except SystemError Unit :=
  match t.locate p.dropLast with
  | .error e => .error e
  | .ok .directory =>
    if (p.getLast?.any fun name => 255 < name.utf8ByteSize) then .error .nameTooLong else .ok ()
  | .ok (.file ..) => .error .notADirectory

/-- Write a file; a file that is there keeps its permission. -/
def write (t : Tree) (p : Path) (content : List UInt8) : Except SystemError Tree :=
  match t.find? p with
  | some .directory => .error .isADirectory
  | some (.file _ executable) => .ok (t.put p (.file content executable))
  | none =>
    match t.parentOf p with
    | .error e => .error e
    | .ok () => .ok (t.put p (.file content false))

/-- Make one directory. -/
def makeDirectory (t : Tree) (p : Path) : Except SystemError Tree :=
  match t.find? p with
  | some _ => .error .alreadyExists
  | none =>
    match t.parentOf p with
    | .error e => .error e
    | .ok () => .ok (t.put p .directory)

/-- Make a directory and those above it that are missing. -/
def makeDirectories (t : Tree) (p : Path) : Except SystemError Tree :=
  (List.range (p.length + 1)).foldl (fun result k =>
    match result with
    | .error e => .error e
    | .ok t =>
      match t.find? (p.take k) with
      | some .directory => .ok t
      | some (.file ..) => .error (if k = p.length then .alreadyExists else .notADirectory)
      | none => .ok (t.put (p.take k) .directory)) (.ok t)

/-- Whether `p` is `top` or lies below it. -/
def isWithin (top p : Path) : Bool := top.isPrefixOf p

/-- The names in a directory, in increasing order. -/
def children (t : Tree) (p : Path) : List String :=
  let names := t.nodes.filterMap fun e =>
    if e.1.length == p.length + 1 && isWithin p e.1 then e.1.getLast? else none
  names.mergeSort fun a b => !decide (b < a)

/-- Remove a file, or a directory with everything in it. -/
def removeAll (t : Tree) (p : Path) : Except SystemError Tree :=
  match t.locate p with
  | .error e => .error e
  | .ok _ => .ok ⟨t.nodes.filter fun e => !isWithin p e.1⟩

/-- Let a file be executed, or not. -/
def setExecutable (t : Tree) (p : Path) (executable : Bool) : Except SystemError Tree :=
  match t.locate p with
  | .error e => .error e
  | .ok .directory => .ok t
  | .ok (.file content _) => .ok (t.put p (.file content executable))

end Tree

end Assay.Files
