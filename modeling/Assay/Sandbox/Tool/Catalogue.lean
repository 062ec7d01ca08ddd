import Assay.Sandbox.Tool.Calculation
import Assay.Sandbox.Tool.Files
import Assay.Sandbox.Tool.Printing
import Assay.Sandbox.Tool.Test

/-!
All tools by name.
-/

namespace Assay.Sandbox.Tool

open Files (Node Path Tree)

/-- A length of time such as `1.5` or `2m`, in nanoseconds; none if it has no end. -/
def duration? (word : Octets) : Option (Option Nat) :=
  if word = "infinity".toList || word = "inf".toList then some none
  else
    let (factor, digits) := match word.getLast? with
      | some 's' => (1, word.dropLast)
      | some 'm' => (60, word.dropLast)
      | some 'h' => (3600, word.dropLast)
      | some 'd' => (86400, word.dropLast)
      | _ => (1, word)
    match decimal? digits with
    | some (units, places) =>
      if units < 0 then none else some (some (units.toNat * factor * 10 ^ 9 / 10 ^ places))
    | none => none

def sleepUsage : Usage := .of "sleep" "" []

def sleep : Tool := sleepUsage.run fun a => do
  if a.operands.isEmpty then return ← sleepUsage.refuse (Octets.ofText "missing operand")
  let times := a.operands.map fun w => (w, duration? w)
  match times.find? fun t => t.2.isNone with
  | some (w, _) => sleepUsage.refuse (Octets.ofText "invalid time interval " ++ quoted w)
  | none =>
    if times.any fun t => t.2 == some none then throw .expired
    let total := times.foldl (fun n t => n + (t.2.join).getD 0) 0
    Exec.spend total
    return 0

def showDirectory : Tool := fun _ => do
  Exec.writeText 1 (Path.toText (← Exec.process).directory ++ "\n")
  return 0

/-- Show variables of the environment. -/
def printenv : Tool := fun words => do
  let vs := (← Exec.process).bindings.filterMap fun (name, v) =>
    if v.exported then v.value.map fun x => (name, x) else none
  if words.isEmpty then
    let sorted := vs.mergeSort fun a b => compareOctets a.1 b.1 != .gt
    Exec.write 1 (Octets.unlines (sorted.map fun (name, x) => name ++ '=' :: x))
    return 0
  let found := words.filterMap fun w => vs.lookup w
  Exec.write 1 (Octets.unlines found)
  return if found.length = words.length then 0 else 1

/-- The tools that need nothing but their words. -/
def all : List (String × Tool) :=
  [("basename", basename), ("cat", cat), ("chmod", chmod), ("cp", cp), ("cut", cut), ("dirname", dirname),
    ("echo", plainEcho), ("expr", expr), ("false", fun _ => return 1), ("find", find), ("fold", fold),
    ("grep", grep), ("head", head), ("ls", ls), ("mkdir", mkdir), ("mv", mv), ("paste", paste),
    ("printenv", printenv), ("printf", printf (complain "printf")), ("pwd", showDirectory), ("rev", rev),
    ("rm", rm), ("rmdir", rmdir), ("seq", seq), ("sleep", sleep), ("sort", sort), ("tac", tac),
    ("tail", tail), ("tee", tee), ("test", test false (complain "test")),
    ("[", test true (complain "[")), ("touch", touch), ("tr", tr), ("true", fun _ => return 0),
    ("uniq", uniq), ("wc", wc), ("yes", yes)]

/-- The programs that start other programs. -/
def starters : List String := ["sh", "dash", "env", "timeout"]

/-- The directories of the tools. -/
def directories : List Path := [["bin"], ["usr", "bin"]]

/-- The tool at a path. -/
def nameAt? (path : Path) : Option String :=
  if directories.contains path.dropLast then path.getLast? else none

/-- The files of a machine on which nothing has run yet. A tool is an empty file there. -/
def systemFiles : Tree :=
  let names := starters ++ all.map Prod.fst
  let directoryNodes : List (Path × Node) :=
    [(["bin"], .directory), (["usr"], .directory), (["usr", "bin"], .directory), (["dev"], .directory),
      (["etc"], .directory), (["tmp"], .directory), (["dev", "null"], .file [] false),
      (["dev", "zero"], .file [] false)]
  ⟨directoryNodes ++ directories.flatMap fun d => names.map fun n => (d ++ [n], .file [] true)⟩

end Assay.Sandbox.Tool
