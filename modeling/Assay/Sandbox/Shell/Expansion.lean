import Assay.Sandbox.Pattern
import Assay.Sandbox.Shell.Arithmetic
import Assay.Sandbox.Shell.Parameters

/-!
Expanding the words of commands: parameters, substitutions and arithmetic are put in, the result
is cut into fields, and fields that are patterns become file names.
-/

namespace Assay.Sandbox.Shell

open Files (Path Tree)
open Pattern (Marked)

/-- A part of an expanded word. -/
inductive Glyph where
  | plain (c : Char)
  | quoted (c : Char)
  /-- It comes from a parameter without quotes, so it may cut fields. -/
  | expanded (c : Char)
  /-- The end of a field. -/
  | edge
  /-- A field is here, even if nothing is in it. -/
  | present
  deriving DecidableEq, Repr

/-- What the parts of a script mean, as far as it is nested in other parts. -/
structure Engine where
  /-- Run commands. -/
  run : Body → Exec Unit
  /-- Expand a word. -/
  expand : Word → Exec (List Glyph)

namespace Glyph

/-- The octets of a text, quoted or not. -/
def ofText (quotes : Bool) (cs : Octets) : List Glyph :=
  if quotes then .present :: cs.map .quoted else cs.map .expanded

/-- The octet of a glyph; the end of a field counts as a blank. -/
def octet? : Glyph → Option Char
  | .plain c => some c
  | .quoted c => some c
  | .expanded c => some c
  | .edge => some ' '
  | .present => none

/-- The octet and whether it stands for itself in a pattern. -/
def marked? : Glyph → Option Marked
  | .quoted c => some (c, true)
  | g => g.octet?.map fun c => (c, false)

def text (glyphs : List Glyph) : Octets := glyphs.filterMap octet?

def marks (glyphs : List Glyph) : List Marked := glyphs.filterMap marked?

/-- Glyphs of a word that stands in the place of a parameter. -/
def asExpanded : Glyph → Glyph
  | .plain c => .expanded c
  | g => g

end Glyph

/-! ### Fields -/

/-- Cutting glyphs into fields. -/
structure Cutting where
  /-- The fields that are complete, the last one first. -/
  fields : List (List Marked)
  /-- The open field, if there is one, the last octet first. -/
  current : Option (List Marked)
  /-- A blank has just ended a field, so that a separator that follows belongs to its end. -/
  afterBlank : Bool

namespace Cutting

def add (k : Cutting) (m : Marked) : Cutting :=
  { k with current := some (m :: k.current.getD []), afterBlank := false }

def close (k : Cutting) : Cutting :=
  match k.current with
  | none => k
  | some field => { k with fields := field.reverse :: k.fields, current := none }

def step (ifs : Octets) (k : Cutting) : Glyph → Cutting
  | .plain c => k.add (c, false)
  | .quoted c => k.add (c, true)
  | .edge => { k.close with afterBlank := false }
  | .present => { k with current := some (k.current.getD []), afterBlank := false }
  | .expanded c =>
    if !ifs.contains c then k.add (c, false)
    else if c == ' ' || c == '\t' || c == '\n' then
      if k.current.isSome then { k.close with afterBlank := true } else k
    else if k.current.isSome then k.close
    else if k.afterBlank then { k with afterBlank := false }
    else { k with fields := [] :: k.fields }

end Cutting

def fieldsOf (ifs : Octets) (glyphs : List Glyph) : List (List Marked) :=
  ((glyphs.foldl (Cutting.step ifs) ⟨[], none, false⟩).close).fields.reverse

/-- Cut marked octets at slashes. -/
def components (field : List Marked) : List (List Marked) :=
  let step (pieces : List (List Marked)) (m : Marked) : List (List Marked) :=
    match pieces with
    | [] => [[m]]
    | piece :: rest => if m.1 = '/' then [] :: piece :: rest else (m :: piece) :: rest
  ((field.foldl step [[]]).map List.reverse).reverse

/-- The names that the components of a pattern lead to. -/
def namesFor (files : Tree) (path : Path) (before : Octets) : List (List Marked) → List Octets
  | [] => [before]
  | component :: rest =>
    let after (name : Octets) : Octets :=
      before ++ name ++ (if rest.isEmpty then [] else ['/'])
    let name : Octets := component.map Prod.fst
    if Pattern.isActive component then
      let pattern := Pattern.compile component
      let children := (files.children path).filter fun child =>
        let cs := Octets.ofText child
        Pattern.isMatch pattern cs && (cs.head? != some '.' || name.head? == some '.')
      children.flatMap fun child => namesFor files (path ++ [child]) (after (Octets.ofText child)) rest
    else
      let next := Path.resolve path name.toText
      if (files.find? next).isSome then namesFor files next (after name) rest else []

/-- The file names that a field stands for, or its own text if there are none. -/
def fileNames (files : Tree) (directory : Path) (field : List Marked) : List Octets :=
  let text := field.map Prod.fst
  if !Pattern.isActive field then [text]
  else
    let names := match components field with
      | [] :: rest => namesFor files [] ['/'] rest
      | pieces => namesFor files directory [] pieces
    if names.isEmpty then [text] else names

/-! ### Pieces -/

/-- The text of a word that makes one field. -/
def Engine.text (e : Engine) (word : Word) : Exec Octets := do
  return Glyph.text (← e.expand word)

/-- The shortest or longest start of a text that a pattern stands for is taken away. -/
def dropStart (longest : Bool) (pattern : List Pattern.Token) (cs : Octets) : Octets :=
  let lengths := List.range (cs.length + 1)
  let lengths := if longest then lengths.reverse else lengths
  match lengths.find? fun n => Pattern.isMatch pattern (cs.take n) with
  | some n => cs.drop n
  | none => cs

/-- The shortest or longest end of a text that a pattern stands for is taken away. -/
def dropEnd (longest : Bool) (pattern : List Pattern.Token) (cs : Octets) : Octets :=
  let lengths := List.range (cs.length + 1)
  let lengths := if longest then lengths else lengths.reverse
  match lengths.find? fun n => Pattern.isMatch pattern (cs.drop n) with
  | some n => cs.take n
  | none => cs

/-- The arguments as fields of their own. -/
def argumentGlyphs (quotes : Bool) (arguments : List Octets) : List Glyph :=
  match arguments with
  | [] => []
  | first :: rest =>
    Glyph.ofText quotes first ++ rest.flatMap fun a => .edge :: Glyph.ofText quotes a

/-- The value of a parameter, as glyphs; none if it is unset. -/
def parameterGlyphs? (name : Octets) (quotes : Bool) : Exec (Option (List Glyph)) := do
  let arguments := (← Exec.process).arguments
  match name with
  | ['@'] => return if arguments.isEmpty then none else some (argumentGlyphs quotes arguments)
  | ['*'] =>
    if arguments.isEmpty then return none
    if quotes then
      let separator := (← separators).take 1
      return some (Glyph.ofText true (Octets.join separator arguments))
    return some (argumentGlyphs false arguments)
  | name => return (← parameter? name).map (Glyph.ofText quotes)

def isList (name : Octets) : Bool := name == ['@'] || name == ['*']

/-- Expand a parameter. -/
def Engine.parameter (e : Engine) (name : Octets) (use : Use) (quotes : Bool) : Exec (List Glyph) := do
  let found ← parameterGlyphs? name quotes
  let empty := if quotes && name != ['@'] then [Glyph.present] else []
  let isEmpty := (found.map fun glyphs => (Glyph.text glyphs).isEmpty).getD true
  let lacks (alsoEmpty : Bool) : Bool := found.isNone || (alsoEmpty && isEmpty)
  let inPlace (word : Word) : Exec (List Glyph) := do
    let glyphs := (← e.expand word).map Glyph.asExpanded
    return if quotes then .present :: glyphs else glyphs
  match use with
  | .value =>
    match found with
    | some glyphs => return glyphs
    | none =>
      if (← Exec.process).options.nounset && !isList name then
        fatal (name ++ Octets.ofText ": parameter not set")
      return empty
  | .length =>
    if isList name then
      return Glyph.ofText quotes (Octets.ofNat (← Exec.process).arguments.length)
    return Glyph.ofText quotes (Octets.ofNat ((found.map Glyph.text).getD []).length)
  | .orElse alsoEmpty word => if lacks alsoEmpty then inPlace word else return found.getD empty
  | .orAssign alsoEmpty word =>
    if lacks alsoEmpty then
      let text ← e.text word
      setValue name text
      return Glyph.ofText quotes text
    return found.getD empty
  | .orFail alsoEmpty word =>
    if lacks alsoEmpty then
      let text ← e.text word
      let complaint := "parameter not set" ++ (if alsoEmpty then " or null" else "")
      let text := if word.isEmpty then Octets.ofText complaint else text
      fatal (name ++ [':', ' '] ++ text)
    return found.getD empty
  | .ifSet alsoEmpty word => if lacks alsoEmpty then return empty else inPlace word
  | .bad => fatal (Octets.ofText "Bad substitution")
  | .withoutStart longest word =>
    let pattern := Pattern.compile (Glyph.marks (← e.expand word))
    return Glyph.ofText quotes (dropStart longest pattern ((found.map Glyph.text).getD []))
  | .withoutEnd longest word =>
    let pattern := Pattern.compile (Glyph.marks (← e.expand word))
    return Glyph.ofText quotes (dropEnd longest pattern ((found.map Glyph.text).getD []))

/-- The value of an arithmetic expression. -/
def calculate (text : Octets) : Exec Octets := do
  let values := (← Exec.process).bindings
  let arguments := (← Exec.process).arguments
  let lookup (name : Octets) : Octets :=
    match Octets.toNat? name with
    | some n => (arguments[n - 1]?).getD []
    | none => ((values.lookup name).bind Variable.value).getD []
  match (Formula.read text).bind fun f => f.evaluate lookup [] with
  | .ok (n, assigned) =>
    for (name, value) in assigned.reverse do
      setValue name (Octets.ofInt value)
    return Octets.ofInt n
  | .error (.expression message) =>
    fatal (Octets.ofText s!"arithmetic expression: {message}: \"" ++ text ++ ['"'])
  | .error (.illegalNumber value) => fatal (Octets.ofText "Illegal number: " ++ value)

/-- Drop the newlines at the end of a text. -/
def dropNewlines (cs : Octets) : Octets := (cs.reverse.dropWhile (· == '\n')).reverse

/-- Processes that there may be in all. A script that starts more would not end in any time. -/
def maxProcesses : Nat := 20000

/-- The number of a new process. -/
def newProcess : Exec Nat := do
  let id := (← Exec.machine).nextProcess
  if maxProcesses ≤ id then throw .expired
  Exec.modifyMachine fun m => { m with nextProcess := id + 1 }
  return id

/-- Start a child: it has a number of its own, and traps other than those that ignore a signal are
gone. -/
def becomeChild : Exec Unit := do
  let id ← newProcess
  Exec.modifyProcess fun p =>
    { p with id, jobs := [], traps := p.traps.filter fun t => t.2.isEmpty }

/-- Time to start a process. -/
def forkTime : Nat := 300000

/-- Run an action as a child and wait for it; its exit status is the result. -/
def inChild (action : Exec Unit) : Exec Nat := do
  Exec.spend forkTime
  let (result, id) ← Exec.apart do
    becomeChild
    let id := (← Exec.process).id
    let result ← Exec.catching action
    let status := (← Exec.process).status
    return (result.map fun () => status, id)
  match result with
  | .ok status => return status
  | .error (.exited status) => return status
  | .error (.returned status) => return status
  | .error (.killed process signal) =>
    if process != id then throw (.killed process signal)
    if let some message := signalMessage? signal then Exec.writeText 2 (message ++ "\n")
    return 128 + signal
  | .error .expired => throw .expired
  | .error (.broke _) => return 0
  | .error (.continued _) => return 0

/-- Run an action with its output collected. -/
def collecting {α : Type} (action : Exec α) : Exec (Flow × α) := do
  let n ← Exec.openChannel (.sink [] true)
  let before ← Exec.channelNumber? 1
  Exec.setDescriptor 1 (some n)
  let result ← Exec.catching action
  Exec.setDescriptor 1 before
  match result with
  | .error stop => throw stop
  | .ok value =>
    match (← Exec.machine).channels[n]? with
    | some (.sink chunks _) => return (Exec.collect chunks, value)
    | _ => return (⟨[], []⟩, value)

/-- The output of commands, in the place of a word. -/
def Engine.substitute (e : Engine) (script : Body) : Exec Octets := do
  let (flow, status) ← collecting (inChild (e.run script))
  if !flow.cycle.isEmpty then throw .expired
  Exec.modifyProcess fun p => { p with substituted := some status }
  return dropNewlines (flow.start.filter (· != '\x00'))

def Engine.piece (e : Engine) : Piece → Exec (List Glyph)
  | .literal text quotes =>
    return if quotes then .present :: text.map .quoted else text.map .plain
  | .parameter name use quotes => e.parameter name use quotes
  | .substitution script quotes => return Glyph.ofText quotes (← e.substitute script)
  | .arithmetic expression quotes => do
    return Glyph.ofText quotes (← calculate (← e.text expression))
  | .home => return (← home).map .quoted

def Engine.pieces (e : Engine) : Word → Exec (List Glyph)
  | [] => return []
  | piece :: rest => do
    let glyphs ← e.piece piece
    return glyphs ++ (← e.pieces rest)

/-- The fields of a word. -/
def Engine.fields (e : Engine) (word : Word) : Exec (List Octets) := do
  let glyphs ← e.expand word
  let fields := fieldsOf (← separators) glyphs
  if (← Exec.process).options.noglob then return fields.map fun f => f.map Prod.fst
  let files := (← Exec.machine).files
  let directory := (← Exec.process).directory
  return fields.flatMap (fileNames files directory)

/-- The fields of several words. -/
def Engine.allFields (e : Engine) : List Word → Exec (List Octets)
  | [] => return []
  | word :: rest => do
    let fields ← e.fields word
    return fields ++ (← e.allFields rest)

end Assay.Sandbox.Shell
