import Assay.Files.Tree
import Assay.Sandbox.Shell.Script

/-!
A machine that runs processes one at a time, on a clock of its own: what processes read and write,
what they wait for, and how they end.
-/

namespace Assay.Sandbox

open Files (Path SystemError Tree)

/-- A stream of octets: a beginning, and a part that comes again and again unless it is empty. -/
structure Flow where
  start : Octets
  cycle : Octets
  deriving DecidableEq, Repr

/-- Octets written at a time, by the main program or by a background job. -/
structure Chunk where
  time : Nat
  job : Nat
  flow : Flow

/-- What a descriptor leads to. -/
inductive Channel where
  /-- Input that is complete from the time `ready` on. -/
  | source (flow : Flow) (ready : Nat)
  /-- Collected output, the last chunk first. The reader of a pipe may stop early. -/
  | sink (chunks : List Chunk) (piped : Bool)
  | file (path : Path) (offset : Nat) (append : Bool)
  | null

/-- Why a process stops before the end of its script. -/
inductive Stop where
  /-- It would still be going when the watch ends. -/
  | expired
  | exited (status : Nat)
  | killed (process signal : Nat)
  | broke (levels : Nat)
  | continued (levels : Nat)
  | returned (status : Nat)
  deriving DecidableEq, Repr

/-- What all processes share. Times are in nanoseconds. -/
structure Machine where
  files : Tree
  channels : Array Channel
  clock : Nat
  deadline : Nat
  /-- The background job that is running; zero for the main program. -/
  job : Nat
  nextProcess : Nat
  /-- A signal that a background job is going to send: the time, the process and the signal. -/
  alarm : Option (Nat × Nat × Nat)

structure Variable where
  /-- None for a name that is marked but has no value. -/
  value : Option Octets
  exported : Bool
  fixed : Bool
  deriving DecidableEq, Repr

/-- A background job, which has been run in advance. -/
structure Job where
  process : Nat
  ends : Nat
  status : Nat
  deriving DecidableEq, Repr

structure Options where
  /-- Leave at the first failure. -/
  errexit : Bool
  /-- Refuse unset parameters. -/
  nounset : Bool
  /-- Read commands without running them. -/
  noexec : Bool
  /-- Leave patterns alone. -/
  noglob : Bool
  /-- Show commands. -/
  xtrace : Bool
  deriving DecidableEq, Repr

/-- What a process has of its own. -/
structure Process where
  id : Nat
  /-- The process that `$$` names. -/
  shell : Nat
  directory : Path
  descriptors : List (Nat × Nat)
  bindings : List (Octets × Variable)
  arguments : List Octets
  name : Octets
  /-- The command of the shell that is being carried out, which messages name. -/
  command : Option Octets
  status : Nat
  line : Nat
  functions : List (Octets × Shell.Command)
  traps : List (Octets × Octets)
  jobs : List Job
  lastJob : Option Nat
  /-- The status of the last command substitution in the command that is being run. -/
  substituted : Option Nat
  options : Options
  /-- Failures are looked at, so that they do not end the script. -/
  guarded : Bool
  /-- Loops that are being run. -/
  loops : Nat
  /-- Values that local variables hide, one list for each function that is being run. -/
  hidden : List (List (Octets × Option Variable))

structure State where
  machine : Machine
  process : Process

/-- An action of a process. -/
abbrev Exec := ExceptT Stop (StateM State)

namespace Exec

def machine : Exec Machine := return (← get).machine

def process : Exec Process := return (← get).process

def modifyMachine (f : Machine → Machine) : Exec Unit :=
  modify fun s => { s with machine := f s.machine }

def modifyProcess (f : Process → Process) : Exec Unit :=
  modify fun s => { s with process := f s.process }

/-- Go on at a later time, if the watch has not ended by then and no signal comes before. -/
def waitUntil (time : Nat) : Exec Unit := do
  let m ← machine
  if let some (due, process, signal) := m.alarm then
    if due ≤ max m.clock time && due < m.deadline then
      modifyMachine fun m => { m with clock := max m.clock due, alarm := none }
      throw (.killed process signal)
  if m.clock < time then modifyMachine fun m => { m with clock := min time m.deadline }
  if m.deadline ≤ max m.clock time then throw .expired

def spend (nanoseconds : Nat) : Exec Unit := do waitUntil ((← machine).clock + nanoseconds)

/-- Run an action; its stop is a result. -/
def catching {α : Type} (action : Exec α) : Exec (Except Stop α) := fun s =>
  match action.run s with
  | (result, s) => (.ok result, s)

/-- Run an action as another process: only what processes share is kept. -/
def apart {α : Type} (action : Exec α) : Exec α := do
  let before ← process
  let result ← catching action
  modifyProcess fun _ => before
  match result with
  | .ok value => return value
  | .error stop => throw stop

/-! ### Channels -/

def openChannel (c : Channel) : Exec Nat := do
  let n := (← machine).channels.size
  modifyMachine fun m => { m with channels := m.channels.push c }
  return n

def channelNumber? (descriptor : Nat) : Exec (Option Nat) := do
  return (← process).descriptors.lookup descriptor

def channel? (descriptor : Nat) : Exec (Option (Nat × Channel)) := do
  match ← channelNumber? descriptor with
  | none => return none
  | some n => return (← machine).channels[n]?.map fun c => (n, c)

def setChannel (n : Nat) (c : Channel) : Exec Unit :=
  modifyMachine fun m => { m with channels := m.channels.setIfInBounds n c }

def setDescriptor (descriptor : Nat) (n : Option Nat) : Exec Unit :=
  modifyProcess fun p =>
    let others := p.descriptors.filter fun d => d.1 != descriptor
    { p with descriptors := match n with
      | some n => (descriptor, n) :: others
      | none => others }

/-- Write octets into a file at an offset; a gap before the offset is filled with zeros. -/
def overwrite (content : List UInt8) (offset : Nat) (bytes : List UInt8) : List UInt8 :=
  content.take offset ++ List.replicate (offset - content.length) 0 ++ bytes ++
    content.drop (offset + bytes.length)

/-- Write a flow to a descriptor. The result says whether there is anything to write to. A flow
without an end goes on until its reader has enough; to anything but a pipe it goes on for ever. -/
def writeFlow (descriptor : Nat) (flow : Flow) : Exec Bool := do
  match ← channel? descriptor with
  | none => return false
  | some (_, .source ..) => return false
  | some (_, .null) =>
    if !flow.cycle.isEmpty then throw .expired
    return true
  | some (n, .sink chunks piped) =>
    let m ← machine
    let kept : Flow := if piped then flow else ⟨flow.start, []⟩
    if !kept.start.isEmpty || !kept.cycle.isEmpty then
      setChannel n (.sink (⟨m.clock, m.job, kept⟩ :: chunks) piped)
    if !flow.cycle.isEmpty && !piped then throw .expired
    return true
  | some (n, .file path offset append) =>
    if !flow.cycle.isEmpty then throw .expired
    match (← machine).files.read path with
    | .error _ => return true
    | .ok content =>
      let bytes := flow.start.toBytes
      let offset := if append then content.length else offset
      match (← machine).files.write path (overwrite content offset bytes) with
      | .error _ => return false
      | .ok files =>
        modifyMachine fun m => { m with files }
        setChannel n (.file path (offset + bytes.length) append)
        return true

def write (descriptor : Nat) (cs : Octets) : Exec Unit := do
  let _ ← writeFlow descriptor ⟨cs, []⟩

def writeText (descriptor : Nat) (s : String) : Exec Unit := write descriptor (.ofText s)

/-- Take everything that is left to read. -/
def takeFlow (descriptor : Nat) : Exec Flow := do
  match ← channel? descriptor with
  | some (n, .source flow ready) =>
    waitUntil (max ready (← machine).clock)
    setChannel n (.source ⟨[], flow.cycle⟩ ready)
    return flow
  | some (n, .file path offset append) =>
    match (← machine).files.read path with
    | .error _ => return ⟨[], []⟩
    | .ok content =>
      setChannel n (.file path (max offset content.length) append)
      return ⟨.ofBytes (content.drop offset), []⟩
  | _ => return ⟨[], []⟩

/-- Take everything that is left; to an input without an end this never comes to an end. -/
def takeAll (descriptor : Nat) : Exec Octets := do
  let flow ← takeFlow descriptor
  if !flow.cycle.isEmpty then throw .expired
  return flow.start

/-- Put back what was taken and not used. -/
def putBack (descriptor : Nat) (cs : Octets) : Exec Unit := do
  match ← channel? descriptor with
  | some (n, .source flow ready) => setChannel n (.source ⟨if flow.start.isEmpty then cs else cs ++ flow.start, flow.cycle⟩ ready)
  | some (n, .file path offset append) => setChannel n (.file path (offset - cs.length) append)
  | _ => return

/-- Take a line, octet by octet. The result says whether its newline was there. -/
def takeLine (descriptor : Nat) : Exec (Octets × Bool) := do
  let flow ← takeFlow descriptor
  let cs := if flow.start.contains '\n' then flow.start else flow.start ++ flow.cycle
  match cs.dropWhile (· != '\n') with
  | [] =>
    if !flow.cycle.isEmpty then throw .expired
    return (cs, false)
  | _ :: rest =>
    putBack descriptor rest
    return (cs.takeWhile (· != '\n'), true)

/-- The first octets of a flow. -/
def firstOf (count : Nat) (flow : Flow) : Octets :=
  if flow.cycle.isEmpty || count ≤ flow.start.length then flow.start.take count
  else
    let missing := count - flow.start.length
    let copies := (List.replicate (missing / flow.cycle.length + 1) flow.cycle).flatten
    flow.start ++ copies.take missing

/-- The flow that a sink has collected, in the order of time. Everything after a part without an
end is lost. -/
def collect (chunks : List Chunk) : Flow :=
  let ordered := (chunks.reverse).mergeSort fun a b => a.time ≤ b.time
  let finite := ordered.takeWhile fun c => c.flow.cycle.isEmpty
  let rest := ordered.drop finite.length
  let start := finite.flatMap fun c => c.flow.start
  match rest with
  | [] => ⟨start, []⟩
  | c :: _ => ⟨start ++ c.flow.start, c.flow.cycle⟩

/-! ### Files -/

/-- The path of a name, in the directory of the process. -/
def resolve (name : Octets) : Exec (Except SystemError Path) := do
  if name.isEmpty then return .error .noSuchFile
  return (← machine).files.resolve (← process).directory name.toText

/-- Change the files, if the change is possible. -/
def changeFiles (change : Tree → Except SystemError Tree) : Exec (Except SystemError Unit) := do
  match change (← machine).files with
  | .error e => return .error e
  | .ok files =>
    modifyMachine fun m => { m with files }
    return .ok ()

def node? (name : Octets) : Exec (Option Files.Node) := do
  match ← resolve name with
  | .error _ => return none
  | .ok path => return (← machine).files.find? path

/-! ### Devices -/

/-- Files that are not kept in a tree. -/
def device? (path : Path) : Option Channel :=
  match path with
  | ["dev", "null"] => some .null
  | ["dev", "zero"] => some (.source ⟨[], ['\x00']⟩ 0)
  | ["dev", "full"] => some (.source ⟨[], ['\x00']⟩ 0)
  | _ => none

/-- The descriptor that a path such as `/dev/stderr` stands for. -/
def standard? (path : Path) : Option Nat :=
  match path with
  | ["dev", "stdin"] => some 0
  | ["dev", "stdout"] => some 1
  | ["dev", "stderr"] => some 2
  | ["dev", "fd", n] => Octets.toNat? n.toList
  | _ => none

/-- Open a file for reading. -/
def openInput (name : Octets) : Exec (Except SystemError Nat) := do
  match ← resolve name with
  | .error e => return .error e
  | .ok path =>
    match device? path, standard? path with
    | some c, _ => return .ok (← openChannel c)
    | none, some d =>
      match ← channelNumber? d with
      | some n => return .ok n
      | none => return .error .noSuchFile
    | none, none =>
      match (← machine).files.locate path with
      | .error e => return .error e
      | .ok _ => return .ok (← openChannel (.file path 0 false))

/-- Open a file for writing; it is emptied unless something is to be added to it. -/
def openOutput (name : Octets) (append keep : Bool) : Exec (Except SystemError Nat) := do
  match ← resolve name with
  | .error e => return .error e
  | .ok path =>
    match device? path, standard? path with
    | some _, _ => return .ok (← openChannel .null)
    | none, some d =>
      match ← channelNumber? d with
      | some n => return .ok n
      | none => return .error .noSuchFile
    | none, none =>
      let files := (← machine).files
      let content := if append || keep then (files.read path).toOption.getD [] else []
      match ← changeFiles fun files => files.write path content with
      | .error e => return .error e
      | .ok () => return .ok (← openChannel (.file path 0 append))

/-- The content of a file. -/
def readFile (name : Octets) : Exec (Except SystemError Flow) := do
  match ← resolve name with
  | .error e => return .error e
  | .ok path =>
    match device? path, standard? path with
    | some (.source flow _), _ => return .ok flow
    | some _, _ => return .ok ⟨[], []⟩
    | none, some d => return .ok (← takeFlow d)
    | none, none =>
      match (← machine).files.read path with
      | .error e => return .error e
      | .ok content => return .ok ⟨.ofBytes content, []⟩

end Exec

end Assay.Sandbox
