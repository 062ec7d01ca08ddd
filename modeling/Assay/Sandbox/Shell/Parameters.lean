import Assay.Sandbox.Machine

/-!
Parameters of the shell, and what it says when something goes wrong.
-/

namespace Assay.Sandbox.Shell

/-- Say something on standard error, with the name of the script, the line and the command that is
being carried out. -/
def report (message : Octets) : Exec Unit := do
  let p ← Exec.process
  let command := match p.command with
    | some name => name ++ [':', ' ']
    | none => []
  Exec.write 2 (p.name ++ [':', ' '] ++ Octets.ofNat p.line ++ [':', ' '] ++ command ++ message ++ ['\n'])

/-- Say something and leave the script. -/
def fatal {α : Type} (message : Octets) : Exec α := do
  report message
  throw (.exited 2)

def setStatus (status : Nat) : Exec Unit := Exec.modifyProcess fun p => { p with status }

/-! ### Variables -/

def knownVariable? (name : Octets) : Exec (Option Variable) := do
  return (← Exec.process).bindings.lookup name

def value? (name : Octets) : Exec (Option Octets) := do
  return (← knownVariable? name).bind Variable.value

/-- Put a variable in the place of the one with its name, or take it away. -/
def putVariable (name : Octets) (v : Option Variable) : Exec Unit :=
  Exec.modifyProcess fun p =>
    let others := p.bindings.filter fun e => e.1 != name
    { p with bindings := match v with
      | some v => (name, v) :: others
      | none => others }

/-- Give a variable a value; one that is fixed refuses it. -/
def setValue (name value : Octets) : Exec Unit := do
  match ← knownVariable? name with
  | some v =>
    if v.fixed then fatal (name ++ Octets.ofText ": is read only")
    putVariable name (some { v with value := some value })
  | none => putVariable name (some ⟨some value, false, false⟩)

/-- Give a variable a value that programs see too. -/
def setExported (name value : Octets) : Exec Unit := do
  setValue name value
  if let some v ← knownVariable? name then putVariable name (some { v with exported := true })

/-- The variables that programs see. -/
def exported (p : Process) : List (Octets × Octets) :=
  p.bindings.filterMap fun (name, v) => if v.exported then v.value.map fun x => (name, x) else none

/-- The octets that cut the values of parameters into fields. -/
def separators : Exec Octets := do
  match ← knownVariable? ['I', 'F', 'S'] with
  | some v => return v.value.getD []
  | none => return [' ', '\t', '\n']

def home : Exec Octets := do
  match ← value? "HOME".toList with
  | some cs => return cs
  | none => return ['~']

/-- The letters of the options that are set. -/
def optionLetters (o : Options) : Octets :=
  (if o.errexit then ['e'] else []) ++ (if o.noglob then ['f'] else []) ++
    (if o.nounset then ['u'] else []) ++ (if o.xtrace then ['x'] else [])

/-- The value of a parameter other than the list of arguments. -/
def parameter? (name : Octets) : Exec (Option Octets) := do
  let p ← Exec.process
  match name with
  | ['#'] => return some (Octets.ofNat p.arguments.length)
  | ['?'] => return some (Octets.ofNat p.status)
  | ['$'] => return some (Octets.ofNat p.shell)
  | ['!'] => return p.lastJob.map Octets.ofNat
  | ['-'] => return some (optionLetters p.options)
  | ['0'] => return some p.name
  | name =>
    match Octets.toNat? name with
    | some n => return p.arguments[n - 1]?
    | none => value? name

/-! ### Signals -/

def signals : List (String × Nat) :=
  [("HUP", 1), ("INT", 2), ("QUIT", 3), ("ILL", 4), ("ABRT", 6), ("FPE", 8), ("KILL", 9), ("USR1", 10),
    ("SEGV", 11), ("USR2", 12), ("PIPE", 13), ("ALRM", 14), ("TERM", 15), ("CHLD", 17), ("CONT", 18),
    ("STOP", 19), ("TSTP", 20), ("TTIN", 21), ("TTOU", 22), ("URG", 23), ("WINCH", 28)]

/-- The number of a signal; `EXIT` has number zero. -/
def signalNumber? (word : Octets) : Option Nat :=
  match Octets.toNat? word with
  | some n => some n
  | none =>
    let s := (String.ofList word).toUpper
    let s := if s.startsWith "SIG" then String.ofList (s.toList.drop 3) else s
    if s = "EXIT" then some 0 else signals.lookup s

/-- What the shell says of a child that a signal ended. -/
def signalMessage? (signal : Nat) : Option String :=
  match signal with
  | 1 => some "Hangup"
  | 2 => none
  | 3 => some "Quit"
  | 4 => some "Illegal instruction"
  | 6 => some "Aborted"
  | 8 => some "Floating point exception"
  | 9 => some "Killed"
  | 11 => some "Segmentation fault"
  | 13 => none
  | 14 => some "Alarm clock"
  | 15 => some "Terminated"
  | n => some s!"Signal {n}"

/-- Signals that do nothing to a process that does not ask for them. -/
def isHarmless (signal : Nat) : Bool := [0, 17, 18, 23, 28].contains signal

end Assay.Sandbox.Shell
