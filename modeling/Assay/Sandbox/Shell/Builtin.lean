import Assay.Sandbox.Shell.Expansion
import Assay.Sandbox.Shell.Reader
import Assay.Sandbox.Tool.Printing
import Assay.Sandbox.Tool.Test

/-!
Commands that the shell carries out itself.
-/

namespace Assay.Sandbox.Shell

open Files (Path SystemError)

/-- A command of the shell gets its words and changes the shell. -/
abbrev Builtin := Engine → List Octets → Exec Nat

/-- Run the commands of a text one after another. -/
def runFrom (e : Engine) : Nat → Place → Exec Unit
  | 0, _ => return
  | fuel + 1, p => do
    match nextCommand p with
    | .error misread =>
      Exec.modifyProcess fun s => { s with line := misread.line }
      fatal (Octets.ofText ("Syntax error: " ++ misread.message))
    | .ok none => return
    | .ok (some (body, p)) =>
      if !(← Exec.process).options.noexec then e.run body
      runFrom e fuel p

def runText (e : Engine) (text : Octets) : Exec Unit := runFrom e (text.length + 1) ⟨text, 1, 0⟩

/-! ### Traps and signals -/

/-- The name that a trap is kept under. -/
def trapName (signal : Nat) : Octets := Octets.ofNat signal

def trap? (signal : Nat) : Exec (Option Octets) := do
  return (← Exec.process).traps.lookup (trapName signal)

/-- Run the action of a trap; the status is afterwards what it was before. -/
def runTrap (e : Engine) (action : Octets) : Exec Unit := do
  let status := (← Exec.process).status
  runText e action
  setStatus status

/-- A process sends a signal to the shell it belongs to. -/
def receive (e : Engine) (target signal : Nat) : Exec Unit := do
  if signal = 9 then throw (.killed target signal)
  if signal = 19 then throw .expired
  match ← trap? signal with
  | some [] => return
  | some action => if (← Exec.process).id = target then runTrap e action else throw (.killed target signal)
  | none => if !isHarmless signal then throw (.killed target signal)

/-- Take back what a job has written after some time, and end it there. -/
def endJob (job : Job) (signal : Nat) : Exec Unit := do
  let now := (← Exec.machine).clock
  Exec.modifyMachine fun m =>
    { m with channels := m.channels.map fun
      | .sink chunks piped => .sink (chunks.filter fun c => c.job != job.process || c.time ≤ now) piped
      | c => c }
  Exec.modifyProcess fun p =>
    { p with jobs := p.jobs.map fun j =>
      if j.process = job.process then { j with ends := now, status := 128 + signal } else j }

/-- The signal of `kill`, and the processes that get it. -/
def killArguments : List Octets → Except Octets (Nat × List Octets)
  | ['-', 's'] :: name :: targets =>
    match signalNumber? name with
    | some n => .ok (n, targets)
    | none => .error (Octets.ofText "invalid signal number or name: " ++ name)
  | ['-', '-'] :: targets => .ok (15, targets)
  | ('-' :: c :: cs) :: targets =>
    match signalNumber? (c :: cs) with
    | some n => .ok (n, targets)
    | none => .error (Octets.ofText "Illegal option -" ++ [c])
  | targets => .ok (15, targets)

def kill : Builtin := fun e words => do
  match killArguments words with
  | .error message =>
    report message
    return 2
  | .ok (_, []) =>
    report (Octets.ofText ("Usage: kill [-s sigspec | -signum | -sigspec] [pid | job]... or\n" ++
      "kill -l [exitstatus]"))
    return 2
  | .ok (signal, targets) =>
    let mut status := 0
    for target in targets do
      let p ← Exec.process
      let number := match target with
        | ['%', n] => (p.jobs.reverse[(Octets.toNat? [n]).getD 0 - 1]?).map Job.process
        | ['0'] => some p.shell
        | target => Octets.toNat? target
      let now := (← Exec.machine).clock
      match number with
      | none =>
        report (Octets.ofText "Illegal number: " ++ target)
        status := 2
      | some n =>
        if n = p.shell || n = p.id then
          if signal != 0 then receive e n signal
        else
          match p.jobs.find? fun j => j.process = n && now < j.ends with
          | some job => if signal != 0 && !isHarmless signal then endJob job signal
          | none =>
            report (Octets.ofText "No such process\n")
            status := 1
    return status

/-- A value in quotes, as a shell reads it. -/
def quotedValue (cs : Octets) : Octets :=
  '\'' :: (cs.flatMap fun c => if c = '\'' then "'\"'\"'".toList else [c]) ++ ['\'']

/-- Show traps in the form that would set them. -/
def showTraps : Exec Unit := do
  let traps := (← Exec.process).traps.filterMap fun (key, action) =>
    (Octets.toNat? key).map fun n => (n, action)
  for (n, action) in traps.mergeSort fun a b => a.1 ≤ b.1 do
    let name := if n = 0 then "EXIT" else
      ((signals.find? fun s => s.2 == n).map Prod.fst).getD (toString n)
    Exec.write 1 (Octets.ofText "trap -- " ++ quotedValue action ++ Octets.ofText (" " ++ name ++ "\n"))

def trap : Builtin := fun _ words => do
  let set (action : Option Octets) (names : List Octets) : Exec Nat := do
    let mut status := 0
    for name in names do
      match signalNumber? name with
      | none =>
        Exec.write 2 (Octets.ofText "trap: " ++ name ++ Octets.ofText ": bad trap\n")
        status := 1
      | some n =>
        Exec.modifyProcess fun p =>
          let others := p.traps.filter fun t => t.1 != trapName n
          { p with traps := match action with
            | some a => (trapName n, a) :: others
            | none => others }
    return status
  match words with
  | [] =>
    showTraps
    return 0
  | ['-', '-'] :: action :: names => set (some action) names
  | ['-'] :: names => set none names
  | [name] => set none [name]
  | action :: names =>
    if (Octets.toNat? action).isSome then set none (action :: names) else set (some action) names

/-- Wait for jobs. -/
def wait : Builtin := fun _ words => do
  let jobs := (← Exec.process).jobs
  if words.isEmpty then
    for job in jobs do
      Exec.waitUntil job.ends
    return 0
  let mut status := 0
  for word in words do
    let job := match word with
      | ['%', n] => jobs.reverse[(Octets.toNat? [n]).getD 0 - 1]?
      | word => (Octets.toNat? word).bind fun n => jobs.find? fun j => j.process = n
    match job with
    | none =>
      if word.head? != some '%' && (Octets.toNat? word).isNone then
        fatal (Octets.ofText "Illegal number: " ++ word)
      status := 127
    | some job =>
      Exec.waitUntil job.ends
      status := job.status
      if 128 < status then
        if let some message := signalMessage? (status - 128) then Exec.writeText 2 (message ++ "\n")
  return status

/-! ### Leaving -/

def exit : Builtin := fun _ words => do
  match words with
  | [] => throw (.exited (← Exec.process).status)
  | word :: _ =>
    match Octets.toNat? word with
    | some n => throw (.exited (n % 256))
    | none => fatal (Octets.ofText "Illegal number: " ++ word)

def returnFrom : Builtin := fun _ words => do
  match words with
  | [] => throw (.returned (← Exec.process).status)
  | word :: _ =>
    match Octets.toNat? word with
    | some n => throw (.returned (n % 256))
    | none => fatal (Octets.ofText "Illegal number: " ++ word)

/-- The number of loops that `break` and `continue` are about. -/
def levels (words : List Octets) : Exec Nat := do
  match words with
  | [] => return 1
  | word :: _ =>
    match Octets.toNat? word with
    | some (n + 1) => return n + 1
    | _ => fatal (Octets.ofText "Illegal number: " ++ word)

def breakLoop : Builtin := fun _ words => do
  let n ← levels words
  let loops := (← Exec.process).loops
  setStatus 0
  if loops = 0 then return 0
  throw (.broke (min n loops))

def continueLoop : Builtin := fun _ words => do
  let n ← levels words
  let loops := (← Exec.process).loops
  setStatus 0
  if loops = 0 then return 0
  throw (.continued (min n loops))

/-! ### Variables -/

/-- The words of a command of the shell. Its options come first. -/
def argumentsOf (options : String) (words : List Octets) : Exec Tool.Arguments := do
  let u := Tool.Usage.of "" options []
  let rec collect : List Octets → Tool.Arguments → Except Octets Tool.Arguments
    | [], a => .ok a
    | word :: rest, a =>
      match word with
      | ['-', '-'] => .ok { a with operands := rest }
      | '-' :: c :: cs =>
        match u.readCluster (c :: cs), rest with
        | .error _, _ =>
          let known (d : Char) : Bool := (u.takesValue? d).isSome
          .error (Octets.ofText "Illegal option -" ++ ((c :: cs).dropWhile known).take 1)
        | .ok (os, none), rest => collect rest { a with options := a.options ++ os }
        | .ok (os, some d), value :: rest =>
          collect rest { a with options := a.options ++ os ++ [(d, value)] }
        | .ok (_, some d), [] => .error (Octets.ofText s!"No arg for -{d} option")
      | word => .ok { a with operands := word :: rest }
  match collect words ⟨[], []⟩ with
  | .ok a => return a
  | .error message => fatal message

/-- The name and the value of a word of `export` and its like. -/
def nameAndValue (word : Octets) : Octets × Option Octets :=
  let name := word.takeWhile (· != '=')
  match word.dropWhile (· != '=') with
  | [] => (name, none)
  | _ :: value => (name, some value)

/-- Change the marks of variables, and their values where values are given. -/
def markVariables (mark : Variable → Variable) (words : List Octets) : Exec Nat := do
  let a ← argumentsOf "p" words
  for word in a.operands do
    let (name, value) := nameAndValue word
    if !isName name then fatal (name ++ Octets.ofText ": bad variable name")
    if let some value := value then setValue name value
    let v := (← knownVariable? name).getD ⟨none, false, false⟩
    putVariable name (some (mark v))
  return 0

/-- Show variables in the form that would set them. -/
def showVariables (before : String) (vs : List (Octets × Variable)) : Exec Unit := do
  let sorted := vs.mergeSort fun a b => Tool.compareOctets a.1 b.1 != .gt
  for (name, v) in sorted do
    Exec.write 1 (Octets.ofText before ++ name ++
      ((v.value.map fun x => '=' :: quotedValue x).getD []) ++ ['\n'])

def exportVariables : Builtin := fun _ words => do
  if words.isEmpty || words = [['-', 'p']] then
    showVariables "export " ((← Exec.process).bindings.filter fun v => v.2.exported)
    return 0
  markVariables (fun v => { v with exported := true }) words

def fixVariables : Builtin := fun _ words => do
  if words.isEmpty || words = [['-', 'p']] then
    showVariables "readonly " ((← Exec.process).bindings.filter fun v => v.2.fixed)
    return 0
  markVariables (fun v => { v with fixed := true }) words

/-- Variables that last as long as the function that is being run. -/
def localVariables : Builtin := fun _ words => do
  match (← Exec.process).hidden with
  | [] => fatal (Octets.ofText "not in a function")
  | _ =>
    for word in words do
      let (name, value) := nameAndValue word
      let old ← knownVariable? name
      Exec.modifyProcess fun p =>
        { p with hidden := match p.hidden with
          | level :: rest =>
            (if level.any fun h => h.1 == name then level else (name, old) :: level) :: rest
          | [] => [] }
      if let some value := value then setValue name value
    return 0

def unset : Builtin := fun _ words => do
  let a ← argumentsOf "fv" words
  for name in a.operands do
    if a.has 'f' then
      Exec.modifyProcess fun p => { p with functions := p.functions.filter fun f => f.1 != name }
    else
      match ← knownVariable? name with
      | some v =>
        if v.fixed then fatal (name ++ Octets.ofText ": is read only")
        putVariable name none
      | none => pure ()
  return 0

def shift : Builtin := fun _ words => do
  let arguments := (← Exec.process).arguments
  let count := match words with
    | word :: _ => Octets.toNat? word
    | [] => some 1
  match count with
  | none => fatal (Octets.ofText "Illegal number: " ++ words.headD [])
  | some n =>
    if arguments.length < n then fatal (Octets.ofText "can't shift that many")
    Exec.modifyProcess fun p => { p with arguments := arguments.drop n }
    return 0

/-- Set or clear the option of a letter. -/
def setOption (on : Bool) (letter : Char) (o : Options) : Option Options :=
  match letter with
  | 'e' => some { o with errexit := on }
  | 'u' => some { o with nounset := on }
  | 'n' => some { o with noexec := on }
  | 'f' => some { o with noglob := on }
  | 'x' => some { o with xtrace := on }
  | c => if ['a', 'b', 'C', 'h', 'm', 'v', 'i', 's', 'I', 'V', 'E'].contains c then some o else none

def optionNames : List (String × Char) :=
  [("errexit", 'e'), ("nounset", 'u'), ("noexec", 'n'), ("noglob", 'f'), ("xtrace", 'x'),
    ("verbose", 'v'), ("allexport", 'a'), ("noclobber", 'C'), ("monitor", 'm')]

/-- Take the options at the front of some words. -/
def takeOptions : List Octets → Options → Exec (Options × Option (List Octets))
  | [], o => return (o, none)
  | ['-', '-'] :: rest, o => return (o, some rest)
  | [sign, 'o'] :: name :: rest, o => do
    match optionNames.lookup (String.ofList name) with
    | some letter => takeOptions rest ((setOption (sign == '-') letter o).getD o)
    | none => fatal (Octets.ofText "Illegal option -o " ++ name)
  | (sign :: c :: cs) :: rest, o => do
    if sign != '-' && sign != '+' then return (o, some ((sign :: c :: cs) :: rest))
    let mut o := o
    for letter in c :: cs do
      match setOption (sign == '-') letter o with
      | some changed => o := changed
      | none => fatal (Octets.ofText "Illegal option -" ++ [letter])
    takeOptions rest o
  | words, o => return (o, some words)

def set : Builtin := fun _ words => do
  if words.isEmpty then
    showVariables "" ((← Exec.process).bindings.filter fun v => v.2.value.isSome)
    return 0
  let (options, arguments) ← takeOptions words (← Exec.process).options
  Exec.modifyProcess fun p =>
    { p with options, arguments := arguments.getD p.arguments }
  return 0

/-! ### Reading -/

/-- A line with its backslashes resolved: they quote the octet after them and join lines. -/
def readGlyphs : Nat → Bool → Exec (List Glyph × Bool)
  | 0, _ => return ([], false)
  | fuel + 1, raw => do
    let (line, ended) ← Exec.takeLine 0
    let line := line.filter (· != '\x00')
    if raw then return (line.map .expanded, ended)
    let rec resolve : Octets → List Glyph × Bool
      | '\\' :: c :: rest =>
        let (glyphs, joined) := resolve rest
        (.quoted c :: glyphs, joined)
      | ['\\'] => ([], true)
      | c :: rest =>
        let (glyphs, joined) := resolve rest
        (.expanded c :: glyphs, joined)
      | [] => ([], false)
    let (glyphs, joined) := resolve line
    if joined && ended then
      let (more, ended) ← readGlyphs fuel raw
      return (glyphs ++ more, ended)
    return (glyphs, ended)

/-- Whether a glyph is a separator, or one that is a blank. -/
def isSeparator (ifs : Octets) (blank : Bool) : Glyph → Bool
  | .expanded c => ifs.contains c && (!blank || c == ' ' || c == '\t' || c == '\n')
  | _ => false

/-- Cut a line into a number of fields; the last field takes what is left. -/
def readFields (ifs : Octets) : Nat → List Glyph → List Octets
  | 0, _ => []
  | 1, glyphs =>
    let glyphs := glyphs.dropWhile (isSeparator ifs true)
    let fields := fieldsOf ifs glyphs
    if fields.length ≤ 1 then [(fields.headD []).map Prod.fst]
    else [Glyph.text ((glyphs.reverse.dropWhile (isSeparator ifs true)).reverse)]
  | count + 2, glyphs =>
    let glyphs := glyphs.dropWhile (isSeparator ifs true)
    let field := glyphs.takeWhile fun g => !isSeparator ifs false g
    let rest := (glyphs.drop field.length).dropWhile (isSeparator ifs true)
    let rest := match rest with
      | g :: others => if isSeparator ifs false g && !isSeparator ifs true g then others else rest
      | [] => []
    Glyph.text field :: readFields ifs (count + 1) rest

def read : Builtin := fun _ words => do
  let a ← argumentsOf "rp:" words
  if a.operands.isEmpty then fatal (Octets.ofText "arg count")
  if let some prompt := a.value? 'p' then Exec.write 2 prompt
  let (glyphs, ended) ← readGlyphs 100000 (a.has 'r')
  let fields := readFields (← separators) a.operands.length glyphs
  for (name, value) in a.operands.zip fields do
    if !isName name then fatal (name ++ Octets.ofText ": bad variable name")
    setValue name value
  return if ended then 0 else 1

/-! ### Directories -/

def changeDirectory : Builtin := fun _ words => do
  let p ← Exec.process
  let a ← argumentsOf "LP" words
  let target : Option Octets := match a.operands with
    | [] => (p.bindings.lookup "HOME".toList).bind Variable.value
    | ['-'] :: _ =>
      some (((p.bindings.lookup "OLDPWD".toList).bind Variable.value).getD
        (Octets.ofText (Path.toText p.directory)))
    | word :: _ => some word
  match target with
  | none => return 0
  | some target =>
    let files := (← Exec.machine).files
    match files.resolve p.directory target.toText with
    | .ok path =>
      if files.isDirectory path then
        setExported "OLDPWD".toList (Octets.ofText (Path.toText p.directory))
        setExported "PWD".toList (Octets.ofText (Path.toText path))
        Exec.modifyProcess fun p => { p with directory := path }
        if a.operands.head? = some ['-'] then Exec.writeText 1 (Path.toText path ++ "\n")
        return 0
    | .error _ => pure ()
    report (Octets.ofText "can't cd to " ++ target)
    return 2

def showDirectory : Builtin := fun _ words => do
  let _ ← argumentsOf "LP" words
  Exec.writeText 1 (Path.toText (← Exec.process).directory ++ "\n")
  return 0

/-! ### The tables -/

/-- Commands whose failures end the script, and whose assignments last. -/
def special : List (String × Builtin) :=
  [(":", fun _ _ => return 0), ("break", breakLoop), ("continue", continueLoop), ("exit", exit),
    ("export", exportVariables), ("readonly", fixVariables), ("return", returnFrom), ("set", set),
    ("shift", shift), ("trap", trap), ("unset", unset),
    ("times", fun _ _ => do
      Exec.writeText 1 "0m0.000000s 0m0.000000s\n0m0.000000s 0m0.000000s\n"
      return 0)]

/-- Commands that could be programs of their own. -/
def ordinary : List (String × Builtin) :=
  [("cd", changeDirectory), ("echo", fun _ => Tool.echo), ("false", fun _ _ => return 1),
    ("kill", kill), ("local", localVariables),
    ("printf", fun _ => Tool.printf report), ("pwd", showDirectory), ("read", read),
    ("test", fun _ => Tool.test false report),
    ("[", fun _ => Tool.test true report), ("true", fun _ _ => return 0), ("wait", wait),
    ("umask", fun _ _ => return 0), ("ulimit", fun _ _ => return 0), ("hash", fun _ _ => return 0),
    ("alias", fun _ _ => return 0), ("unalias", fun _ _ => return 0), ("jobs", fun _ _ => return 0)]

end Assay.Sandbox.Shell
