import Assay.Sandbox.Shell.Builtin
import Assay.Sandbox.Tool.Catalogue

/-!
Running commands: simple ones, compound ones, pipelines and background jobs, and the programs that
they start.
-/

namespace Assay.Sandbox.Shell

open Files (Path SystemError Tree)

/-- Time for one command of the shell. -/
def commandTime : Nat := 10000

/-- Time to load a program. -/
def loadTime : Nat := 700000

/-! ### Redirections -/

/-- How the shell names the reason why a file cannot be opened. -/
def openingMessage (creating : Bool) (e : SystemError) : String :=
  match e with
  | .noSuchFile => if creating then "Directory nonexistent" else "No such file"
  | .notADirectory => if creating then "Directory nonexistent" else "No such file"
  | e => e.description

/-- Point a descriptor somewhere. The result says whether that was possible. -/
def Engine.redirect (e : Engine) : Redirection → Exec Bool
  | .here descriptor body => do
    let text ← e.text body
    Exec.setDescriptor descriptor (some (← Exec.openChannel (.source ⟨text, []⟩ 0)))
    return true
  | .file descriptor .duplicate target => do
    let text ← e.text target
    if text = ['-'] then
      Exec.setDescriptor descriptor none
      return true
    match Octets.toNat? text with
    | none => fatal (Octets.ofText "Syntax error: Bad fd number")
    | some n =>
      match ← Exec.channelNumber? n with
      | some channel =>
        Exec.setDescriptor descriptor (some channel)
        return true
      | none =>
        report (Octets.ofNat n ++ Octets.ofText ": Bad file descriptor")
        return false
  | .file descriptor how target => do
    let name ← e.text target
    let opened ← match how with
      | .input => Exec.openInput name
      | .append => Exec.openOutput name true false
      | .both => Exec.openOutput name false true
      | _ => Exec.openOutput name false false
    match opened with
    | .ok n =>
      Exec.setDescriptor descriptor (some n)
      return true
    | .error reason =>
      let creating := how != .input
      report (Octets.ofText (if creating then "cannot create " else "cannot open ") ++ name ++
        Octets.ofText (": " ++ openingMessage creating reason))
      return false

def Engine.redirectAll (e : Engine) : List Redirection → Exec Bool
  | [] => return true
  | r :: rest => do
    if ← e.redirect r then e.redirectAll rest else return false

/-- Run an action and put some of the shell's state back afterwards. -/
def restoring {α : Type} (back : Exec Unit) (action : Exec α) : Exec α := do
  let result ← Exec.catching action
  back
  match result with
  | .ok value => return value
  | .error stop => throw stop

/-- Run an action with redirections; `must` tells that the script ends if they fail. -/
def Engine.redirected (e : Engine) (must : Bool) (redirections : List Redirection)
    (action : Exec Unit) : Exec Unit := do
  let saved := (← Exec.process).descriptors
  restoring (Exec.modifyProcess fun p => { p with descriptors := saved }) do
    if ← e.redirectAll redirections then action
    else if must then throw (.exited 2)
    else setStatus 2

/-! ### Programs -/

/-- Why a program cannot be run. -/
inductive Unrunnable where
  | missing
  | denied

/-- The file of a program, if it can be executed. -/
def executable? (files : Tree) (path : Path) : Except Unrunnable Path :=
  match files.find? path with
  | some (.file _ true) => .ok path
  | some _ => .error .denied
  | none => .error .missing

/-- Where programs are looked for unless `PATH` says otherwise. -/
def defaultPath : Octets :=
  "/usr/local/sbin:/usr/local/bin:/usr/sbin:/usr/bin:/sbin:/bin".toList

/-- Find the program of a name in some directories. -/
def searchIn (files : Tree) (directory : Path) (name : Octets) : List Octets → Except Unrunnable Path
  | [] => .error .missing
  | place :: rest =>
    let path := Path.resolve (Path.resolve directory place.toText) name.toText
    match executable? files path with
    | .ok path => .ok path
    | .error .denied =>
      match searchIn files directory name rest with
      | .ok path => .ok path
      | .error _ => if files.isFile path then .error .denied else .error .missing
    | .error .missing => searchIn files directory name rest

/-- Find the program that a word means. -/
def findProgram (files : Tree) (directory : Path) (search : Octets) (word : Octets) :
    Except Unrunnable Path :=
  if word.contains '/' then
    match files.resolve directory word.toText with
    | .ok path => executable? files path
    | .error _ => .error .missing
  else if word.isEmpty then .error .missing
  else searchIn files directory word (Octets.splitAt ':' search)

def searchPath : Exec Octets := do
  return (← value? "PATH".toList).getD []

/-- The variables of a program that is no shell: its environment. -/
def givenVariables (environment : List (Octets × Octets)) : List (Octets × Variable) :=
  environment.map fun (name, x) => (name, ⟨some x, true, false⟩)

/-- The variables of a shell that has just been started: some that it sets itself, and its
environment. -/
def startingVariables (directory : Path) (environment : List (Octets × Octets)) :
    List (Octets × Variable) :=
  let own : List (Octets × Variable) :=
    [("PWD".toList, ⟨some (Octets.ofText (Path.toText directory)), true, false⟩),
      ("IFS".toList, ⟨some [' ', '\t', '\n'], false, false⟩),
      ("OPTIND".toList, ⟨some ['1'], false, false⟩)]
  let standard : List (Octets × Variable) :=
    [("PATH".toList, ⟨some defaultPath, false, false⟩), ("PS4".toList, ⟨some ['+', ' '], false, false⟩)]
  let given := givenVariables (environment.filter fun e => isName e.1 && (own.lookup e.1).isNone)
  own ++ given ++ standard.filter fun v => (given.lookup v.1).isNone

/-- What the options of a shell say about its script. -/
structure ShellWords where
  /-- The script is a word of the command line. -/
  inWords : Bool
  /-- The script comes from standard input, whatever the words. -/
  inInput : Bool
  options : Options
  words : List Octets

def noOptions : Options := ⟨false, false, false, false, false⟩

/-- Read the options of a shell. -/
def readShellWords : List Octets → ShellWords → Except Octets ShellWords
  | [], w => .ok { w with words := [] }
  | ['-', '-'] :: rest, w => .ok { w with words := rest }
  | [sign, 'o'] :: name :: rest, w =>
    match optionNames.lookup (String.ofList name) with
    | some letter => readShellWords rest { w with options := (setOption (sign == '-') letter w.options).getD w.options }
    | none => .error (Octets.ofText "Illegal option -o " ++ name)
  | (sign :: c :: cs) :: rest, w =>
    if sign != '-' && sign != '+' then .ok { w with words := (sign :: c :: cs) :: rest }
    else
      let step (w : Except Octets ShellWords) (letter : Char) : Except Octets ShellWords :=
        w.bind fun w =>
          if letter = 'c' then .ok { w with inWords := true }
          else if letter = 's' then .ok { w with inInput := true }
          else
            match setOption (sign == '-') letter w.options with
            | some options => .ok { w with options }
            | none => .error (Octets.ofText "Illegal option -" ++ [letter])
      match (c :: cs).foldl step (.ok w) with
      | .ok w => readShellWords rest w
      | .error message => .error message
  | words, w => .ok { w with words }

/-- Run an action to its end and then the trap on leaving. The result is the exit status. -/
def leaving (e : Engine) (action : Exec Unit) : Exec Nat := do
  let statusOf (result : Except Stop Unit) : Exec Nat := do
    match result with
    | .error (.exited status) => return status
    | .error (.returned status) => return status
    | .error (.killed process signal) => throw (.killed process signal)
    | .error .expired => throw .expired
    | _ => return (← Exec.process).status
  let status ← statusOf (← Exec.catching action)
  match ← trap? 0 with
  | none => return status
  | some action =>
    Exec.modifyProcess fun p =>
      { p with status, traps := p.traps.filter fun t => t.1 != trapName 0 }
    match ← Exec.catching (runText e action) with
    | .ok () => return status
    | .error (.exited last) => return last
    | .error (.killed process signal) => throw (.killed process signal)
    | .error .expired => throw .expired
    | _ => return status

/-- The text of a script file. -/
def scriptText (name : Octets) : Exec (Except SystemError Octets) := do
  match ← Exec.readFile name with
  | .error e => return .error e
  | .ok flow => return .ok flow.start

/-- A shell, in a process of its own. -/
def Engine.shell (e : Engine) (words : List Octets) (environment : List (Octets × Octets)) :
    Exec Nat := do
  Exec.modifyProcess fun p =>
    { p with
      shell := p.id
      bindings := startingVariables p.directory environment
      arguments := [], name := ['s', 'h'], command := none, status := 0, line := 0, functions := []
      traps := p.traps.filter fun t => t.2.isEmpty
      jobs := [], lastJob := none, substituted := none, options := noOptions, guarded := false, loops := 0, hidden := [] }
  match readShellWords words ⟨false, false, noOptions, []⟩ with
  | .error message =>
    report message
    return 2
  | .ok w =>
    Exec.modifyProcess fun p => { p with options := w.options }
    if w.inWords then
      match w.words with
      | [] =>
        report (Octets.ofText "-c requires an argument")
        return 2
      | script :: rest =>
        Exec.modifyProcess fun p =>
          { p with name := rest.headD p.name, arguments := rest.drop 1, line := 1 }
        leaving e (runText e script)
    else
      match w.inInput, w.words with
      | true, arguments =>
        Exec.modifyProcess fun p => { p with arguments }
        leaving e (runText e (← Exec.takeAll 0))
      | false, [] => leaving e (runText e (← Exec.takeAll 0))
      | false, file :: arguments =>
        match ← scriptText file with
        | .error reason =>
          report (Octets.ofText "cannot open " ++ file ++ Octets.ofText (": " ++ openingMessage false reason))
          return 2
        | .ok script =>
          Exec.modifyProcess fun p => { p with name := file, arguments, line := 1 }
          leaving e (runText e script)

/-- The interpreter that the first line of a script names, with the words before the script. -/
def interpreter? (content : Octets) : Option (Octets × List Octets) :=
  match content with
  | '#' :: '!' :: rest =>
    let line := (rest.takeWhile (· != '\n')).dropWhile Octets.isBlank
    let program := line.takeWhile fun c => !Octets.isBlank c
    let argument := ((line.drop program.length).dropWhile Octets.isBlank).reverse.dropWhile Octets.isBlank
    some (program, if argument.isEmpty then [] else [argument.reverse])
  | _ => none

/-- Run a program file in the process that it takes over. -/
def Engine.program (e : Engine) (start : List Octets → List (Octets × Octets) → Exec Nat)
    (path : Path) (word : Octets) (words : List Octets) (environment : List (Octets × Octets)) :
    Exec Nat := do
  Exec.spend loadTime
  match Tool.nameAt? path with
  | some name =>
    match Tool.all.lookup name with
    | some tool => tool words
    | none =>
      if name = "sh" || name = "dash" then e.shell words environment
      else start (Octets.ofText name :: words) environment
  | none =>
    match (← Exec.machine).files.read path with
    | .error _ => return 126
    | .ok bytes =>
      match interpreter? (Octets.ofBytes bytes) with
      | none => e.shell (word :: words) environment
      | some (program, before) =>
        if (Tool.nameAt? (Path.resolve [] program.toText)).isSome then
          start (program :: before ++ word :: words) environment
        else do
          report (word ++ Octets.ofText ": not found")
          return 127

/-- The programs that start other programs, as words with the name of the program first. -/
def startWith (e : Engine) : Nat → List Octets → List (Octets × Octets) → Exec Nat
  | 0, _, _ => return 126
  | fuel + 1, words, environment => do
    let p ← Exec.process
    let search := (environment.lookup "PATH".toList).getD defaultPath
    let run (caller : String) (words : List Octets) (environment : List (Octets × Octets)) : Exec Nat := do
      let word := words.headD []
      match findProgram (← Exec.machine).files p.directory search word with
      | .ok path =>
        Exec.modifyProcess fun p => { p with bindings := givenVariables environment }
        e.program (startWith e fuel) path word (words.drop 1) environment
      | .error .missing =>
        Tool.complain caller (Tool.quoted word ++ Octets.ofText ": No such file or directory")
        return 127
      | .error .denied =>
        Tool.complain caller (Tool.quoted word ++ Octets.ofText ": Permission denied")
        return 126
    match words with
    | name :: rest =>
      if Tool.baseName name = "env".toList then
        let rec settle : List Octets → List (Octets × Octets) → List Octets × List (Octets × Octets)
          | ['-', 'i'] :: rest, _ => settle rest []
          | ['-'] :: rest, _ => settle rest []
          | ['-', 'u'] :: name :: rest, vs => settle rest (vs.filter fun v => v.1 != name)
          | word :: rest, vs =>
            match nameAndValue word with
            | (name, some value) => settle rest ((name, value) :: vs.filter fun v => v.1 != name)
            | (_, none) => (word :: rest, vs)
          | [], vs => ([], vs)
        let (command, environment) := settle rest environment
        if command.isEmpty then
          Exec.write 1 (Octets.unlines (environment.reverse.map fun (name, x) => name ++ '=' :: x))
          return 0
        run "env" command environment
      else if Tool.baseName name = "timeout".toList then
        match rest with
        | time :: command =>
          match Tool.duration? time with
          | some (some limit) =>
            let m ← Exec.machine
            let deadline := min m.deadline (m.clock + limit)
            Exec.modifyMachine fun m => { m with deadline }
            let result ← Exec.catching (run "timeout" command environment)
            Exec.modifyMachine fun n => { n with deadline := m.deadline }
            match result with
            | .ok status => return status
            | .error .expired =>
              Exec.waitUntil deadline
              return 124
            | .error stop => throw stop
          | _ => return 125
        | [] => return 125
      else run (String.ofList name) words environment
    | [] => return 0

/-- Programs that start programs that start programs, and so on, are not followed further. -/
def startDepth : Nat := 20

/-- Replace the process by the program of a word. -/
def Engine.become (e : Engine) (word : Octets) (words : List Octets) : Exec Nat := do
  let p ← Exec.process
  match findProgram (← Exec.machine).files p.directory (← searchPath) word with
  | .ok path =>
    Exec.modifyProcess fun p => { p with traps := p.traps.filter fun t => t.1 != trapName 0 }
    e.program (startWith e startDepth) path word words (exported p)
  | .error .missing =>
    report (word ++ Octets.ofText ": not found")
    return 127
  | .error .denied =>
    report (word ++ Octets.ofText ": Permission denied")
    return 126

/-! ### Simple commands -/

/-- Functions that may be running at a time. -/
def maxCalls : Nat := 1000

/-- Run an action while messages name a command. -/
def naming {α : Type} (name : Octets) (action : Exec α) : Exec α := do
  let before := (← Exec.process).command
  Exec.modifyProcess fun p => { p with command := some name }
  restoring (Exec.modifyProcess fun p => { p with command := before }) action

/-- Run a function with its arguments. -/
def callFunction (command : Command → Exec Unit) (body : Command) (arguments : List Octets) :
    Exec Unit := do
  let p ← Exec.process
  if maxCalls ≤ p.hidden.length then
    fatal (Octets.ofText "Maximum function recursion depth (" ++ Octets.ofNat maxCalls ++
      Octets.ofText ") reached")
  let back : Exec Unit := do
    let hidden := ((← Exec.process).hidden.headD [])
    for (name, v) in hidden do
      putVariable name v
    Exec.modifyProcess fun q =>
      { q with arguments := p.arguments, hidden := q.hidden.drop 1, loops := p.loops }
  Exec.modifyProcess fun q => { q with arguments, hidden := [] :: q.hidden, loops := 0 }
  restoring back do
    match ← Exec.catching (command body) with
    | .error (.returned status) => setStatus status
    | .error stop => throw stop
    | .ok () => return

/-- Set variables for the time of an action. -/
def withVariables (assignments : List (Octets × Octets)) (action : Exec Unit) : Exec Unit := do
  let p ← Exec.process
  let back : Exec Unit := do
    for (name, _) in assignments do
      putVariable name (p.bindings.lookup name)
  for (name, value) in assignments do
    setExported name value
  restoring back action

/-- The values of assignments, each seeing those before it. -/
def Engine.assign (e : Engine) : List (Octets × Word) → Exec (List (Octets × Octets))
  | [] => return []
  | (name, word) :: rest => do
    let value ← e.text word
    setValue name value
    return (name, value) :: (← e.assign rest)

/-- Show a command before it is run. -/
def trace (words : List Octets) : Exec Unit := do
  if (← Exec.process).options.xtrace then
    let before := (← value? "PS4".toList).getD []
    Exec.write 2 (before ++ Octets.join [' '] words ++ ['\n'])

/-- What a word means as the name of a command, shortly or in words; none if there is no such
command. -/
def meaning? (long : Bool) (word : Octets) : Exec (Option Octets) := do
  let p ← Exec.process
  let name := String.ofList word
  let say (what : String) : Option Octets :=
    some (if long then word ++ Octets.ofText (" is " ++ what) else word)
  if keywords.contains name then return say "a shell keyword"
  if (p.functions.lookup word).isSome then return say "a shell function"
  if (special.lookup name).isSome || ["exec", "eval", "."].contains name then
    return say "a special shell builtin"
  if (ordinary.lookup name).isSome || ["command", "type"].contains name then
    return say "a shell builtin"
  match findProgram (← Exec.machine).files p.directory (← searchPath) word with
  | .ok path =>
    let text := if word.contains '/' then word else Octets.ofText (Path.toText path)
    return some (if long then word ++ Octets.ofText " is " ++ text else text)
  | .error _ => return none

/-- Show what words mean. -/
def describe (long : Bool) (words : List Octets) : Exec Nat := do
  let mut status := 0
  for word in words do
    match ← meaning? long word with
    | some text => Exec.write 1 (text ++ ['\n'])
    | none =>
      if long then Exec.write 1 (word ++ Octets.ofText ": not found\n")
      status := 127
  return status

/-- Run the command that some words mean. -/
def Engine.invoke (e : Engine) (command : Command → Exec Unit) (assignments : List (Octets × Octets))
    (redirections : List Redirection) : Nat → List Octets → Exec Unit
  | 0, _ => return
  | _ + 1, [] => return
  | fuel + 1, word :: words => do
    let name := String.ofList word
    let p ← Exec.process
    let builtin (must : Bool) (action : Exec Nat) : Exec Unit :=
      e.redirected must redirections do setStatus (← naming word action)
    if name = "exec" then
      if !(← e.redirectAll redirections) then throw (.exited 2)
      match words with
      | [] => setStatus 0
      | word :: words =>
        for (name, value) in assignments do
          setExported name value
        throw (.exited (← naming "exec".toList (e.become word words)))
    else if name = "eval" then
      withVariables assignments <| builtin true do
        setStatus 0
        runText e (Octets.join [' '] words)
        return (← Exec.process).status
    else if name = "." then
      builtin true do
        match words with
        | [] => return 0
        | file :: _ =>
          match ← scriptText file with
          | .ok script =>
            setStatus 0
            match ← Exec.catching (naming file (runText e script)) with
            | .error (.returned status) => return status
            | .error stop => throw stop
            | .ok () => return (← Exec.process).status
          | .error reason =>
            fatal (Octets.ofText "cannot open " ++ file ++ Octets.ofText (": " ++ openingMessage false reason))
    else
      match special.lookup name, p.functions.lookup word with
      | some b, _ =>
        for (name, value) in assignments do
          setValue name value
        builtin true (b e words)
      | none, some body =>
        withVariables assignments (e.redirected false redirections (callFunction command body words))
      | none, none =>
        if name = "command" then
          match words with
          | ['-', 'v'] :: words => builtin false (describe false (words.take 1))
          | ['-', 'V'] :: words => builtin false (describe true (words.take 1))
          | ['-', 'p'] :: words => e.invoke command assignments redirections fuel words
          | words =>
            Exec.modifyProcess fun q => { q with functions := [] }
            restoring (Exec.modifyProcess fun q => { q with functions := p.functions })
              (e.invoke command assignments redirections fuel words)
        else if name = "type" then builtin false (describe true words)
        else
          match ordinary.lookup name with
          | some b => withVariables assignments (builtin false (b e words))
          | none =>
            let status ← inChild do
              for (name, value) in assignments do
                setExported name value
              if ← e.redirectAll redirections then throw (.exited (← e.become word words))
              else throw (.exited 2)
            setStatus status

/-- Run a simple command. -/
def Engine.simple (e : Engine) (command : Command → Exec Unit) (line : Nat)
    (assignments : List (Octets × Word)) (words : List Word) (redirections : List Redirection) :
    Exec Unit := do
  Exec.modifyProcess fun p => { p with line, substituted := none }
  Exec.spend commandTime
  let fields ← e.allFields words
  match fields with
  | [] =>
    e.redirected false redirections do
      let values ← e.assign assignments
      trace (values.map fun (name, x) => name ++ '=' :: x)
      setStatus ((← Exec.process).substituted.getD 0)
  | fields =>
    let values ← assignments.mapM fun (name, word) => do return (name, ← e.text word)
    trace (values.map (fun (name, x) => name ++ '=' :: x) ++ fields)
    e.invoke command values redirections (fields.length + 1) fields

/-! ### Compound commands -/

/-- Run an action whose failures are looked at. -/
def guarded {α : Type} (action : Exec α) : Exec α := do
  let before := (← Exec.process).guarded
  Exec.modifyProcess fun p => { p with guarded := true }
  restoring (Exec.modifyProcess fun p => { p with guarded := before }) action

/-- Run commands and tell whether they succeed. -/
def Engine.holds (e : Engine) (test : Body) : Exec Bool := do
  guarded (e.run test)
  return (← Exec.process).status = 0

/-- Whether a loop goes on. When it does not, the status of its last round stays. -/
def Engine.goesOn (e : Engine) (wanted : Bool) (test : Body) : Exec Bool := do
  let before := (← Exec.process).status
  if (← e.holds test) == wanted then return true
  setStatus before
  return false

/-- What a loop does after its body has stopped. -/
inductive After where
  | again
  | leave
  | stop (s : Stop)

def afterBody : Except Stop Unit → After
  | .ok () => .again
  | .error (.broke n) => if n ≤ 1 then .leave else .stop (.broke (n - 1))
  | .error (.continued n) => if n ≤ 1 then .again else .stop (.continued (n - 1))
  | .error s => .stop s

/-- Rounds of a loop. The clock ends a loop long before this number is reached. -/
def maxRounds : Nat := 10 ^ 12

/-- Repeat a body as long as a test holds. -/
def repeatLoop (test : Exec Bool) (body : Exec Unit) : Nat → Exec Unit
  | 0 => throw .expired
  | rounds + 1 => do
    let round : Exec Bool := do
      if ← test then
        body
        return true
      return false
    match ← Exec.catching round with
    | .ok true => repeatLoop test body rounds
    | .ok false => return
    | .error s =>
      match afterBody (.error s) with
      | .again => repeatLoop test body rounds
      | .leave => return
      | .stop s => throw s

def repeatFor (body : Octets → Exec Unit) : List Octets → Exec Unit
  | [] => return
  | word :: rest => do
    match afterBody (← Exec.catching (body word)) with
    | .again => repeatFor body rest
    | .leave => return
    | .stop s => throw s

/-- Run an action as the inside of a loop. -/
def inLoop (action : Exec Unit) : Exec Unit := do
  let before := (← Exec.process).loops
  Exec.modifyProcess fun p => { p with loops := before + 1 }
  restoring (Exec.modifyProcess fun p => { p with loops := before }) action

def Engine.choose (e : Engine) (otherwise : Body) : List (Body × Body) → Exec Unit
  | [] => do
    setStatus 0
    if !otherwise.isEmpty then e.run otherwise
  | (test, body) :: rest => do
    if ← e.holds test then e.run body else e.choose otherwise rest

/-- The body of the first case that a text matches. -/
def Engine.selectCase (e : Engine) (text : Octets) : List (List Word × Body) → Exec (Option Body)
  | [] => return none
  | (patterns, body) :: rest => do
    let hits ← patterns.mapM fun word => do
      return Pattern.isMatch (Pattern.compile (Glyph.marks (← e.expand word))) text
    if hits.any id then return some body else e.selectCase text rest

/-- Run a command; `inner` runs the commands inside it. -/
def Engine.execute (e : Engine) (inner : Command → Exec Unit) : Command → Exec Unit
  | .simple line assignments words redirections => e.simple inner line assignments words redirections
  | .subshell body redirections => do
    let status ← inChild do
      if ← e.redirectAll redirections then throw (.exited (← leaving e (e.run body)))
      else throw (.exited 2)
    setStatus status
  | .group body redirections => e.redirected false redirections (e.run body)
  | .choice branches otherwise redirections =>
    e.redirected false redirections (e.choose otherwise branches)
  | .loop wanted test body redirections =>
    e.redirected false redirections do
      setStatus 0
      inLoop (repeatLoop (e.goesOn wanted test) (e.run body) maxRounds)
  | .forEach name words body redirections =>
    e.redirected false redirections do
      let values ← match words with
        | some words => e.allFields words
        | none => pure (← Exec.process).arguments
      setStatus 0
      inLoop (repeatFor (fun value => do
        Exec.spend commandTime
        setValue name value
        e.run body) values)
  | .select line word cases redirections => do
    Exec.modifyProcess fun p => { p with line }
    e.redirected false redirections do
      let text ← e.text word
      match ← e.selectCase text cases with
      | some body =>
        setStatus 0
        e.run body
      | none => setStatus 0
  | .define name body => do
    Exec.modifyProcess fun p =>
      { p with functions := (name, body) :: p.functions.filter fun f => f.1 != name }
    setStatus 0

/-- Run a command, unless the shell only reads them. -/
def Engine.command (e : Engine) (inner : Command → Exec Unit) (c : Command) : Exec Unit := do
  if !(← Exec.process).options.noexec then e.execute inner c

/-! ### Pipelines and jobs -/

/-- Go back to an earlier time, to run what happens at the same time. -/
def setClock (time : Nat) : Exec Unit := Exec.modifyMachine fun m => { m with clock := time }

/-- Run the commands of a pipeline, each with the output of the one before it. They start at one
time, and the pipeline ends when all of them have ended. -/
def Engine.stages (e : Engine) (command : Command → Exec Unit) (start latest : Nat)
    (input : Option Nat) : List Command → Exec Unit
  | [] => return
  | c :: rest => do
    setClock start
    let output ← if rest.isEmpty then pure none
      else pure (some (← Exec.openChannel (.sink [] true)))
    let status ← inChild do
      if input.isSome then Exec.setDescriptor 0 input
      if output.isSome then Exec.setDescriptor 1 output
      throw (.exited (← leaving e (command c)))
    let ended := (← Exec.machine).clock
    let latest := max latest ended
    setStatus status
    match output with
    | none => setClock latest
    | some n =>
      let flow := match (← Exec.machine).channels[n]? with
        | some (.sink chunks _) => Exec.collect chunks
        | _ => ⟨[], []⟩
      let next ← Exec.openChannel (.source flow ended)
      e.stages command start latest (some next) rest

def Engine.pipeline (e : Engine) (command : Command → Exec Unit) : Pipeline → Exec Unit
  | .mk negated stages => do
    let run : Exec Unit := match stages with
      | [one] => command one
      | stages => do
        let now := (← Exec.machine).clock
        e.stages command now now none stages
    if negated then
      guarded run
      setStatus (if (← Exec.process).status = 0 then 1 else 0)
    else
      run
      let p ← Exec.process
      if p.options.errexit && !p.guarded && p.status != 0 then throw (.exited p.status)

/-- Whether a pipeline is run after one that has succeeded or failed. -/
def Joint.allows (succeeded : Bool) : Joint → Bool
  | .ifSuccess => succeeded
  | .ifFailure => !succeeded

/-- Run pipelines after the first one, each if the status before it allows it. Only the failure of
the last one counts for the script. -/
def Engine.follow (e : Engine) (command : Command → Exec Unit) : List (Joint × Pipeline) → Exec Unit
  | [] => return
  | (joint, next) :: rest => do
    if joint.allows ((← Exec.process).status == 0) then
      let run := e.pipeline command next
      if rest.isEmpty then run else guarded run
    e.follow command rest

/-- Run pipelines that are joined. -/
def Engine.joined (e : Engine) (command : Command → Exec Unit) (first : Pipeline)
    (rest : List (Joint × Pipeline)) : Exec Unit := do
  let run := e.pipeline command first
  if rest.isEmpty then run else guarded run
  e.follow command rest

/-- Run an action in the background: all of it in advance, with its output marked by its time. -/
def inBackground (e : Engine) (action : Exec Unit) : Exec Unit := do
  Exec.spend forkTime
  let m ← Exec.machine
  let id ← newProcess
  Exec.modifyMachine fun m => { m with job := id }
  let nothing ← Exec.openChannel .null
  let result ← Exec.catching <| Exec.apart do
    Exec.modifyProcess fun p =>
      { p with id, jobs := [], traps := p.traps.filter fun t => t.2.isEmpty }
    Exec.setDescriptor 0 (some nothing)
    leaving e action
  let now := (← Exec.machine).clock
  let job : Job := match result with
    | .ok status => ⟨id, now, status⟩
    | .error (.killed process signal) =>
      if process = id then ⟨id, now, 128 + signal⟩ else ⟨id, now, 0⟩
    | .error _ => ⟨id, m.deadline, 0⟩
  if let .error (.killed process signal) := result then
    if process != id then Exec.modifyMachine fun m => { m with alarm := some (now, process, signal) }
  Exec.modifyMachine fun n => { n with clock := m.clock, job := m.job }
  Exec.modifyProcess fun p => { p with jobs := job :: p.jobs, lastJob := some id, status := 0 }

def Engine.item (e : Engine) (command : Command → Exec Unit) : Item → Exec Unit
  | .mk first rest background =>
    let action := e.joined command first rest
    if background then inBackground e action else action

/-! ### The knot -/

/-- More nesting than this ends a process, as a stack that is full would. -/
def maxDepth : Nat := 10000

def tooDeep {α : Type} : Exec α := do throw (.killed (← Exec.process).id 11)

/-- Run a command, down to some depth of nesting. -/
def runCommand (e : Engine) : Nat → Command → Exec Unit
  | 0, _ => tooDeep
  | fuel + 1, c => e.command (runCommand e fuel) c

def runItems (e : Engine) : Body → Exec Unit
  | [] => return
  | item :: rest => do
    e.item (runCommand e 3) item
    runItems e rest

/-- The meaning of scripts that are nested up to a depth. -/
def engine : Nat → Engine
  | 0 => ⟨fun _ => tooDeep, fun _ => tooDeep⟩
  | depth + 1 =>
    let e := engine depth
    ⟨fun body => runItems e body, fun word => e.pieces word⟩

end Assay.Sandbox.Shell
